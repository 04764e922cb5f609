import RewardLedger.Effect
import RewardLedger.Share
import RewardLedger.Wire.Ledger

/-!
# Crediting users

Users are credited for scheduled draws and for the events that partners report.
Every credit that the store commits is published once, to the latest incomes
and to the feed; a credit that is refused is not published.
-/

namespace RewardLedger.Crediting

open ServiceStep

/-- Tell of a committed credit. Nobody waits for the clients of the feed. -/
def publish (receipt : Receipt) : ServiceStep PUnit := do
  let notice := IncomeNotice.ofReceipt receipt
  perform (.cache (.remember notice))
  perform (.broadcast (Frame.ofNotice notice).text)

/-- Refuse a draw that is not due. The store checks once more when it credits,
for another draw may come in between. -/
def requireDue (id : Int) (user : User) (now : Instant) : ServiceStep PUnit :=
  match user.rewardDue? now with
  | none => throw .outOfRange
  | some false => refuse (.rewardNotDue id)
  | some true => pure ⟨⟩

/-- Draw an amount from the bands that apply to the pool of the day. -/
def drawAmount (policy : RewardPolicy) (now : Instant) : ServiceStep Int := do
  let pool ← perform (.cache (.pool now))
  let bands ← perform (.cache (.bands (.ofPool pool policy.threshold)))
  let drawn : Except Error Int ← perform (.draw bands)
  match drawn with
  | .ok amount => return amount
  | .error cause => refuse cause

/-- Pay a scheduled reward. -/
def draw (id : Int) (now : Instant) : ServiceStep Income := do
  let user ← ask (.user id)
  requireDue id user now
  let policy ← perform (.cache .policy)
  let amount ← drawAmount policy now
  let share := if user.referrer.isSome then referrerShare amount policy.referrerRate else 0
  let receipt ← ask (.creditReward ⟨id, amount, share, now⟩)
  let disbursed ← ofOutcome (.ofRange receipt.disbursed?)
  ofOutcome (← perform (.cache (.addToPool now disbursed)))
  publish receipt
  return receipt.income

/-- Credit a partner's event. A second delivery of it is refused as a
duplicate. -/
def creditPartner (source : IncomeSource) (key : String) (user amount : Int) :
    ServiceStep Income := do
  if ¬ source.IsPartner then
    refuse (.invalidSource source.name)
  if amount ≤ 0 then
    refuse (.invalidAmount amount)
  let policy ← perform (.cache .policy)
  let share := referrerShare amount policy.referrerRate
  let now ← perform .now
  let receipt ← ask (.creditPartner ⟨source, key, user, amount, share, now⟩)
  publish receipt
  return receipt.income

/-- A delivery is refused at once, though not as a duplicate, or it is a positive amount
of a partner, which is credited and published. -/
theorem creditPartner_cases (source : IncomeSource) (key : String) (user amount : Int) :
    (∃ cause : Error, ¬ cause.IsDuplicate
        ∧ creditPartner source key user amount = refuse cause)
      ∨ source.IsPartner ∧ 0 < amount ∧ creditPartner source key user amount = (do
        let policy ← perform (.cache .policy)
        let share := referrerShare amount policy.referrerRate
        let now ← perform .now
        let receipt ← ask (.creditPartner ⟨source, key, user, amount, share, now⟩)
        publish receipt
        return receipt.income) := by
  unfold creditPartner
  by_cases partner : source.IsPartner
  · rw [if_neg (not_not_intro partner)]
    by_cases positive : amount ≤ 0
    · rw [if_pos positive]
      exact .inl ⟨.invalidAmount amount, not_false, rfl⟩
    · rw [if_neg positive]
      exact .inr ⟨partner, Int.not_le.1 positive, rfl⟩
  · rw [if_pos partner]
    exact .inl ⟨.invalidSource source.name, not_false, rfl⟩

end RewardLedger.Crediting
