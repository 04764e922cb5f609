import RewardLedger.Time.Instant

/-!
# Users

A user holds a balance, the sums that led to it, and perhaps a referrer, who
shares in what the user earns. A user may draw a scheduled reward once an
interval of its own has passed since the last one.
-/

namespace RewardLedger

/-- One user. -/
structure User where
  id : Int
  email : String
  /-- The payout address, which the live feed shows as well. -/
  address : String
  balance : Int
  /-- The sum of the user's own credits. -/
  totalIncome : Int
  /-- The sum of the shares in credits of users referred by this one. -/
  totalFromReferees : Int
  /-- The sum of the shares that this user's credits gave to its referrer. -/
  totalToReferrer : Int
  /-- The referrer, if the user named one. The row it names may be missing. -/
  referrer : Option Int
  /-- Seconds between two scheduled rewards. -/
  rewardInterval : Int
  /-- When the last scheduled reward was credited. -/
  rewardedAt : Option Instant
  createdAt : Instant
  deriving DecidableEq, Repr

/-- What is known of a user before there is a row. -/
structure NewUser where
  email : String
  address : String
  referrer : Option Int
  rewardInterval : Int
  deriving DecidableEq, Repr

/-- Seconds between scheduled rewards when a sign-up does not say. -/
def NewUser.defaultRewardInterval : Int := 300

namespace User

/-- Whether a scheduled reward is due: at once for a user who never had one,
otherwise when the interval has passed since the last. There is no answer when
the interval cannot be measured or ends beyond the admitted days. -/
def rewardDue? (u : User) (now : Instant) : Option Bool :=
  match u.rewardedAt with
  | none => some true
  | some last => (last.plusSeconds? u.rewardInterval).map fun due => decide (due ≤ now)

@[simp] theorem rewardDue?_of_never {u : User} (h : u.rewardedAt = none) (now : Instant) :
    u.rewardDue? now = some true := by
  simp [rewardDue?, h]

end User

end RewardLedger
