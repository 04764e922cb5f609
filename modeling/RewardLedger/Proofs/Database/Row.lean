import RewardLedger.Store.Relational

/-!
# Rows on the way

A database sends the rows that it was asked for as cells under the names of
columns, and the store reads them column by column. What is sent for a row of
the ledger is read as that row again.
-/

namespace RewardLedger

namespace Cell

/-- A number that may be absent. -/
def ofInt? : Option Int → Cell
  | some n => int n
  | none => null

/-- A text that may be absent. -/
def ofText? : Option String → Cell
  | some s => text s
  | none => null

/-- An instant that may be absent. -/
def ofInstant? : Option Instant → Cell
  | some t => instant t
  | none => null

end Cell

namespace Row

/-! ## What is sent -/

/-- The columns of a user. -/
def ofUser (u : User) : Row :=
  ⟨[("id", .int u.id), ("email", .text u.email), ("address", .text u.address),
    ("balance", .int u.balance), ("total_income", .int u.totalIncome),
    ("total_income_from_referees", .int u.totalFromReferees),
    ("referer_total_income", .int u.totalToReferrer), ("referer_id", .ofInt? u.referrer),
    ("reward_interval_secs", .int u.rewardInterval),
    ("rewarded_at", .ofInstant? u.rewardedAt), ("created_at", .instant u.createdAt)]⟩

/-- The columns of an income. -/
def ofIncome (i : Income) : Row :=
  ⟨[("id", .int i.id), ("user_id", .int i.user), ("referer_id", .ofInt? i.referrer),
    ("source", .text i.source.name), ("amount", .int i.amount),
    ("referer_amount", .int i.referrerAmount), ("created_at", .instant i.createdAt)]⟩

/-- The columns of a withdrawal. -/
def ofWithdrawal (w : Withdrawal) : Row :=
  ⟨[("id", .int w.id), ("user_id", .int w.user), ("address", .text w.address),
    ("amount", .int w.amount), ("status", .smallInt w.status.code),
    ("transaction_id", .ofText? w.transaction), ("created_at", .instant w.createdAt),
    ("updated_at", .instant w.updatedAt)]⟩

/-- The columns of a policy. -/
def ofPolicy (p : RewardPolicy) : Row :=
  ⟨[("total_reward_threshold", .int p.threshold), ("referer_reward_rate", .double p.referrerRate),
    ("created_at", .instant p.createdAt)]⟩

/-- The columns of a band, but for the list it is in. -/
def ofBand (b : RewardBand) : Row :=
  ⟨[("min", .int b.min), ("max", .int b.max), ("weight", .int b.weight)]⟩

/-- A row with one column. -/
def ofCell (column : String) (c : Cell) : Row := ⟨[(column, c)]⟩

/-! ## What is read -/

@[simp] theorem user?_ofUser (u : User) : (ofUser u).user? = some u := by
  obtain ⟨_, _, _, _, _, _, _, referrer, _, rewardedAt, _⟩ := u
  cases referrer <;> cases rewardedAt <;> rfl

@[simp] theorem policy?_ofPolicy (p : RewardPolicy) : (ofPolicy p).policy? = some p := rfl

/-- A band is read as one of the list that was asked for. -/
theorem band?_ofBand {level : PoolLevel} {b : RewardBand} (h : b.level = level) :
    (ofBand b).band? level = some b := by
  subst h
  rfl

end Row

namespace DatabaseStep

@[simp] theorem user_ofUser (u : User) : user (.ofUser u) = pure u := by
  unfold user
  rw [Row.user?_ofUser]
  rfl

@[simp] theorem income_ofIncome (i : Income) : income (.ofIncome i) = pure i := by
  obtain ⟨_, _, referrer, source, _, _, _⟩ := i
  cases referrer <;> cases source <;> rfl

@[simp] theorem withdrawal_ofWithdrawal (w : Withdrawal) :
    withdrawal (.ofWithdrawal w) = pure w := by
  obtain ⟨_, _, _, _, status, transaction, _, _⟩ := w
  cases status <;> cases transaction <;> rfl

end DatabaseStep

end RewardLedger
