import RewardLedger.Store.Operation
import RewardLedger.Store.Table

/-!
# The tables of the ledger

Everything that the ledger remembers: users, incomes, withdrawals, what was
paid on each day, the bands and policies, the partners' events that were
credited, and the identifiers given out. Reading is here; writing happens only
inside a write unit.
-/

namespace RewardLedger

/-- The last identifier given out in each table that gives them out. -/
structure Counters where
  users : Int
  incomes : Int
  withdrawals : Int
  deriving DecidableEq, Repr

/-- No identifier given out yet. -/
def Counters.zero : Counters := ⟨0, 0, 0⟩

/-- The tables of the ledger. -/
structure Tables where
  users : Table User
  /-- The user of every registered email. -/
  emails : List (String × Int)
  /-- Oldest first. -/
  incomes : List Income
  /-- What was paid on a day, under the number of the day. -/
  dayTotals : Table Int
  /-- In the order in which they were added. -/
  bands : List RewardBand
  /-- In the order in which they were set. -/
  policies : List RewardPolicy
  withdrawals : Table Withdrawal
  /-- The events that were credited. -/
  events : List PartnerEvent
  counters : Counters
  deriving DecidableEq

namespace Tables

/-- Nothing remembered. -/
def empty : Tables := ⟨∅, [], [], ∅, [], [], ∅, [], .zero⟩

instance : Inhabited Tables := ⟨empty⟩

/-- A page of a list: at most `limit` items after the first `offset`. Negative
numbers count as zero. -/
def page {α : Type} (limit offset : Int) (items : List α) : List α :=
  (items.drop offset.toNat).take limit.toNat

/-- The income belongs to the user and comes from the source, if one is
given. -/
def Matches (user : Int) (source : Option IncomeSource) (i : Income) : Prop :=
  i.user = user ∧ ∀ s, source = some s → i.source = s

instance (user : Int) (source : Option IncomeSource) (i : Income) :
    Decidable (Matches user source i) :=
  match source with
  | none => decidable_of_iff (i.user = user) (by simp [Matches])
  | some s => decidable_of_iff (i.user = user ∧ i.source = s) (by simp [Matches])

/-- The incomes of a user, oldest first. -/
def incomesOf (t : Tables) (user : Int) (source : Option IncomeSource) : List Income :=
  t.incomes.filter fun i => Matches user source i

/-- The withdrawals of a user, oldest first. -/
def withdrawalsOf (t : Tables) (user : Int) : List Withdrawal :=
  t.withdrawals.values.filter fun w => w.user = user

/-- The withdrawals in a status, oldest first. -/
def withdrawalsIn (t : Tables) (status : WithdrawalStatus) : List Withdrawal :=
  t.withdrawals.values.filter fun w => w.status = status

/-- The users who named a referrer, oldest first. -/
def refereesOf (t : Tables) (referrer : Int) : List User :=
  t.users.values.filter fun u => u.referrer = some referrer

/-- The users with a positive balance of at least a minimum, oldest first. -/
def withdrawable (t : Tables) (minBalance : Int) : List User :=
  t.users.values.filter fun u => 0 < u.balance ∧ minBalance ≤ u.balance

/-- The bands of one list. -/
def bandsOf (t : Tables) (level : PoolLevel) : List RewardBand :=
  t.bands.filter fun b => b.level = level

/-- What was paid on a day. -/
def totalOf (t : Tables) (day : Day) : Int := (t.dayTotals.get? day.number).getD 0

/-- Of two policies, the one that was set at the later instant; of two set at
the same instant, the second. -/
def later (a b : RewardPolicy) : RewardPolicy :=
  if a.createdAt ≤ b.createdAt then b else a

/-- The policy in force: the latest, and of several equally late the one that
was set last. -/
def latestPolicy? (t : Tables) : Option RewardPolicy :=
  t.policies.foldl (fun best p => some ((best.map (later · p)).getD p)) none

/-- The user who registered an email. -/
def userOfEmail? (t : Tables) (email : String) : Option Int := t.emails.lookup email

end Tables

end RewardLedger
