import RewardLedger.Error
import RewardLedger.Income
import RewardLedger.Reward
import RewardLedger.User
import RewardLedger.Withdrawal

/-!
# Operations of a store

What a store of the ledger can be asked, and what it answers. A write is one
unit: either everything that it touches is changed or nothing is.
-/

namespace RewardLedger

/-- One request to a store. -/
inductive StoreOp where
  /-- Register a user. -/
  | createUser (user : NewUser) (now : Instant)
  /-- The user with an identifier. -/
  | user (id : Int)
  /-- The users who named a referrer, oldest first. -/
  | referees (referrer limit offset : Int)
  /-- The users with a positive balance of at least a minimum, oldest first. -/
  | withdrawableUsers (minBalance : Int)
  /-- The policy that was set last, if any was. -/
  | latestPolicy
  /-- The bands of one list, in the order in which they were added. -/
  | rewardBands (level : PoolLevel)
  /-- What was paid in scheduled rewards on a day. -/
  | dayTotal (day : Day)
  /-- Credit a scheduled reward, if one is due. -/
  | creditReward (credit : RewardCredit)
  /-- Credit a partner's event, unless it was credited before. -/
  | creditPartner (credit : PartnerCredit)
  /-- The incomes of a user, newest first. -/
  | incomes (user : Int) (source : Option IncomeSource) (limit offset : Int)
  /-- The number of incomes of a user. -/
  | countIncomes (user : Int) (source : Option IncomeSource)
  /-- Debit a balance that covers the amount, and create a withdrawal. -/
  | createWithdrawal (order : NewWithdrawal)
  /-- Move all the named withdrawals from one status to another, or none. -/
  | advanceWithdrawals (ids : List Int) (current next : WithdrawalStatus)
      (transaction : Option String) (now : Instant)
  /-- The withdrawals of a user, newest first. -/
  | withdrawals (user limit offset : Int)
  /-- The oldest withdrawals in a status. -/
  | withdrawalsByStatus (status : WithdrawalStatus) (limit : Int)
  /-- Whether the store can be reached. -/
  | checkHealth
  /-- Let go of the store. -/
  | close
  deriving DecidableEq, Repr

namespace StoreOp

/-- The answer to a request that is not refused. -/
@[reducible] def Answer : StoreOp → Type
  | createUser .. => User
  | user _ => User
  | referees .. => List User
  | withdrawableUsers _ => List User
  | latestPolicy => Option RewardPolicy
  | rewardBands _ => List RewardBand
  | dayTotal _ => DayTotal
  | creditReward _ => Receipt
  | creditPartner _ => Receipt
  | incomes .. => List Income
  | countIncomes .. => Int
  | createWithdrawal _ => Withdrawal
  | advanceWithdrawals .. => Nat
  | withdrawals .. => List Withdrawal
  | withdrawalsByStatus .. => List Withdrawal
  | checkHealth => Unit
  | close => Unit

/-- The reply to a request: an answer, a refusal or a fault. -/
abbrev Reply (op : StoreOp) : Type := Outcome op.Answer

/-- A request that may change the store. -/
def IsWrite : StoreOp → Prop
  | createUser .. | creditReward _ | creditPartner _ | createWithdrawal _
  | advanceWithdrawals .. => True
  | _ => False

instance (op : StoreOp) : Decidable op.IsWrite := by
  cases op <;> simp only [IsWrite] <;> infer_instance

end StoreOp

/-- The distinct members of a batch, in ascending order. -/
def distinctAscending (ids : List Int) : List Int :=
  (ids.mergeSort (· ≤ ·)).eraseDups

end RewardLedger
