import RewardLedger.Time.Instant

/-!
# Withdrawals

A withdrawal takes an amount out of a user's balance and sends it to an
address. It is created pending and then moves through the disbursement
pipeline, forward only.
-/

namespace RewardLedger

/-- Where a withdrawal stands in the pipeline. -/
inductive WithdrawalStatus where
  | pending
  | processing
  | processed
  | rejected
  deriving DecidableEq, Repr

namespace WithdrawalStatus

/-- Every status, in the order of the codes. -/
def all : List WithdrawalStatus := [pending, processing, processed, rejected]

/-- The name of a status. -/
def name : WithdrawalStatus → String
  | pending => "pending"
  | processing => "processing"
  | processed => "processed"
  | rejected => "rejected"

/-- The status with a given name. -/
def ofName? (text : String) : Option WithdrawalStatus :=
  all.find? fun s => s.name = text

@[simp] theorem ofName?_name (s : WithdrawalStatus) : ofName? s.name = some s := by
  cases s <;> decide

/-- The number that stands for a status in a row. -/
def code : WithdrawalStatus → Int
  | pending => 0
  | processing => 1
  | processed => 2
  | rejected => 3

/-- The status of a code. -/
def ofCode? (code : Int) : Option WithdrawalStatus :=
  all.find? fun s => s.code = code

@[simp] theorem ofCode?_code (s : WithdrawalStatus) : ofCode? s.code = some s := by
  cases s <;> decide

/-- The moves that the pipeline allows: a pending withdrawal is taken into
processing, one in processing is finished, and either can be rejected. -/
inductive Advances : WithdrawalStatus → WithdrawalStatus → Prop where
  | start : Advances pending processing
  | finish : Advances processing processed
  | rejectPending : Advances pending rejected
  | rejectProcessing : Advances processing rejected

/-- Whether the pipeline allows the move. -/
def canAdvance : WithdrawalStatus → WithdrawalStatus → Bool
  | pending, processing => true
  | processing, processed => true
  | pending, rejected => true
  | processing, rejected => true
  | _, _ => false

theorem canAdvance_iff (a b : WithdrawalStatus) : a.canAdvance b ↔ a.Advances b := by
  constructor
  · intro h
    cases a <;> cases b <;> first | exact absurd h (by decide) | constructor
  · rintro ⟨⟩ <;> rfl

instance (a b : WithdrawalStatus) : Decidable (a.Advances b) :=
  decidable_of_iff _ (canAdvance_iff a b)

end WithdrawalStatus

/-- One withdrawal. -/
structure Withdrawal where
  id : Int
  user : Int
  address : String
  amount : Int
  status : WithdrawalStatus
  /-- The payment that settled it, once there is one. -/
  transaction : Option String
  createdAt : Instant
  updatedAt : Instant
  deriving DecidableEq, Repr

/-- What is asked for when a withdrawal is created. -/
structure NewWithdrawal where
  user : Int
  address : String
  amount : Int
  now : Instant
  deriving DecidableEq, Repr

end RewardLedger
