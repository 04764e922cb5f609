import RewardLedger.IncomeSource
import RewardLedger.Text.Decimal
import RewardLedger.Withdrawal

/-!
# Errors

An error is a cause. Its wording is one function, `Error.message`, and whether
it may pass on a later attempt is another. Arithmetic that leaves its range is
not an error but a **fault**: what was going on is abandoned, and nothing is
said about it.
-/

namespace RewardLedger

/-- Why an operation was refused. -/
inductive Error where
  /-- The event was credited before. Callers take this for success. -/
  | duplicate (source : IncomeSource) (key : String) (user : Int)
  | insufficientBalance (user requested : Int)
  | duplicateEmail (email : String)
  | rewardNotDue (user : Int)
  /-- A row that the operation builds on is missing. -/
  | missingRow (detail : String)
  | batchMismatch (expected affected : Nat)
  | invalidTransition (current next : WithdrawalStatus)
  | invalidAmount (amount : Int)
  | invalidAddress (detail : String)
  | invalidSource (name : String)
  | notFound (what : String)
  | config (detail : String)
  | unknown (detail : String)
  | file (detail : String)
  | json
  deriving DecidableEq, Repr

namespace Error

/-- The wording of an error. -/
def message : Error → String
  | duplicate source key user =>
    "Duplicate " ++ source.name ++ " event " ++ key ++ " for user " ++ Text.ofInt user
  | insufficientBalance user requested =>
    "Insufficient balance: user " ++ Text.ofInt user ++ " cannot withdraw "
      ++ Text.ofInt requested
  | duplicateEmail email => "Email already registered: " ++ email
  | rewardNotDue user => "Reward for user " ++ Text.ofInt user ++ " is not due yet"
  | missingRow detail => "Insufficient reference row: " ++ detail
  | batchMismatch expected affected =>
    "Batch progress mismatch: expected " ++ Text.ofNat expected ++ " rows, advanced "
      ++ Text.ofNat affected
  | invalidTransition current next =>
    "Invalid withdrawal transition from " ++ current.name ++ " to " ++ next.name
  | invalidAmount amount => "Invalid amount: " ++ Text.ofInt amount
  | invalidAddress detail => "Invalid payout address: " ++ detail
  | invalidSource name => "Invalid income source: " ++ name
  | notFound what => "Not found: " ++ what
  | config detail => "Configuration error: " ++ detail
  | unknown detail => "Unknown error: " ++ detail
  | file detail => "IO error: " ++ detail
  | json => "JSON error"

/-- The event had been credited before. -/
def IsDuplicate : Error → Prop
  | duplicate .. => True
  | _ => False

instance (e : Error) : Decidable e.IsDuplicate := by
  cases e <;> simp only [IsDuplicate] <;> infer_instance

/-- Whether a caller may try again later and succeed. -/
def IsRetryable : Error → Prop
  | unknown _ | file _ | missingRow _ | batchMismatch .. => True
  | _ => False

instance (e : Error) : Decidable e.IsRetryable := by
  cases e <;> simp only [IsRetryable] <;> infer_instance

/-- The error for a user without a row. -/
def noSuchUser (user : Int) : Error := .notFound ("user " ++ Text.ofInt user)

/-- The error for a credit to a user without a row. -/
def noRowForUser (user : Int) : Error :=
  .missingRow ("user " ++ Text.ofInt user ++ " not found")

/-- The error for a status code that stands for no status. -/
def unknownStatus (code : Int) : Error :=
  .unknown ("unknown withdrawal status code " ++ Text.ofInt code)

end Error

/-- Why an operation did not finish. -/
inductive Fault where
  /-- It was refused, for a cause. -/
  | error (cause : Error)
  /-- A number or a date left its range, and the operation was abandoned where
  it stood. -/
  | outOfRange
  deriving DecidableEq, Repr

/-- The outcome of an operation: a value, an error or a fault. -/
abbrev Outcome (α : Type) := Except Fault α

namespace Outcome

/-- Refuse for a cause. -/
def refuse {α : Type} (cause : Error) : Outcome α := .error (.error cause)

/-- A value that may have left its range. -/
def ofRange {α : Type} : Option α → Outcome α
  | some a => .ok a
  | none => .error .outOfRange

end Outcome

end RewardLedger
