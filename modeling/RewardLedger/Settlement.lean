import RewardLedger.Effect
import RewardLedger.Text.Blank

/-!
# Settlement

Balances are paid out through withdrawals: on request, or for all users with
enough on their balance at once. Whoever makes the payments moves withdrawals
through the pipeline in batches.
-/

namespace RewardLedger.Settlement

open ServiceStep

/-- Create a withdrawal of a positive amount to an address that is not
blank. -/
def request (user : Int) (address : String) (amount : Int) : ServiceStep Withdrawal := do
  if amount ≤ 0 then
    refuse (.invalidAmount amount)
  if Text.Blank address then
    refuse (.invalidAddress ("empty address for user " ++ Text.ofInt user))
  let now ← perform .now
  ask (.createWithdrawal ⟨user, address, amount, now⟩)

/-- Move a batch of withdrawals from one status to another; either all of them
move or none does. -/
def advance (ids : List Int) (current next : WithdrawalStatus)
    (transaction : Option String) : ServiceStep Nat := do
  if ¬ current.Advances next then
    refuse (.invalidTransition current next)
  let now ← perform .now
  ask (.advanceWithdrawals ids current next transaction now)

/-- What came of paying out all balances. -/
structure Payments where
  created : List Withdrawal
  /-- The users whose withdrawal was refused twice, with the last cause. -/
  failed : List (Int × Error)
  deriving DecidableEq, Repr

namespace Payments

/-- Nothing paid. -/
def none : Payments := ⟨[], []⟩

/-- Add a withdrawal in front. -/
def withCreated (w : Withdrawal) (p : Payments) : Payments :=
  { p with created := w :: p.created }

/-- Add a failure in front. -/
def withFailed (user : Int) (cause : Error) (p : Payments) : Payments :=
  { p with failed := (user, cause) :: p.failed }

end Payments

/-- Request a withdrawal, and once more if it is refused. -/
def requestTwice (user : Int) (address : String) (amount : Int) :
    ServiceStep (Outcome Withdrawal) := do
  match ← observe (request user address amount) with
  | .error (.error _) => observe (request user address amount)
  | outcome => return outcome

/-- Withdraw the whole balance of each of the users, to their own addresses. -/
def payAll : List User → ServiceStep Payments
  | [] => return .none
  | u :: rest => do
    match ← requestTwice u.id u.address u.balance with
    | .ok w => return (← payAll rest).withCreated w
    | .error (.error cause) => return (← payAll rest).withFailed u.id cause
    | .error .outOfRange => throw .outOfRange

/-- Withdraw the whole balance of every user who holds at least a minimum. -/
def sweep (minBalance : Int) : ServiceStep Payments := do
  payAll (← ask (.withdrawableUsers minBalance))

end RewardLedger.Settlement
