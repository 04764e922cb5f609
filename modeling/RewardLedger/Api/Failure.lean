import RewardLedger.Error

/-!
# Failures of the interface

How the interface tells a client that a request failed. What may pass on a
later attempt, and what only the operator can mend, is the service's failure;
everything else is the client's to mend.
-/

namespace RewardLedger.Api

/-- Why a request failed, as a client is told. -/
inductive Failure where
  | notFound (detail : String)
  | badRequest (detail : String)
  | conflict (detail : String)
  | tooManyRequests (detail : String)
  | unauthorized (detail : String)
  | forbidden (detail : String)
  | internal (detail : String)
  deriving DecidableEq, Repr

namespace Failure

/-- The status of the response. -/
def status : Failure → Nat
  | notFound _ => 404
  | badRequest _ => 400
  | conflict _ => 409
  | tooManyRequests _ => 429
  | unauthorized _ => 401
  | forbidden _ => 403
  | internal _ => 500

/-- The wording of a failure. -/
def message : Failure → String
  | notFound detail => "Not found: " ++ detail
  | badRequest detail => "Bad request: " ++ detail
  | conflict detail => "Conflict: " ++ detail
  | tooManyRequests detail => "Too many requests: " ++ detail
  | unauthorized detail => "Unauthorized: " ++ detail
  | forbidden detail => "Forbidden: " ++ detail
  | internal detail => "Internal error: " ++ detail

/-- The failure that a cause leads to. -/
def ofError (e : Error) : Failure :=
  if e.IsRetryable then internal e.message
  else
    match e with
    | .notFound _ => notFound e.message
    | .duplicate .. | .duplicateEmail _ => conflict e.message
    | .rewardNotDue _ => tooManyRequests e.message
    | .config _ | .json => internal e.message
    | _ => badRequest e.message

/-- A failure is the service's own exactly when its status begins with five. -/
theorem status_ge_iff (f : Failure) : 500 ≤ f.status ↔ ∃ detail, f = internal detail := by
  cases f <;> simp [status]

end Failure

end RewardLedger.Api
