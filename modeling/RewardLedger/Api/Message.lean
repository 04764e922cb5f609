import RewardLedger.Income
import RewardLedger.User
import RewardLedger.Withdrawal
import RewardLedger.Json.Value

/-!
# Requests and answers of the interface

What clients send in the body of a request, and what they are told in answer.
-/

namespace RewardLedger.Api

/-- A request to register a user. -/
structure Signup where
  email : String
  address : String
  /-- The referrer; one that is not known is dropped, not refused. -/
  referrer : Option Int
  rewardInterval : Option Int
  deriving DecidableEq, Repr

/-- A partner's notice of an event. -/
structure PartnerNotice where
  key : String
  user : Int
  amount : Int
  deriving DecidableEq, Repr

/-- A request to withdraw an amount, to the registered address unless another
is given. -/
structure Payout where
  amount : Int
  address : Option String
  deriving DecidableEq, Repr

/-- A request to move withdrawals along the pipeline. -/
structure Advance where
  ids : List Int
  current : WithdrawalStatus
  next : WithdrawalStatus
  transaction : Option String
  deriving DecidableEq, Repr

/-- How many withdrawals were moved. -/
structure Advanced where
  count : Nat
  deriving DecidableEq, Repr

/-- Withdrawals of a user, newest first. -/
structure WithdrawalPage where
  items : List Withdrawal
  deriving DecidableEq, Repr

/-- Incomes of a user, newest first, and the number of all of them. -/
structure IncomePage where
  count : Int
  items : List Income
  deriving DecidableEq, Repr

/-- Users referred by a user, oldest first. -/
structure RefereePage where
  items : List User
  deriving DecidableEq, Repr

/-- A part of a list: how many items at most, and how many to skip. -/
structure PageRequest where
  limit : Option Int
  offset : Option Int
  deriving DecidableEq, Repr

namespace PageRequest

/-- The items on a page when the request does not say. -/
def defaultLimit : Int := 20

/-- The most items on a page. -/
def greatestLimit : Int := 100

/-- The limit that applies: at least one item, and not too many. -/
def pageLimit (p : PageRequest) : Int :=
  max 1 (min (p.limit.getD defaultLimit) greatestLimit)

/-- The offset that applies. -/
def pageOffset (p : PageRequest) : Int := max (p.offset.getD 0) 0

theorem pageLimit_bounds (p : PageRequest) :
    1 ≤ p.pageLimit ∧ p.pageLimit ≤ greatestLimit := by
  unfold pageLimit greatestLimit
  omega

theorem pageOffset_nonneg (p : PageRequest) : 0 ≤ p.pageOffset := by
  unfold pageOffset
  omega

end PageRequest

/-- The condition of the service or of one of its parts. -/
inductive Condition where
  | healthy
  | degraded
  | unhealthy
  deriving DecidableEq, Repr

namespace Condition

def all : List Condition := [healthy, degraded, unhealthy]

/-- The name of a condition. -/
def name : Condition → String
  | healthy => "healthy"
  | degraded => "degraded"
  | unhealthy => "unhealthy"

/-- The condition with a given name. -/
def ofName? (text : String) : Option Condition := all.find? fun c => c.name = text

@[simp] theorem ofName?_name (c : Condition) : ofName? c.name = some c := by
  cases c <;> decide

end Condition

/-- The result of one check. -/
structure CheckResult where
  condition : Condition
  details : Option String
  deriving DecidableEq, Repr

/-- The results of all checks and what follows from them. -/
structure HealthReport where
  condition : Condition
  checks : List (String × CheckResult)
  uptime : Nat
  deriving DecidableEq, Repr

/-- What the service says about itself. -/
structure StatusReport where
  name : String
  version : String
  uptime : Nat
  timestamp : String
  additional : List (String × Json)

/-- The envelope of every answer. -/
structure Answer (α : Type) where
  success : Bool
  data : Option α
  error : Option String
  deriving DecidableEq, Repr

namespace Answer

/-- An answer with data. -/
def ofData {α : Type} (a : α) : Answer α := ⟨true, some a, none⟩

/-- An answer with an error. -/
def ofError {α : Type} (message : String) : Answer α := ⟨false, none, some message⟩

end Answer

end RewardLedger.Api
