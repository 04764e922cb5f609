import RewardLedger.Api.MediaType
import RewardLedger.Api.Route
import RewardLedger.Effect

/-!
# Handlers

A handler answers the requests of one route. It first takes out of the request
what it needs, part by part, and a part that cannot be understood ends it
before anything was done. Then it lets the service work, and a refusal of the
service becomes a failure that the client is told.
-/

namespace RewardLedger.Api

/-- Why a handler has no data to give. -/
inductive Rejection where
  /-- The client is told why. -/
  | failure (f : Failure)
  /-- The request was not understood; the status says in which respect. -/
  | unusable (status : Nat)
  deriving DecidableEq, Repr

/-- The response that a rejection leads to. -/
def Rejection.response : Rejection → Response
  | failure f => .ofFailure f
  | unusable status => .unusable status

/-- A handler under way. -/
abbrev Handler (α : Type) := ExceptT Rejection (ExceptT Fault (Program Effect Effect.Reply)) α

namespace Handler

/-- Reject the request with a failure. -/
def fail {α : Type} (f : Failure) : Handler α := throw (.failure f)

/-- Reject a request that is not understood. -/
def reject {α : Type} (status : Nat) : Handler α := throw (.unusable status)

/-- Let the service work. -/
def serve {α : Type} (p : ServiceStep α) : Handler α := do
  match ← (ExceptT.lift (ServiceStep.observe p) : Handler (Outcome α)) with
  | .ok a => return a
  | .error (.error cause) => fail (.ofError cause)
  | .error .outOfRange => ExceptT.lift (throw .outOfRange)

/-- Ask the store. -/
def ask (op : StoreOp) : Handler op.Answer := serve (ServiceStep.ask op)

/-- Perform an effect. -/
def perform (e : Effect) : Handler e.Reply := serve (ServiceStep.perform e)

/-- Go on with a part that could be understood. -/
def need {α : Type} (status : Nat) : Option α → Handler α
  | some a => pure a
  | none => reject status

/-! ## Parts of a request -/

/-- The texts of the parts of a path that name something, those that the base
path captured first. All of them have to be text. -/
def names (captured parts : List (List Char)) : Handler (List (List Char)) :=
  need 400 ((captured ++ parts).mapM Text.pathPart?)

/-- The only name in a path. A handler that expects one has no use for what the
base path captured. -/
def onlyName (captured : List (List Char)) (part : List Char) : Handler (List Char) := do
  match ← names captured [part] with
  | [text] => return text
  | _ => reject 500

/-- The identifier that a part of the path names. -/
def identifier (captured : List (List Char)) (part : List Char) : Handler Int := do
  need 400 (Text.readAmount? (← onlyName captured part))

/-- The first two identifiers in a path. What the base path captured counts,
and what comes after the second is passed over. -/
def identifiers (captured : List (List Char)) (first second : List Char) :
    Handler (Int × Int) := do
  match ← names captured [first, second] with
  | a :: b :: _ => return (← need 400 (Text.readAmount? a), ← need 400 (Text.readAmount? b))
  | _ => reject 500

/-- The value of a field of the query, if it is there. It may not be there
twice. -/
def field? (pairs : List (String × String)) (name : String) : Handler (Option String) := do
  match pairs.filter (·.1 = name) with
  | [] => return none
  | [(_, value)] => return some value
  | _ => reject 400

/-- The value of a field of the query that is a number. -/
def number? (pairs : List (String × String)) (name : String) : Handler (Option Int) := do
  match ← field? pairs name with
  | none => return none
  | some value => return some (← need 400 (Text.readAmount? value.toList))

/-- The page that a query asks for. -/
def page (r : Request) : Handler PageRequest := do
  let pairs := Text.Form.pairs r.query
  return ⟨← number? pairs "limit", ← number? pairs "offset"⟩

/-- The most bytes that a body may have. -/
def bodyLimit : Nat := 2097152

/-- The body of a request, read as JSON. It has to be called JSON and may not
be longer than the limit. What comes after the first value is ignored. -/
def body {α : Type} (reader : Json.Reader α) (r : Request) : Handler α := do
  match (r.header? "content-type").bind MediaType.parse? with
  | some m => if ¬ m.IsJson then reject 415
  | none => reject 415
  if bodyLimit < r.body.utf8ByteSize then
    reject 413
  match reader.headOfText r.body with
  | .ok a => return a
  | .error .malformed => reject 400
  | .error .mismatched => reject 422

end Handler

end RewardLedger.Api
