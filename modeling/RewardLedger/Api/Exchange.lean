import RewardLedger.Api.Failure
import RewardLedger.Wire.Api

/-!
# Requests and responses

What comes in over HTTP and what goes out, as far as the interface looks at it.
-/

namespace RewardLedger.Api

/-- One request. -/
structure Request where
  method : String
  /-- The path and, after a question mark, the query. The scheme and the
  authority of the server may stand before them. -/
  target : String
  headers : List (String × String)
  body : String
  /-- The connection under the request can be handed over to the feed. -/
  upgradable : Bool
  deriving DecidableEq, Repr

namespace Request

/-- The characters of the name of a scheme. -/
def isSchemeChar (c : Char) : Bool := c.isAlphanum || c = '+' || c = '-' || c = '.'

/-- The target from its path on. A target that begins with a slash is all
path; before the path of another one stand a scheme and an authority. -/
def resource (r : Request) : List Char :=
  let cs := r.target.toList
  match cs.dropWhile isSchemeChar with
  | ':' :: '/' :: '/' :: rest =>
    match rest.dropWhile fun c => c ≠ '/' && c ≠ '?' && c ≠ '#' with
    | '/' :: rest => '/' :: rest
    | rest => '/' :: rest
  | _ => cs

/-- The path as it is written. -/
def path (r : Request) : List Char :=
  r.resource.takeWhile fun c => c ≠ '?' && c ≠ '#'

/-- The query as it is written; empty if there is none. -/
def query (r : Request) : List Char :=
  ((r.resource.takeWhile (· ≠ '#')).dropWhile (· ≠ '?')).drop 1

/-- The header in which partners present their secret. -/
def tokenHeader : String := "x-callback-token"

/-- The value of a header, whatever letters its name is written in. -/
def header? (r : Request) (name : String) : Option String :=
  (r.headers.find? fun h => h.1.toLower = name).map (·.2)

end Request

/-- What a response says. -/
inductive Content where
  /-- Nothing. -/
  | none
  | json (value : Json)
  | text (s : String)
  /-- Why the request was not understood, in words that nobody relies on. -/
  | explanation

/-- One response. -/
structure Response where
  status : Nat
  /-- The methods that the path allows, when the response tells them. -/
  allow : Option (List String)
  content : Content
  /-- The response tells a browser what other origins may ask for. -/
  preflight : Bool

namespace Response

/-- A response with JSON. -/
def ofJson (status : Nat) (value : Json) : Response := ⟨status, .none, .json value, false⟩

/-- A response with the data that was asked for. -/
def ofData (value : Json) : Response := ofJson 200 ((Answer.ofData value).json id)

/-- A response with a failure. -/
def ofFailure (f : Failure) : Response :=
  ofJson f.status ((Answer.ofError f.message : Answer Json).json id)

/-- A response to a request that was not understood. -/
def unusable (status : Nat) : Response := ⟨status, .none, .explanation, false⟩

/-- Everybody may ask from any origin. -/
def allowedOrigin : String := "*"

/-- The methods that a browser may use from other origins. -/
def sharedMethods : List String := ["GET", "POST", "OPTIONS"]

/-- The headers that a browser may send from other origins. -/
def sharedHeaders : List String := ["content-type", Request.tokenHeader]

/-- The status that hands a connection over. -/
def switching : Nat := 101

end Response

end RewardLedger.Api
