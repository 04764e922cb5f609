import RewardLedger.Api.Exchange
import RewardLedger.Text.Percent

/-!
# Routes

Which paths there are and which methods they allow. What is reported about the
service lies at the root; the routes of the ledger lie under a base path. A
part of the base path may be a capture, which stands for any text. Only at the
end of a path has a part that stands for something to be there: in front of
another part it may be empty.
-/

namespace RewardLedger.Api

/-- One part of a base path. -/
inductive PathPart where
  | literal (text : List Char)
  /-- A fixed beginning, and after it any text. -/
  | capture (lead : List Char)
  deriving DecidableEq, Repr

namespace PathPart

/-- The part that a text describes: a colon begins the name of a capture. A
star would stand for all parts at once, which a base path cannot. -/
def parse? (cs : List Char) : Option PathPart :=
  if '*' ∈ cs then none
  else if ':' ∈ cs then
    let name := (cs.dropWhile (· ≠ ':')).drop 1
    if name = [] ∨ ':' ∈ name then none else some (.capture (cs.takeWhile (· ≠ ':')))
  else some (.literal cs)

/-- What a part captures of a text, if it fits the text. -/
def captures? (p : PathPart) (cs : List Char) : Option (List (List Char)) :=
  match p with
  | literal text => if text = cs then some [] else none
  | capture lead => if lead.isPrefixOf cs then some [cs.drop lead.length] else none

end PathPart

/-- The parts of a path after its first slash. -/
def pathParts (path : List Char) : List (List Char) := (Text.cut '/' path).drop 1

/-- The base path of the routes of the ledger; no parts for the root. -/
structure BasePath where
  parts : List PathPart
  deriving DecidableEq, Repr

namespace BasePath

/-- The root. -/
def root : BasePath := ⟨[]⟩

/-- The base path that a text describes: it begins with a slash. -/
def parse? (text : String) : Option BasePath :=
  if text.toList.head? = some '/' then
    ((pathParts text.toList).mapM PathPart.parse?).map BasePath.mk
  else none

/-- The base path of an interface. -/
def ofInterface? : Option String → Option BasePath
  | none => some root
  | some text => parse? text

/-- What parts capture of a path, and the parts of the path that are left. -/
def walk : List PathPart → List (List Char) → Option (List (List Char) × List (List Char))
  | [], rest => some ([], rest)
  | _ :: _, [] => none
  | p :: ps, cs :: rest => do
    let own ← p.captures? cs
    let (further, rest) ← walk ps rest
    some (own ++ further, rest)

end BasePath

/-- The routes. The parts of a path that name something are kept as they are
written. -/
inductive Route where
  | health
  | status
  | metrics
  | feed
  | users
  | user (id : List Char)
  | referees (id : List Char)
  | rewards (id : List Char)
  | incomes (id : List Char)
  | refereeIncomes (id referee : List Char)
  | withdrawals (id : List Char)
  | advance
  | callbacks (source : List Char)
  deriving DecidableEq, Repr

namespace Route

/-- The methods that a route allows, in alphabetical order. What can be read
can also be asked for without its content. -/
def methods : Route → List String
  | users | rewards _ | advance | callbacks _ => ["POST"]
  | withdrawals _ => ["GET", "HEAD", "POST"]
  | _ => ["GET", "HEAD"]

/-- The route of the root with a given path. -/
def ofRootParts? (metrics : Bool) (parts : List (List Char)) : Option Route :=
  match parts.map String.ofList with
  | ["health"] => some health
  | ["status"] => some status
  | ["metrics"] => if metrics then some .metrics else none
  | _ => none

/-- The route of the ledger with a given path. A part that should name
something may not be empty at the end of the path. -/
def ofLedgerParts? (parts : List (List Char)) : Option Route :=
  match parts.map String.ofList, parts with
  | ["websocket"], _ => some feed
  | ["users"], _ => some users
  | ["users", _], [_, id] => if id = [] then none else some (user id)
  | ["users", _, "referees"], [_, id, _] => some (referees id)
  | ["users", _, "rewards"], [_, id, _] => some (rewards id)
  | ["users", _, "incomes"], [_, id, _] => some (incomes id)
  | ["users", _, "withdrawals"], [_, id, _] => some (withdrawals id)
  | ["users", _, "referees", _, "incomes"], [_, id, _, referee, _] =>
    some (refereeIncomes id referee)
  | ["withdrawals", "advance"], _ => some advance
  | ["callbacks", _], [_, source] =>
    if source = [] then none else some (callbacks source)
  | _, _ => none

end Route

/-- A route that was found, and what the base path captured on the way. -/
structure Found where
  route : Route
  captured : List (List Char)
  deriving DecidableEq, Repr

/-- Find the route of a path. -/
def findRoute? (base : BasePath) (metrics : Bool) (path : List Char) : Option Found :=
  match Route.ofRootParts? metrics (pathParts path) with
  | some route => some ⟨route, []⟩
  | none => do
    let (captured, rest) ← BasePath.walk base.parts (pathParts path)
    let route ← Route.ofLedgerParts? rest
    some ⟨route, captured⟩

end RewardLedger.Api
