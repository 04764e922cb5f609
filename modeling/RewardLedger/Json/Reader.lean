import RewardLedger.Json.Document
import RewardLedger.Json.Value

/-!
# Reading values out of documents

A **reader** takes a document for a value of one type. It refuses for one of
two reasons: the text is malformed where the reader looked, or the text is
well formed but says something else than the type can hold. Of several faults
the first in the order of the text decides.

Records are read by their list of fields. An object may give the fields in any
order and may have other members, which only have to be well formed; an array
gives all fields in their order.
-/

namespace RewardLedger.Json

/-- Why a document is refused. -/
inductive Refusal where
  /-- The text is not JSON, or breaks off. -/
  | malformed
  /-- The text is JSON of the wrong shape. -/
  | mismatched
  deriving DecidableEq, Repr

/-- A reader of values of one type. -/
abbrev Reader (α : Type) := Document → Except Refusal α

namespace Document

/-- The refusal of a document that is of the wrong kind. A scalar is read to
its end before it is refused, an array or object is not. -/
def wrongKind : Document → Refusal
  | .malformed => .malformed
  | .string none => .malformed
  | .number n => if n.value = .tooLarge then .malformed else .mismatched
  | _ => .mismatched

end Document

mutual

/-- Nothing in the document is malformed. -/
def Document.wellFormed : Document → Bool
  | .malformed => false
  | .array items => items.wellFormed
  | .object members => members.wellFormed
  | _ => true

/-- The items end properly and none of them is malformed. -/
def Items.wellFormed : Items → Bool
  | .closed => true
  | .broken => false
  | .item head tail => head.wellFormed && tail.wellFormed

/-- The members end properly and none of them is malformed. -/
def Members.wellFormed : Members → Bool
  | .closed => true
  | .broken => false
  | .member _ v tail => v.wellFormed && tail.wellFormed

end

namespace Reader

open Document

/-- Refuse a document of the wrong kind. -/
def reject {α : Type} (d : Document) : Except Refusal α := .error d.wrongKind

/-- Change what is read. -/
def map {α β : Type} (f : α → β) (r : Reader α) : Reader β := fun d => (r d).map f

/-- A whole number in a range. -/
def integer (least greatest : Int) : Reader Int
  | .number n =>
    match n.value with
    | .int i => if least ≤ i ∧ i ≤ greatest then .ok i else .error .mismatched
    | .double _ => .error .mismatched
    | .tooLarge => .error .malformed
  | d => reject d

/-- A number that fits an amount. -/
def amount : Reader Int := integer Amount.least Amount.greatest

/-- A count. -/
def count (greatest : Nat) : Reader Nat := map Int.toNat (integer 0 greatest)

/-- A double; whole numbers are taken for the nearest one. -/
def double : Reader Double
  | .number n =>
    match n.value with
    | .int i => .ok (Double.ofInt i)
    | .double d => .ok d
    | .tooLarge => .error .malformed
  | d => reject d

/-- A string. -/
def text : Reader String
  | .string (some s) => .ok s
  | d => reject d

/-- A truth value. -/
def bool : Reader Bool
  | .bool b => .ok b
  | d => reject d

/-- A string that has to be the text of a value. -/
def parsed {α : Type} (parse : List Char → Option α) : Reader α
  | .string (some s) =>
    match parse s.toList with
    | some a => .ok a
    | none => .error .mismatched
  | d => reject d

/-- Null for nothing, anything else for a value. -/
def option {α : Type} (r : Reader α) : Reader (Option α)
  | .null => .ok none
  | d => (r d).map some

/-- The items of an array, read in order. -/
def items {α : Type} (r : Reader α) : Items → Except Refusal (List α)
  | .closed => .ok []
  | .broken => .error .malformed
  | .item head tail => do
    let a ← r head
    let rest ← items r tail
    .ok (a :: rest)

/-- An array of values. -/
def list {α : Type} (r : Reader α) : Reader (List α)
  | .array xs => items r xs
  | d => reject d

/-- One of several names: as a string, or as the only member of an object, with
null for its value. Nothing else is taken up at all. -/
def choice {α : Type} (ofName? : String → Option α) : Reader α
  | .string (some s) =>
    match ofName? s with
    | some a => .ok a
    | none => .error .mismatched
  | .object (.member none _ _) => .error .malformed
  | .object (.member (some s) v tail) =>
    match ofName? s, v, tail with
    | none, _, _ => .error .mismatched
    | some a, .null, .closed => .ok a
    | some _, .null, _ => .error .malformed
    | some _, v, _ => reject v
  | _ => .error .malformed

/-- The members of an object whose names are free. A later member replaces an
earlier one of the same name. -/
def entries {α : Type} (r : Reader α) :
    Members → List (String × α) → Except Refusal (List (String × α))
  | .closed, acc => .ok acc
  | .broken, _ => .error .malformed
  | .member none _ _, _ => .error .malformed
  | .member (some name) v tail, acc => do
    let a ← r v
    entries r tail (acc.filter (fun p => p.1 ≠ name) ++ [(name, a)])

/-- An object whose names are free. -/
def dictionary {α : Type} (r : Reader α) : Reader (List (String × α))
  | .object members => entries r members []
  | d => reject d

mutual

/-- Any value, its arrays and objects nested no deeper than the given depth. -/
def any (depth : Nat) : Reader Json
  | .null => .ok .null
  | .bool b => .ok (.bool b)
  | .number n =>
    match n.value with
    | .int i => .ok (.int i)
    | .double d => .ok (.double d)
    | .tooLarge => .error .malformed
  | .string (some s) => .ok (.str s)
  | .string none => .error .malformed
  | .array xs =>
    match depth with
    | 0 => .error .malformed
    | depth + 1 => (anyItems depth xs).map .arr
  | .object ms =>
    match depth with
    | 0 => .error .malformed
    | depth + 1 => (anyMembers depth ms []).map .obj
  | .malformed => .error .malformed

/-- The items of an array of any values. -/
def anyItems (depth : Nat) : Items → Except Refusal (List Json)
  | .closed => .ok []
  | .broken => .error .malformed
  | .item head tail => do
    let v ← any depth head
    let rest ← anyItems depth tail
    .ok (v :: rest)

/-- The members of an object of any values; the last of a name stands. -/
def anyMembers (depth : Nat) :
    Members → List (String × Json) → Except Refusal (List (String × Json))
  | .closed, acc => .ok acc
  | .broken, _ => .error .malformed
  | .member none _ _, _ => .error .malformed
  | .member (some name) v tail, acc => do
    let a ← any depth v
    anyMembers depth tail (acc.filter (fun p => p.1 ≠ name) ++ [(name, a)])

end

end Reader

/-! ## Records -/

/-- One field of a record. -/
structure Field where
  name : String
  /-- The type of the field. -/
  Value : Type
  read : Reader Value
  /-- The value of a field that an object does not give, if it may be left
  out. -/
  absent : Option Value
  /-- The field may be left off the end of an array as well. -/
  trailing : Bool

namespace Field

/-- A field that has to be given. -/
@[reducible] def required {α : Type} (name : String) (r : Reader α) : Field :=
  ⟨name, α, r, none, false⟩

/-- A field that may be missing or null. -/
@[reducible] def optional {α : Type} (name : String) (r : Reader α) : Field :=
  ⟨name, Option α, .option r, some none, false⟩

/-- A field that has a value of its own when it is missing. -/
@[reducible] def withDefault {α : Type} (name : String) (r : Reader α) (value : α) : Field :=
  ⟨name, α, r, some value, true⟩

end Field

namespace Fields

/-- The values of all fields. -/
@[reducible] def Row : List Field → Type
  | [] => Unit
  | f :: fs => f.Value × Row fs

/-- The values of the fields read so far. -/
@[reducible] def Partial : List Field → Type
  | [] => Unit
  | f :: fs => Option f.Value × Partial fs

/-- No field read yet. -/
def none : (fs : List Field) → Partial fs
  | [] => ()
  | _ :: fs => (.none, none fs)

/-- Read a member into the field of its name. A field may be given once; other
members only have to be well formed. -/
def take : (fs : List Field) → String → Document → Partial fs → Except Refusal (Partial fs)
  | [], _, d, () => if d.wellFormed then .ok () else .error .malformed
  | f :: fs, name, d, (slot, rest) =>
    if f.name = name then
      match slot with
      | some _ => .error .mismatched
      | .none => (f.read d).map fun v => (some v, rest)
    else (take fs name d rest).map fun rest => (slot, rest)

/-- The row, when every field was read or may be missing. -/
def complete : (fs : List Field) → Partial fs → Except Refusal (Row fs)
  | [], () => .ok ()
  | f :: fs, (slot, rest) =>
    match slot.or f.absent with
    | .none => .error .mismatched
    | some v => (complete fs rest).map fun row => (v, row)

/-- The members of an object, read in order. -/
def ofMembers (fs : List Field) : Members → Partial fs → Except Refusal (Row fs)
  | .closed, slots => complete fs slots
  | .broken, _ => .error .malformed
  | .member .none _ _, _ => .error .malformed
  | .member (some name) d tail, slots => do
    let slots ← take fs name d slots
    ofMembers fs tail slots

/-- The fields that are left when an array ends early. -/
def defaults : (fs : List Field) → Except Refusal (Row fs)
  | [] => .ok ()
  | f :: fs =>
    match f.trailing, f.absent with
    | true, some v => (defaults fs).map fun row => (v, row)
    | _, _ => .error .mismatched

/-- The items of an array, one for each field and none over. -/
def ofItems : (fs : List Field) → Items → Except Refusal (Row fs)
  | [], .closed => .ok ()
  | [], _ => .error .malformed
  | fs, .closed => defaults fs
  | _ :: _, .broken => .error .malformed
  | f :: fs, .item head tail => do
    let v ← f.read head
    let rest ← ofItems fs tail
    .ok (v, rest)

/-- A record with the given fields. -/
def read (fs : List Field) : Reader (Row fs)
  | .object members => ofMembers fs members (none fs)
  | .array items => ofItems fs items
  | d => Reader.reject d

end Fields

namespace Reader

/-- A record, and what is made of its row. -/
def record {α : Type} (fs : List Field) (make : Fields.Row fs → α) : Reader α :=
  map make (Fields.read fs)

/-- Read the whole of a text. -/
def wholeText {α : Type} (r : Reader α) (s : String) : Except Refusal α :=
  match Document.ofText s.toList with
  | (d, closed) =>
    match r d with
    | .error e => .error e
    | .ok a => if closed then .ok a else .error .malformed

/-- Read the first value of a text, whatever comes after it. -/
def headOfText {α : Type} (r : Reader α) (s : String) : Except Refusal α :=
  r (Document.ofPrefix s.toList)

end Reader

end RewardLedger.Json
