/-!
# Media types

The header that names the type of a body: a type and a subtype with a slash
between them, and parameters after semicolons. A subtype may carry a suffix
after a plus sign, which names the format that the type is built on.
-/

namespace RewardLedger.Api

/-- A media type without its parameters, in small letters. -/
structure MediaType where
  type : List Char
  /-- The subtype without its suffix. -/
  subtype : List Char
  /-- What follows the last plus sign. -/
  suffix : Option (List Char)
  deriving DecidableEq, Repr

namespace MediaType

/-- The characters of names. -/
def isTokenChar (c : Char) : Bool :=
  c.isAlphanum || "!#$%&'*+-.^_|~".toList.contains c || c.toNat = 0x60

/-- The characters that may stand between quotes. -/
def isQuotedChar (c : Char) : Bool := 0x1F < c.toNat && c.toNat < 0x7F

/-- What comes next in the parameters: the name of one, with the characters of
it so far; its value; or, after a quoted value, the end of it. -/
inductive Place where
  | name (started : Bool)
  | value (started : Bool)
  | quoted (started : Bool)
  | afterQuoted
  deriving DecidableEq, Repr

/-- The place after one more character, if the character may stand there. Blanks
may stand before a name and after a quoted value. -/
def Place.next? : Place → Char → Option Place
  | .name started, c =>
    if c = ' ' ∧ ¬ started then some (.name false)
    else if c = '=' ∧ started then some (.value false)
    else if isTokenChar c then some (.name true)
    else none
  | .value started, c =>
    if c = '"' ∧ ¬ started then some (.quoted false)
    else if c = ';' ∧ started then some (.name false)
    else if isTokenChar c then some (.value true)
    else none
  | .quoted started, c =>
    if c = '"' ∧ started then some .afterQuoted
    else if isQuotedChar c then some (.quoted true)
    else none
  | .afterQuoted, c =>
    if c = ';' then some (.name false) else if c = ' ' then some .afterQuoted else none

/-- Parameters may end at this place. -/
def Place.CanEnd : Place → Prop
  | .name started => started = false
  | .value _ => True
  | .quoted _ => False
  | .afterQuoted => True

instance (p : Place) : Decidable p.CanEnd := by
  cases p <;> simp only [Place.CanEnd] <;> infer_instance

/-- The text after the first semicolon is a list of parameters. -/
def HasParameters (cs : List Char) : Prop :=
  match cs.foldlM Place.next? (.name false) with
  | some place => place.CanEnd
  | none => False

instance (cs : List Char) : Decidable (HasParameters cs) := by
  unfold HasParameters
  split <;> infer_instance

/-- The part of a text before the last plus sign that is not its first
character, and the part after it. -/
def splitSuffix (cs : List Char) : List Char × Option (List Char) :=
  let tail := (cs.drop 1).reverse.takeWhile (· ≠ '+')
  if tail.length = (cs.drop 1).length then (cs, none)
  else (cs.take (cs.length - tail.length - 1), some tail.reverse)

/-- The media type that a text names. -/
def parse? (text : String) : Option MediaType :=
  let cs := text.toList.map Char.toLower
  let type := cs.takeWhile (· ≠ '/')
  match cs.dropWhile (· ≠ '/') with
  | [] => none
  | _ :: rest =>
    let head := rest.takeWhile (· ≠ ';')
    let parameters := (rest.dropWhile (· ≠ ';')).drop 1
    if type ≠ [] ∧ type.all isTokenChar ∧ head.all isTokenChar
        ∧ (head ≠ [] ∨ head.length = rest.length) ∧ HasParameters parameters then
      let (subtype, suffix) := splitSuffix head
      some ⟨type, subtype, suffix⟩
    else none

/-- The type is JSON, or a format built on it. -/
def IsJson (m : MediaType) : Prop :=
  m.type = "application".toList
    ∧ (m.subtype = "json".toList ∨ m.suffix = some "json".toList)

instance (m : MediaType) : Decidable m.IsJson := inferInstanceAs (Decidable (_ ∧ (_ ∨ _)))

end MediaType

end RewardLedger.Api
