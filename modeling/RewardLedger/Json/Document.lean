import RewardLedger.Json.Numeral

/-!
# JSON text as it is read

A reader goes through a text from left to right and stops at the first thing
that is wrong, be it the text itself or what the text says. To keep the two
apart, a text is first laid out as a **document**: the tree of everything that
can be read, in which a place where the text breaks off or is not JSON is a
leaf of its own. Nothing follows such a place. A reader that walks the tree in
order meets the faults in the order of the text.
-/

namespace RewardLedger.Json

mutual

/-- A value as far as it could be read. -/
inductive Document where
  | null
  | bool (b : Bool)
  | number (n : Numeral)
  /-- A string; `none` when it has the escape of half a surrogate pair, which
  stands for no character. -/
  | string (s : Option String)
  | array (items : Items)
  | object (members : Members)
  /-- The text is not JSON from here on. -/
  | malformed

/-- The items of an array as far as they could be read. -/
inductive Items where
  /-- The closing bracket. -/
  | closed
  /-- The text is not JSON from here on. -/
  | broken
  | item (head : Document) (tail : Items)

/-- The members of an object as far as they could be read. -/
inductive Members where
  /-- The closing brace. -/
  | closed
  /-- The text is not JSON from here on. -/
  | broken
  | member (name : Option String) (value : Document) (tail : Members)

end

namespace Document

instance : Inhabited Document := ⟨.malformed⟩

/-- The blanks that may stand between the parts of a text. -/
def isSpace (c : Char) : Bool := c = ' ' || c = '\n' || c = '\t' || c = '\r'

/-- The text from its next part on. -/
def skipSpace (cs : List Char) : List Char := cs.dropWhile isSpace

/-- The value of a hexadecimal digit. -/
def hexValue? (c : Char) : Option Nat :=
  if c.isDigit then some (c.toNat - '0'.toNat)
  else if 'a' ≤ c ∧ c ≤ 'f' then some (c.toNat - 'a'.toNat + 10)
  else if 'A' ≤ c ∧ c ≤ 'F' then some (c.toNat - 'A'.toNat + 10)
  else none

/-- The number of four hexadecimal digits, and the text after them. -/
def hexUnit? : List Char → Option (Nat × List Char)
  | a :: b :: c :: d :: rest => do
    let a ← hexValue? a
    let b ← hexValue? b
    let c ← hexValue? c
    let d ← hexValue? d
    some (((a * 16 + b) * 16 + c) * 16 + d, rest)
  | _ => none

/-- One piece of a string: a character, or a unit of sixteen bits that an
escape gives. -/
inductive Piece where
  | char (c : Char)
  | unit (n : Nat)
  deriving DecidableEq, Repr

/-- The character of a short escape. -/
def shortEscape? (c : Char) : Option Char :=
  match c with
  | '"' => some '"'
  | '\\' => some '\\'
  | '/' => some '/'
  | 'b' => some '\x08'
  | 'f' => some '\x0c'
  | 'n' => some '\n'
  | 'r' => some '\r'
  | 't' => some '\t'
  | _ => none

/-- The pieces of a string up to its closing quote, and the text after it. A
control character has to be escaped. -/
def stringPieces? (fuel : Nat) (cs : List Char) : Option (List Piece × List Char) :=
  match fuel, cs with
  | 0, _ => none
  | _, [] => none
  | _, '"' :: rest => some ([], rest)
  | fuel + 1, '\\' :: 'u' :: rest => do
    let (n, rest) ← hexUnit? rest
    let (pieces, rest) ← stringPieces? fuel rest
    some (.unit n :: pieces, rest)
  | fuel + 1, '\\' :: c :: rest => do
    let c ← shortEscape? c
    let (pieces, rest) ← stringPieces? fuel rest
    some (.char c :: pieces, rest)
  | _, '\\' :: [] => none
  | fuel + 1, c :: rest =>
    if c.toNat < 0x20 then none
    else do
      let (pieces, rest) ← stringPieces? fuel rest
      some (.char c :: pieces, rest)

/-- The characters that pieces stand for. Units outside the surrogates are
characters; a high and a low surrogate next to each other are one. -/
def joinPieces? : List Piece → Option (List Char)
  | [] => some []
  | .char c :: rest => (joinPieces? rest).map (c :: ·)
  | .unit n :: rest =>
    if n < 0xD800 ∨ 0xDFFF < n then (joinPieces? rest).map (Char.ofNat n :: ·)
    else if 0xDBFF < n then none
    else
      match rest with
      | .unit m :: rest =>
        if 0xDC00 ≤ m ∧ m ≤ 0xDFFF then
          (joinPieces? rest).map
            (Char.ofNat (0x10000 + (n - 0xD800) * 0x400 + (m - 0xDC00)) :: ·)
        else none
      | _ => none

/-- The digits at the head of a text, and what follows them. -/
def spanDigits (cs : List Char) : List Char × List Char :=
  (cs.takeWhile Char.isDigit, cs.dropWhile Char.isDigit)

/-- An exponent, if one is marked, and the text after it. -/
def exponentPart? : List Char → Option (Option Int × List Char)
  | c :: rest =>
    if c = 'e' ∨ c = 'E' then
      let (negative, rest) :=
        match rest with
        | '+' :: rest => (false, rest)
        | '-' :: rest => (true, rest)
        | _ => (false, rest)
      match spanDigits rest with
      | ([], _) => none
      | (ds, rest) =>
        let n : Int := Text.ofDigits ds
        some (some (if negative then -n else n), rest)
    else some (none, c :: rest)
  | [] => some (none, [])

/-- A fraction, if a point begins one, and the text after it. -/
def fractionPart? : List Char → Option (Option (List Char) × List Char)
  | '.' :: rest =>
    match spanDigits rest with
    | ([], _) => none
    | (ds, rest) => some (some ds, rest)
  | cs => some (none, cs)

/-- The digits before the point: no zero in front of others. -/
def wholePart? (cs : List Char) : Option (List Char × List Char) :=
  match spanDigits cs with
  | ([], _) => none
  | (ds, rest) => if ds.head? = some '0' ∧ ds ≠ ['0'] then none else some (ds, rest)

/-- A numeral and the text after it. -/
def numeral? (cs : List Char) : Option (Numeral × List Char) := do
  let (negative, cs) :=
    match cs with
    | '-' :: rest => (true, rest)
    | _ => (false, cs)
  let (whole, cs) ← wholePart? cs
  let (fraction, cs) ← fractionPart? cs
  let (exponent, cs) ← exponentPart? cs
  some (⟨negative, whole, fraction, exponent⟩, cs)

/-- The text after a word that it has to begin with. -/
def afterWord? (word : List Char) (cs : List Char) : Option (List Char) :=
  if word.isPrefixOf cs then some (cs.drop word.length) else none

/-- A leaf that was read, and the text after it. -/
def leaf {α : Type} (make : α → Document) :
    Option (α × List Char) → Document × Option (List Char)
  | some (a, rest) => (make a, some rest)
  | none => (.malformed, none)

mutual

/-- Lay out the value at the head of a text. The second part is the text after
it, or nothing when the text broke inside it. -/
def value (fuel : Nat) (cs : List Char) : Document × Option (List Char) :=
  match fuel with
  | 0 => (.malformed, none)
  | fuel + 1 =>
    match skipSpace cs with
    | 'n' :: rest => leaf (fun _ => .null) ((afterWord? "ull".toList rest).map ((), ·))
    | 't' :: rest => leaf (fun _ => .bool true) ((afterWord? "rue".toList rest).map ((), ·))
    | 'f' :: rest => leaf (fun _ => .bool false) ((afterWord? "alse".toList rest).map ((), ·))
    | '"' :: rest =>
      leaf (fun pieces => .string ((joinPieces? pieces).map String.ofList))
        (stringPieces? (rest.length + 1) rest)
    | '[' :: rest =>
      let (items, rest) := firstItem fuel rest
      (.array items, rest)
    | '\x7b' :: rest =>
      let (members, rest) := firstMember fuel rest
      (.object members, rest)
    | c :: rest =>
      if c = '-' ∨ c.isDigit then leaf .number (numeral? (c :: rest))
      else (.malformed, none)
    | [] => (.malformed, none)

/-- The items after an opening bracket. -/
def firstItem (fuel : Nat) (cs : List Char) : Items × Option (List Char) :=
  match fuel with
  | 0 => (.broken, none)
  | fuel + 1 =>
    match skipSpace cs with
    | ']' :: rest => (.closed, some rest)
    | cs => item fuel cs

/-- An item and those after it. -/
def item (fuel : Nat) (cs : List Char) : Items × Option (List Char) :=
  match fuel with
  | 0 => (.broken, none)
  | fuel + 1 =>
    match value fuel cs with
    | (head, none) => (.item head .broken, none)
    | (head, some cs) =>
      match skipSpace cs with
      | ']' :: rest => (.item head .closed, some rest)
      | ',' :: rest =>
        let (tail, rest) := item fuel rest
        (.item head tail, rest)
      | _ => (.item head .broken, none)

/-- The members after an opening brace. -/
def firstMember (fuel : Nat) (cs : List Char) : Members × Option (List Char) :=
  match fuel with
  | 0 => (.broken, none)
  | fuel + 1 =>
    match skipSpace cs with
    | '\x7d' :: rest => (.closed, some rest)
    | cs => member fuel cs

/-- A member and those after it. -/
def member (fuel : Nat) (cs : List Char) : Members × Option (List Char) :=
  match fuel with
  | 0 => (.broken, none)
  | fuel + 1 =>
    match skipSpace cs with
    | '"' :: rest =>
      match stringPieces? (rest.length + 1) rest with
      | none => (.broken, none)
      | some (pieces, rest) =>
        let name := (joinPieces? pieces).map String.ofList
        match skipSpace rest with
        | ':' :: rest =>
          match value fuel rest with
          | (v, none) => (.member name v .broken, none)
          | (v, some cs) =>
            match skipSpace cs with
            | '\x7d' :: rest => (.member name v .closed, some rest)
            | ',' :: rest =>
              let (tail, rest) := member fuel rest
              (.member name v tail, rest)
            | _ => (.member name v .broken, none)
        | _ => (.member name .malformed .broken, none)
    | _ => (.broken, none)

end

/-- A measure of a text that bounds the depth of every layout of it. -/
def fuelFor (cs : List Char) : Nat := 4 * cs.length + 4

/-- The value at the head of a text, whatever comes after it. -/
def ofPrefix (cs : List Char) : Document := (value (fuelFor cs) cs).1

/-- The value that is the whole of a text, and whether nothing but blanks comes
after it. -/
def ofText (cs : List Char) : Document × Bool :=
  match value (fuelFor cs) cs with
  | (d, some rest) => (d, (skipSpace rest).isEmpty)
  | (d, none) => (d, false)

end Document

end RewardLedger.Json
