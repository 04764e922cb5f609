import RewardLedger.Double.Shortest
import RewardLedger.Text.Decimal

/-!
# JSON values

The values that the service writes, and their compact text: no blanks, members
in the order in which they are listed, and in strings only the escapes that
are required.
-/

namespace RewardLedger

/-- A JSON value. Numbers are integers or doubles. -/
inductive Json where
  | null
  | bool (b : Bool)
  | int (n : Int)
  | double (d : Double)
  | str (s : String)
  | arr (items : List Json)
  | obj (members : List (String × Json))

namespace Json

instance : Inhabited Json := ⟨.null⟩

/-- A value or null. -/
def ofOption {α : Type} (f : α → Json) : Option α → Json
  | none => .null
  | some a => f a

/-- A list of values. -/
def ofList {α : Type} (f : α → Json) (items : List α) : Json := .arr (items.map f)

/-- A member that is left out when it is absent. -/
def optionalMember {α : Type} (name : String) (f : α → Json) :
    Option α → List (String × Json)
  | none => []
  | some a => [(name, f a)]

/-- The member of an object with a given name. -/
def member? (name : String) : Json → Option Json
  | .obj members => (members.find? fun m => m.1 = name).map (·.2)
  | _ => none

/-- A hexadecimal digit, in lower case. -/
def hexDigit (n : Nat) : Char := Nat.digitChar n

/-- How a character is written inside a string. -/
def escapeChar (c : Char) : List Char :=
  if c = '"' then ['\\', '"']
  else if c = '\\' then ['\\', '\\']
  else if c = '\x08' then ['\\', 'b']
  else if c = '\x0c' then ['\\', 'f']
  else if c = '\n' then ['\\', 'n']
  else if c = '\r' then ['\\', 'r']
  else if c = '\t' then ['\\', 't']
  else if c.toNat < 0x20 then
    ['\\', 'u', '0', '0', hexDigit (c.toNat / 16), hexDigit (c.toNat % 16)]
  else [c]

/-- A string between quotes. -/
def quote (s : String) : List Char :=
  '"' :: s.toList.flatMap escapeChar ++ ['"']

/-- Up to this many digits before the point a double is written without an
exponent. -/
def mostWholeDigits : Int := 16

/-- From this many zeros on between the point and the first digit a double is
written with an exponent. -/
def leastLeadingZeros : Int := 5

/-- A decimal as a numeral. It always has a fraction or an exponent, so that it
does not look like a whole number. -/
def decimalText (d : Decimal) : List Char :=
  let digits := Text.digits d.digits
  -- how many digits stand before the point
  let before := digits.length + d.exponent
  if mostWholeDigits < before ∨ before ≤ -leastLeadingZeros then
    let fraction := digits.drop 1
    digits.take 1 ++ (if fraction = [] then [] else '.' :: fraction)
      ++ 'e' :: (Text.ofInt (before - 1)).toList
  else if 0 ≤ d.exponent then
    digits ++ List.replicate d.exponent.toNat '0' ++ ['.', '0']
  else if 0 < before then
    digits.take before.toNat ++ '.' :: digits.drop before.toNat
  else
    '0' :: '.' :: List.replicate (-before).toNat '0' ++ digits

/-- A finite double is written as its shortest decimal. A double without a
finite value is written as null. -/
def doubleText (d : Double) : List Char :=
  if d.IsFinite then
    (if d.isNegative then ['-'] else []) ++ decimalText d.magnitude.shortest
  else "null".toList

mutual

/-- The text of a value. -/
def chars : Json → List Char
  | .null => "null".toList
  | .bool true => "true".toList
  | .bool false => "false".toList
  | .int n => (Text.ofInt n).toList
  | .double d => doubleText d
  | .str s => quote s
  | .arr items => '[' :: itemChars items ++ [']']
  | .obj members => '\x7b' :: memberChars members ++ ['\x7d']

/-- The items of an array with commas between them. -/
def itemChars : List Json → List Char
  | [] => []
  | [v] => chars v
  | v :: rest => chars v ++ ',' :: itemChars rest

/-- The members of an object with commas between them. -/
def memberChars : List (String × Json) → List Char
  | [] => []
  | [(name, v)] => quote name ++ ':' :: chars v
  | (name, v) :: rest => quote name ++ ':' :: chars v ++ ',' :: memberChars rest

end

/-- The text of a value. -/
def text (v : Json) : String := String.ofList v.chars

end Json

end RewardLedger
