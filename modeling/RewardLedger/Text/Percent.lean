import RewardLedger.Text.Utf8

/-!
# Percent-encoded text

In an address a byte may be written as a percent sign and two hexadecimal
digits. A percent sign that is not followed by two digits stands for itself.
The query of an address is a form: names and values with `=` between them and
`&` between the pairs, in which a plus sign is a blank.
-/

namespace RewardLedger.Text

/-- The value of a byte that is a hexadecimal digit. -/
def hexByte? (b : Nat) : Option Nat :=
  if 0x30 ≤ b ∧ b ≤ 0x39 then some (b - 0x30)
  else if 0x41 ≤ b ∧ b ≤ 0x46 then some (b - 0x41 + 10)
  else if 0x61 ≤ b ∧ b ≤ 0x66 then some (b - 0x61 + 10)
  else none

/-- The bytes that percent-encoded bytes stand for. -/
def percentDecoded : List Nat → List Nat
  | [] => []
  | [a] => [a]
  | [a, b] => [a, b]
  | p :: a :: b :: rest =>
    if p = 0x25 then
      match hexByte? a, hexByte? b with
      | some h, some l => (h * 16 + l) :: percentDecoded rest
      | _, _ => p :: percentDecoded (a :: b :: rest)
    else p :: percentDecoded (a :: b :: rest)

/-- The text of one part of a path, when its bytes are text. -/
def pathPart? (cs : List Char) : Option (List Char) :=
  Utf8.decode? (percentDecoded (Utf8.encode cs))

/-- A text cut at every occurrence of a mark. -/
def cut (mark : Char) (cs : List Char) : List (List Char) :=
  cs.splitOnP (· = mark)

namespace Form

/-- The text of a name or a value. -/
def text (cs : List Char) : String :=
  let blanks := cs.map fun c => if c = '+' then ' ' else c
  String.ofList (Utf8.decodeLossy (percentDecoded (Utf8.encode blanks)))

/-- A pair; the value is empty when there is no sign between. -/
def pair (cs : List Char) : String × String :=
  (text (cs.takeWhile (· ≠ '=')), text ((cs.dropWhile (· ≠ '=')).drop 1))

/-- The pairs of a form. Nothing between two marks is no pair. -/
def pairs (cs : List Char) : List (String × String) :=
  ((cut '&' cs).filter (· ≠ [])).map pair

end Form

end RewardLedger.Text
