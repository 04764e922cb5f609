import RewardLedger.Amount

/-!
# Cutting at byte positions

A text may be cut at any number of bytes from its beginning, as long as the cut
does not fall inside a character.
-/

namespace RewardLedger.Text

/-- The number of bytes that a text takes. -/
def byteCount (cs : List Char) : Nat := (cs.map Char.utf8Size).sum

/-- The text without its first `n` bytes. -/
def dropBytes? : Nat → List Char → Option (List Char)
  | 0, cs => some cs
  | _ + 1, [] => none
  | n + 1, c :: cs => if c.utf8Size ≤ n + 1 then dropBytes? (n + 1 - c.utf8Size) cs else none

/-- The first `n` bytes of a text. -/
def takeBytes? : Nat → List Char → Option (List Char)
  | 0, _ => some []
  | _ + 1, [] => none
  | n + 1, c :: cs =>
    if c.utf8Size ≤ n + 1 then (takeBytes? (n + 1 - c.utf8Size) cs).map (c :: ·) else none

/-- The part of a text between two positions. -/
def cut? (first last : Nat) (cs : List Char) : Option (List Char) :=
  (dropBytes? first cs).bind (takeBytes? (last - first))

end RewardLedger.Text
