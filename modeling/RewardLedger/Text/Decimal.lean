import RewardLedger.Amount

/-!
# Decimal numerals

Whole numbers as decimal text, and back. Reading is strict: an optional sign,
then digits and nothing else.
-/

namespace RewardLedger.Text

/-- The number that digits stand for, the most significant first. -/
def ofDigits (digits : List Char) : Nat :=
  digits.foldl (fun n c => 10 * n + (c.toNat - '0'.toNat)) 0

/-- The digits of a number. -/
def digits (n : Nat) : List Char := Nat.toDigits 10 n

/-- The digits of a number, filled up with zeros on the left. -/
def paddedDigits (width n : Nat) : List Char :=
  List.replicate (width - (digits n).length) '0' ++ digits n

/-- The decimal text of a natural number. -/
def ofNat (n : Nat) : String := String.ofList (digits n)

/-- The decimal text of an integer, with a sign when it is negative. -/
def ofInt : Int → String
  | .ofNat n => ofNat n
  | .negSucc n => "-" ++ ofNat (n + 1)

/-- Digits and nothing else, at least one. -/
def readDigits? (cs : List Char) : Option Nat :=
  if cs ≠ [] ∧ cs.all Char.isDigit then some (ofDigits cs) else none

/-- An integer that fits an amount: a sign if there is one, then digits. -/
def readAmount? (cs : List Char) : Option Int :=
  match cs with
  | '-' :: rest => (readDigits? rest).bind fun n => Amount.check? (-n)
  | '+' :: rest => (readDigits? rest).bind fun n => Amount.check? n
  | _ => (readDigits? cs).bind fun n => Amount.check? n

end RewardLedger.Text
