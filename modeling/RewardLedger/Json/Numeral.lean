import RewardLedger.Amount
import RewardLedger.Double
import RewardLedger.Text.Decimal

/-!
# JSON numerals

A numeral without a fraction and without an exponent is a whole number as long
as it fits sixty-four bits; minus zero and everything else is a double. The
double is made from a significand and a power of ten: the significand takes
the leading digits as long as they fit sixty-four unsigned bits, and the
digits after those only move the decimal point. It is rounded to a double, and
so is its product with the power of ten, or its quotient by it.
-/

namespace RewardLedger.Json

/-- A numeral as it is written. -/
structure Numeral where
  negative : Bool
  /-- The digits before the point. -/
  whole : List Char
  /-- The digits after the point, if there is one. -/
  fraction : Option (List Char)
  /-- The exponent, if there is one. -/
  exponent : Option Int
  deriving DecidableEq, Repr

namespace Numeral

/-- What a numeral stands for. -/
inductive Value where
  | int (n : Int)
  | double (d : Double)
  /-- The number is beyond all finite doubles. -/
  | tooLarge
  deriving DecidableEq, Repr

/-- The most that a significand can be. -/
def greatestSignificand : Nat := 2 ^ 64 - 1

/-- Take digits into a significand until the next one would not fit; the
significand, the number of digits taken and the digits that are left. -/
def takeDigits : Nat → List Char → Nat × Nat × List Char
  | s, [] => (s, 0, [])
  | s, c :: rest =>
    let t := 10 * s + (c.toNat - '0'.toNat)
    if greatestSignificand < t then (s, 0, c :: rest)
    else
      let (u, n, left) := takeDigits t rest
      (u, n + 1, left)

/-- The power of ten as a double. -/
def powerOfTen (k : Nat) : Dyadic := Dyadic.nearest (10 ^ k) 1

/-- The greatest power of ten among the doubles. -/
def greatestPower : Nat := 308

/-- Scale a rounded value by a power of ten. A power below the least one is
reached in several divisions, which end at zero; `steps` bounds their number. -/
def scale (steps : Nat) (x : Dyadic) (power : Int) : Option Dyadic :=
  if power.natAbs ≤ greatestPower then
    let y :=
      if 0 ≤ power then (x.mul (powerOfTen power.natAbs)).round
      else x.div (powerOfTen power.natAbs)
    if y.Overflows then none else some y
  else if x.mantissa = 0 then some x
  else if 0 ≤ power then none
  else
    match steps with
    | 0 => some ⟨0, 0⟩
    | steps + 1 => scale steps (x.div (powerOfTen greatestPower)) (power + greatestPower)

/-- The double for a sign, a significand and a power of ten. -/
def assemble (negative : Bool) (significand : Nat) (power : Int) : Value :=
  match scale 4 (Dyadic.nearest significand 1) power with
  | none => .tooLarge
  | some x => .double (Double.ofMagnitude negative x)

/-- The value of a numeral. -/
def value (n : Numeral) : Value :=
  let (s, _, left) := takeDigits 0 n.whole
  match n.fraction, n.exponent with
  | none, none =>
    if left ≠ [] then assemble n.negative s left.length
    else if ¬ n.negative then .int s
    else if s ≠ 0 ∧ s ≤ 2 ^ 63 then .int (-s)
    else .double (Double.ofMagnitude true (Dyadic.nearest s 1))
  | fraction, exponent =>
    let (t, taken, _) := takeDigits s (fraction.getD [])
    assemble n.negative t (left.length - taken + exponent.getD 0)

end Numeral

end RewardLedger.Json
