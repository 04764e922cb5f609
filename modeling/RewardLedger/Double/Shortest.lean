import RewardLedger.Double
import RewardLedger.Text.Decimal

/-!
# The shortest decimal of a double

A finite double stands for all the numbers that are rounded to it: those up to
half way to the doubles next to it, and half way itself when its mantissa is
even. It is written as the decimal with the fewest significant digits among
them, and of several such decimals as the one nearest to its value.
-/

namespace RewardLedger

/-- A nonnegative number `digits · 10 ^ exponent`. -/
structure Decimal where
  digits : Nat
  exponent : Int
  deriving DecidableEq, Repr

namespace Decimal

/-- The value as a fraction: numerator and denominator. -/
def fraction (d : Decimal) : Nat × Nat :=
  (d.digits * 10 ^ d.exponent.toNat, 10 ^ (-d.exponent).toNat)

/-- Move zeros at the end of the digits into the exponent, at most `steps` of
them. -/
def trimZeros : Nat → Decimal → Decimal
  | 0, d => d
  | steps + 1, d =>
    if d.digits ≠ 0 ∧ d.digits % 10 = 0 then trimZeros steps ⟨d.digits / 10, d.exponent + 1⟩
    else d

end Decimal

namespace Dyadic

/-- The point half way to the double below. Just above a power of two the
doubles below lie twice as close. -/
def lowerEnd (x : Dyadic) : Dyadic :=
  if x.mantissa = 2 ^ 52 ∧ -1074 < x.exponent then ⟨4 * x.mantissa - 1, x.exponent - 2⟩
  else ⟨4 * x.mantissa - 2, x.exponent - 2⟩

/-- The point half way to the double above. -/
def upperEnd (x : Dyadic) : Dyadic := ⟨4 * x.mantissa + 2, x.exponent - 2⟩

/-- One fraction is below another, or equal to it where `closed` holds. -/
def Under (closed : Prop) (a b : Nat × Nat) : Prop :=
  a.1 * b.2 < b.1 * a.2 ∨ closed ∧ a.1 * b.2 = b.1 * a.2

instance (closed : Prop) [Decidable closed] (a b : Nat × Nat) : Decidable (Under closed a b) :=
  inferInstanceAs (Decidable (_ ∨ _))

/-- A decimal is among the numbers that are rounded to `x`. -/
def IsReadFrom (x : Dyadic) (d : Decimal) : Prop :=
  Under (x.mantissa % 2 = 0) x.lowerEnd.fraction d.fraction ∧
    Under (x.mantissa % 2 = 0) d.fraction x.upperEnd.fraction

instance (x : Dyadic) (d : Decimal) : Decidable (x.IsReadFrom d) :=
  inferInstanceAs (Decidable (_ ∧ _))

/-- The power of ten of the first significant digit of `n / d`. -/
def leadingPower (n d : Nat) : Int :=
  if d ≤ n then (Text.digits (n / d)).length - 1
  else -((Text.digits ((d - 1) / n)).length : Int)

/-- A decimal whose last digit stands at the place `10 ^ place` and that is
rounded to `x`: the nearest to the value if that one is, or else one of the two
around the value. -/
def atPlace? (x : Dyadic) (place : Int) : Option Decimal :=
  let n := x.fraction.1 * 10 ^ (-place).toNat
  let d := x.fraction.2 * 10 ^ place.toNat
  ([nearestDiv n d, n / d, n / d + 1].map fun digits => Decimal.mk digits place).find?
    fun c => x.IsReadFrom c

/-- The value itself as a decimal: halves are five tenths. -/
def exactDecimal (x : Dyadic) : Decimal :=
  let places := (-x.exponent).toNat
  ⟨x.fraction.1 * 5 ^ places, -places⟩

/-- Seventeen digits always tell a double apart from all others. -/
def mostDigits : Nat := 17

/-- The decimal with the fewest digits that is rounded to `x`. -/
def shortest (x : Dyadic) : Decimal :=
  if x.mantissa = 0 then ⟨0, 0⟩
  else
    let leading := leadingPower x.fraction.1 x.fraction.2
    let found := (List.range mostDigits).findSome? fun (n : Nat) => x.atPlace? (leading - n)
    (found.getD x.exactDecimal).trimZeros mostDigits

end Dyadic

end RewardLedger
