import RewardLedger.Amount

/-!
# Doubles

Rates are IEEE doubles. A double is kept as its sixty-four bits, and every
operation on finite doubles is done on the exact value, `mantissa · 2 ^
exponent`, and rounded once: to the nearest double, of two equally near to the
one whose mantissa is even. Nothing depends on the arithmetic of the machine.
-/

namespace RewardLedger

/-- A nonnegative number `mantissa · 2 ^ exponent`. -/
structure Dyadic where
  mantissa : Nat
  exponent : Int
  deriving DecidableEq, Repr

namespace Dyadic

/-- A whole number. -/
def ofNat (n : Nat) : Dyadic := ⟨n, 0⟩

/-- The value as a fraction: numerator and denominator. -/
def fraction (x : Dyadic) : Nat × Nat :=
  (x.mantissa * 2 ^ x.exponent.toNat, 2 ^ (-x.exponent).toNat)

/-- The greatest whole number not above the value. -/
def floor (x : Dyadic) : Nat := x.fraction.1 / x.fraction.2

/-- The exact product. -/
def mul (x y : Dyadic) : Dyadic := ⟨x.mantissa * y.mantissa, x.exponent + y.exponent⟩

/-- A quotient rounded to the nearest whole number, a half to the even one. -/
def nearestDiv (n d : Nat) : Nat :=
  let q := n / d
  let r := n % d
  if 2 * r < d then q else if d < 2 * r then q + 1 else q + q % 2

/-- The exponent of the binary place that a double of about `n / d` ends at:
fifty-two places below the leading one, and never below the least place. -/
def lastPlace (n d : Nat) : Int :=
  let guess : Int := (n.log2 : Int) - d.log2
  let below : Prop := n * 2 ^ (-guess).toNat < d * 2 ^ guess.toNat
  let leading := if below then guess - 1 else guess
  max (-1074) (leading - 52)

/-- The double nearest to `n / d`, as if the exponent had no upper limit. -/
def nearest (n d : Nat) : Dyadic :=
  if n = 0 then ⟨0, 0⟩
  else
    let q := lastPlace n d
    ⟨nearestDiv (n * 2 ^ (-q).toNat) (d * 2 ^ q.toNat), q⟩

/-- The double nearest to the value. -/
def round (x : Dyadic) : Dyadic := nearest x.fraction.1 x.fraction.2

/-- The double nearest to the quotient. -/
def div (x y : Dyadic) : Dyadic :=
  nearest (x.fraction.1 * y.fraction.2) (x.fraction.2 * y.fraction.1)

/-- The value is too large for a finite double. -/
def Overflows (x : Dyadic) : Prop := 2 ^ 1024 * x.fraction.2 ≤ x.fraction.1

instance (x : Dyadic) : Decidable x.Overflows :=
  inferInstanceAs (Decidable (_ ≤ _))

end Dyadic

/-- An IEEE double, by its bits. -/
structure Double where
  bits : UInt64
  deriving DecidableEq, Repr

namespace Double

/-- Positive zero. -/
def zero : Double := ⟨0⟩

/-- One. -/
def one : Double := ⟨0x3FF0000000000000⟩

/-- The sign bit is set. -/
def isNegative (d : Double) : Bool := 2 ^ 63 ≤ d.bits.toNat

/-- The field of the exponent. -/
def exponentField (d : Double) : Nat := d.bits.toNat / 2 ^ 52 % 2 ^ 11

/-- The field of the fraction. -/
def fractionField (d : Double) : Nat := d.bits.toNat % 2 ^ 52

/-- Neither infinite nor without a value. -/
def IsFinite (d : Double) : Prop := d.exponentField ≠ 2047

instance (d : Double) : Decidable d.IsFinite := inferInstanceAs (Decidable (¬ _))

/-- The exact value of a finite double, without its sign. -/
def magnitude (d : Double) : Dyadic :=
  if d.exponentField = 0 then ⟨d.fractionField, -1074⟩
  else ⟨d.fractionField + 2 ^ 52, (d.exponentField : Int) - 1075⟩

/-- The double with a given sign and a magnitude that is already rounded. -/
def ofMagnitude (negative : Bool) (x : Dyadic) : Double :=
  let body := if x.mantissa = 0 then 0 else x.mantissa + (x.exponent + 1074).toNat * 2 ^ 52
  ⟨UInt64.ofNat (body + if negative then 2 ^ 63 else 0)⟩

/-- The double nearest to an integer. -/
def ofInt (n : Int) : Double :=
  ofMagnitude (n < 0) (Dyadic.round (.ofNat n.natAbs))

/-- A value limited to the range from zero to one. A negative value becomes
zero. -/
def clampUnit (d : Double) : Dyadic :=
  if d.isNegative then ⟨0, 0⟩
  else
    let x := d.magnitude
    if x.fraction.2 < x.fraction.1 then .ofNat 1 else x

end Double

end RewardLedger
