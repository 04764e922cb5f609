/-!
# Amounts

Balances, credits and identifiers are whole numbers held in sixty-four signed
bits. Arithmetic on them is exact: an operation whose result does not fit has
no result at all, and the caller abandons what it was doing. It never wraps.

Numbers are therefore plain integers here, and the width appears only as the
test `Amount.Fits` made by every operation.
-/

namespace RewardLedger

-- Powers and sums of whole numbers are those of the core library. Said once, this holds in
-- every module, whichever other instances of the same operations it sees.

@[default_instance 20000]
instance (priority := 1100) corePow : Pow Nat Nat := instPowNat

instance (priority := 1100) coreZeroNat : Zero Nat := Zero.ofOfNat0

instance (priority := 1100) coreZeroInt : Zero Int := Zero.ofOfNat0

namespace Amount

/-- The least amount that can be held. -/
def least : Int := -9223372036854775808

/-- The greatest amount that can be held. -/
def greatest : Int := 9223372036854775807

/-- An integer **fits** when it lies between the least and the greatest
amount. -/
def Fits (n : Int) : Prop := least ≤ n ∧ n ≤ greatest

instance (n : Int) : Decidable (Fits n) := inferInstanceAs (Decidable (_ ∧ _))

theorem fits_iff (n : Int) :
    Fits n ↔ -9223372036854775808 ≤ n ∧ n ≤ 9223372036854775807 := Iff.rfl

theorem fits_zero : Fits 0 := by decide

/-- The integer itself when it fits. -/
def check? (n : Int) : Option Int := if Fits n then some n else none

@[simp] theorem check?_eq_some_iff {n m : Int} :
    check? n = some m ↔ Fits n ∧ n = m := by
  simp [check?]

@[simp] theorem check?_eq_none_iff {n : Int} : check? n = none ↔ ¬ Fits n := by
  simp [check?]

/-- The sum, when it fits. -/
def add? (a b : Int) : Option Int := check? (a + b)

/-- The difference, when it fits. -/
def sub? (a b : Int) : Option Int := check? (a - b)

@[simp] theorem add?_eq_some_iff {a b c : Int} :
    add? a b = some c ↔ Fits (a + b) ∧ a + b = c := by
  simp [add?]

@[simp] theorem sub?_eq_some_iff {a b c : Int} :
    sub? a b = some c ↔ Fits (a - b) ∧ a - b = c := by
  simp [sub?]

/-- The greatest number of sixty-four unsigned bits, which counts and weights
may reach. -/
def greatestCount : Nat := 18446744073709551615

end Amount

end RewardLedger
