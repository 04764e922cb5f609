import Mathlib.Algebra.Order.Field.Power
import Mathlib.Algebra.Order.Floor.Semifield
import Mathlib.Data.Rat.Floor
import Mathlib.Tactic.FieldSimp
import Mathlib.Tactic.Linarith
import Mathlib.Tactic.Positivity
import Mathlib.Tactic.Ring
import RewardLedger.Double

/-!
# Rounding to doubles

A value is rounded in two steps: its last place is the fifty-second below its leading one,
or the least place there is, and it is then taken to a whole number of units of that place.
What one wants to know of it does not mention places. A rounded value can be held in
fifty-three bits (`Dyadic.holdable_nearest`); a value that can be held is not changed
(`Dyadic.value_nearest_of_eq`); and whatever is at most such a value is rounded to no more
than it (`Dyadic.value_nearest_le`). The last holds although the value that bounds may have
been written with another last place, because the only places that can differ are those
around a power of two, which can be held at either.
-/

namespace RewardLedger.Dyadic

/-- **The value**, as a rational number. -/
def value (x : Dyadic) : ℚ := x.mantissa * 2 ^ x.exponent

/-- **The number can be held** in a double that has no greatest exponent. -/
def Holdable (x : Dyadic) : Prop := x.mantissa ≤ 2 ^ 53 ∧ -1074 ≤ x.exponent

theorem value_nonneg (x : Dyadic) : 0 ≤ x.value := by
  unfold value
  positivity

@[simp] theorem value_ofNat (n : Nat) : (ofNat n).value = n := by
  simp [value, ofNat]

@[simp] theorem value_mul (x y : Dyadic) : (x.mul y).value = x.value * y.value := by
  simp only [value, mul, Nat.cast_mul]
  rw [zpow_add₀ (by norm_num)]
  ring

/-- A power of two as a fraction of whole numbers. -/
theorem zpow_eq_div (e : Int) :
    (2 : ℚ) ^ e = (2 ^ e.toNat : Nat) / (2 ^ (-e).toNat : Nat) := by
  obtain ⟨n, rfl | rfl⟩ := e.eq_nat_or_neg
  · simp
  · simp

theorem fraction_pos (x : Dyadic) : 0 < x.fraction.2 := Nat.two_pow_pos _

/-- The fraction of a number has its value. -/
theorem value_eq_fraction (x : Dyadic) : x.value = x.fraction.1 / x.fraction.2 := by
  rw [value, zpow_eq_div, fraction, Nat.cast_mul, mul_div_assoc]

/-- The greatest whole number not above the value is that of the rational number. -/
theorem floor_eq (x : Dyadic) : x.floor = ⌊x.value⌋₊ := by
  rw [value_eq_fraction, Nat.floor_div_natCast, Nat.floor_natCast, floor]

/-! ## The nearest whole number -/

section NearestDiv

variable {n d k : Nat}

theorem nearestDiv_le (hd : 0 < d) (h : n ≤ k * d) : nearestDiv n d ≤ k := by
  have quotient : n / d ≤ k := Nat.div_le_of_le_mul (by rwa [Nat.mul_comm])
  dsimp only [nearestDiv]
  obtain less | whole := Nat.lt_or_eq_of_le quotient
  · split
    · exact quotient
    · split <;> omega
  · -- a whole quotient leaves no remainder
    have none : n % d = 0 := by
      have parts := Nat.div_add_mod n d
      rw [whole, Nat.mul_comm] at parts
      omega
    rw [none, if_pos (by omega)]
    exact quotient

theorem le_nearestDiv (hd : 0 < d) (h : k * d ≤ n) : k ≤ nearestDiv n d := by
  have quotient : k ≤ n / d := (Nat.le_div_iff_mul_le hd).2 h
  dsimp only [nearestDiv]
  split
  · exact quotient
  · split <;> omega

/-- It is at most a half above. -/
theorem two_mul_nearestDiv_le (n d : Nat) : 2 * (nearestDiv n d * d) ≤ 2 * n + d := by
  have parts := Nat.div_add_mod n d
  rw [Nat.mul_comm] at parts
  dsimp only [nearestDiv]
  split
  · omega
  · split
    · rw [Nat.add_mul]
      omega
    · have half : n / d % 2 * d ≤ d := by
        have : n / d % 2 ≤ 1 := by omega
        nlinarith
      rw [Nat.add_mul]
      omega

end NearestDiv

/-! ## The last place -/

section LastPlace

variable {n d : Nat} (hn : n ≠ 0) (hd : d ≠ 0)

include hn hd

/-- **The last place** is fifty-two below the leading one, or the least there is. -/
theorem exists_leading : ∃ leading : Int, (2 : ℚ) ^ leading ≤ n / d
    ∧ (n / d : ℚ) < 2 ^ (leading + 1) ∧ lastPlace n d = max (-1074) (leading - 52) := by
  have hd' : (0 : ℚ) < d := by exact_mod_cast Nat.pos_of_ne_zero hd
  -- the logarithms leave two places to choose from
  let guess : Int := (n.log2 : Int) - d.log2
  have split : (2 : ℚ) ^ guess = 2 ^ n.log2 / 2 ^ d.log2 := by
    rw [zpow_sub₀ (by norm_num), zpow_natCast, zpow_natCast]
  have least : (2 : ℚ) ^ (guess - 1) ≤ n / d := by
    have low : (2 ^ n.log2 : ℚ) ≤ n := by exact_mod_cast Nat.log2_self_le hn
    have high : (d : ℚ) ≤ 2 ^ d.log2 * 2 := by
      rw [← pow_succ]
      exact_mod_cast Nat.lt_log2_self.le
    rw [zpow_sub_one₀ (by norm_num), split, ← div_eq_mul_inv, div_div]
    gcongr
  have most : (n / d : ℚ) < 2 ^ (guess + 1) := by
    have low : (2 ^ d.log2 : ℚ) ≤ d := by exact_mod_cast Nat.log2_self_le hd
    have high : (n : ℚ) < 2 ^ n.log2 * 2 := by
      rw [← pow_succ]
      exact_mod_cast Nat.lt_log2_self
    rw [zpow_add_one₀ (by norm_num), split, div_mul_eq_mul_div]
    gcongr
  have below_iff : n * 2 ^ (-guess).toNat < d * 2 ^ guess.toNat ↔ (n / d : ℚ) < 2 ^ guess := by
    rw [zpow_eq_div, div_lt_div_iff₀ hd' (by positivity), mul_comm _ (d : ℚ)]
    exact_mod_cast Iff.rfl
  by_cases below : n * 2 ^ (-guess).toNat < d * 2 ^ guess.toNat
  · refine ⟨guess - 1, least, ?_, ?_⟩
    · rw [sub_add_cancel]
      exact below_iff.1 below
    · show max (-1074) ((if _ then guess - 1 else guess) - 52) = _
      rw [if_pos below]
  · refine ⟨guess, not_lt.1 (mt below_iff.2 below), most, ?_⟩
    show max (-1074) ((if _ then guess - 1 else guess) - 52) = _
    rw [if_neg below]

omit hd in
/-- What is rounded to the last place is a whole number of its units. -/
theorem nearest_eq : nearest n d
    = ⟨nearestDiv (n * 2 ^ (-lastPlace n d).toNat) (d * 2 ^ (lastPlace n d).toNat),
      lastPlace n d⟩ := if_neg hn

omit hn hd in
/-- That whole number is nearest to the number of units. -/
theorem units_eq (n d : Nat) (place : Int) :
    ((n * 2 ^ (-place).toNat : Nat) : ℚ) / (d * 2 ^ place.toNat : Nat) = n / d / 2 ^ place := by
  rw [zpow_eq_div, Nat.cast_mul, Nat.cast_mul]
  field_simp

omit hn in
theorem units_pos (place : Int) : 0 < d * 2 ^ place.toNat :=
  Nat.mul_pos (Nat.pos_of_ne_zero hd) (Nat.two_pow_pos _)

omit hn in
/-- A whole number of units that is not exceeded is not exceeded by rounding. -/
theorem nearestDiv_units_le {place : Int} {k : Nat} (h : (n / d : ℚ) ≤ k * 2 ^ place) :
    nearestDiv (n * 2 ^ (-place).toNat) (d * 2 ^ place.toNat) ≤ k := by
  refine nearestDiv_le (units_pos hd place) ?_
  have units : (n / d / 2 ^ place : ℚ) ≤ k := (div_le_iff₀ (by positivity)).2 h
  rw [← units_eq, div_le_iff₀ (by exact_mod_cast units_pos hd place)] at units
  exact_mod_cast units

omit hn in
/-- A whole number of units that is reached is reached by rounding. -/
theorem le_nearestDiv_units {place : Int} {k : Nat} (h : k * 2 ^ place ≤ (n / d : ℚ)) :
    k ≤ nearestDiv (n * 2 ^ (-place).toNat) (d * 2 ^ place.toNat) := by
  refine le_nearestDiv (units_pos hd place) ?_
  have units : (k : ℚ) ≤ n / d / 2 ^ place := (le_div_iff₀ (by positivity)).2 h
  rw [← units_eq, le_div_iff₀ (by exact_mod_cast units_pos hd place)] at units
  exact_mod_cast units

/-- **A holdable bound is a whole number of units** of the last place of what it bounds, or
lies above one that bounds it as well. -/
theorem exists_units {m : Nat} {e : Int} (hm : m ≤ 2 ^ 53) (he : -1074 ≤ e)
    (h : (n / d : ℚ) ≤ m * 2 ^ e) :
    ∃ k : Nat, (n / d : ℚ) ≤ k * 2 ^ lastPlace n d
      ∧ (k : ℚ) * 2 ^ lastPlace n d ≤ m * 2 ^ e
      ∧ ((n / d : ℚ) = m * 2 ^ e → (k : ℚ) * 2 ^ lastPlace n d = m * 2 ^ e) := by
  obtain ⟨leading, low, -, place⟩ := exists_leading hn hd
  by_cases order : lastPlace n d ≤ e
  · have same : ((m * 2 ^ (e - lastPlace n d).toNat : Nat) : ℚ) * 2 ^ lastPlace n d
        = m * 2 ^ e := by
      have shift : (2 : ℚ) ^ e
          = 2 ^ (e - lastPlace n d).toNat * 2 ^ lastPlace n d := by
        rw [← zpow_natCast, ← zpow_add₀ (by norm_num)]
        congr 1
        omega
      rw [shift]
      push_cast
      ring
    exact ⟨_, by rwa [same], same.le, fun _ => same⟩
  · -- the leading place is above all bits of the bound, so both are the same power of two
    have above : (m * 2 ^ e : ℚ) ≤ 2 ^ leading := by
      calc (m * 2 ^ e : ℚ) ≤ 2 ^ 53 * 2 ^ e := by
            gcongr
            exact_mod_cast hm
        _ = 2 ^ (53 + e) := by rw [zpow_add₀ (by norm_num)]; norm_num
        _ ≤ 2 ^ leading := zpow_le_zpow_right₀ (by norm_num) (by omega)
    have units : ((2 ^ 52 : Nat) : ℚ) * 2 ^ lastPlace n d = 2 ^ leading := by
      have shift : (leading : Int) = 52 + lastPlace n d := by omega
      rw [shift, zpow_add₀ (by norm_num)]
      norm_num
    refine ⟨2 ^ 52, ?_, ?_, fun _ => ?_⟩ <;> rw [units]
    · exact h.trans above
    · exact low.trans h
    · exact (low.trans h).antisymm above

end LastPlace

/-! ## Rounding -/

section Nearest

variable {n d m : Nat} {e : Int}

/-- Nothing is rounded to nothing. -/
theorem nearest_zero (d : Nat) : nearest 0 d = ⟨0, 0⟩ := if_pos rfl

/-- **A bound that can be held still holds after rounding.** -/
theorem value_nearest_le (hd : d ≠ 0) (hm : m ≤ 2 ^ 53) (he : -1074 ≤ e)
    (h : (n / d : ℚ) ≤ m * 2 ^ e) : (nearest n d).value ≤ m * 2 ^ e := by
  by_cases hn : n = 0
  · rw [hn, nearest_zero, value, Nat.cast_zero, zero_mul]
    positivity
  · obtain ⟨k, bound, within, -⟩ := exists_units hn hd hm he h
    have most := nearestDiv_units_le hd bound
    rw [nearest_eq hn, value]
    refine le_trans ?_ within
    gcongr

/-- **A value that can be held is not changed by rounding.** -/
theorem value_nearest_of_eq (hd : d ≠ 0) (hm : m ≤ 2 ^ 53) (he : -1074 ≤ e)
    (h : (n / d : ℚ) = m * 2 ^ e) : (nearest n d).value = m * 2 ^ e := by
  refine (value_nearest_le hd hm he h.le).antisymm ?_
  by_cases hn : n = 0
  · rw [hn, nearest_zero, ← h, hn]
    simp [value]
  · obtain ⟨k, -, -, same⟩ := exists_units hn hd hm he h.le
    have least := le_nearestDiv_units hd ((same h).trans h.symm).le
    rw [nearest_eq hn, value, ← same h]
    gcongr

/-- **A rounded value can be held.** -/
theorem holdable_nearest (hd : d ≠ 0) : (nearest n d).Holdable := by
  by_cases hn : n = 0
  · rw [hn, nearest_zero]
    exact ⟨Nat.zero_le _, by norm_num⟩
  · obtain ⟨leading, -, high, place⟩ := exists_leading hn hd
    rw [nearest_eq hn]
    refine ⟨nearestDiv_units_le hd ?_, by dsimp only; omega⟩
    calc (n / d : ℚ) ≤ 2 ^ (leading + 1) := high.le
      _ ≤ 2 ^ (53 + lastPlace n d) := zpow_le_zpow_right₀ (by norm_num) (by omega)
      _ = ((2 ^ 53 : Nat) : ℚ) * 2 ^ lastPlace n d := by
        rw [zpow_add₀ (by norm_num)]
        norm_num

theorem holdable_round (x : Dyadic) : x.round.Holdable :=
  holdable_nearest x.fraction_pos.ne'

/-- What is at most a value that can be held is rounded to at most that. -/
theorem value_round_le {x y : Dyadic} (hold : y.Holdable) (h : x.value ≤ y.value) :
    x.round.value ≤ y.value := by
  rw [value_eq_fraction] at h
  exact value_nearest_le x.fraction_pos.ne' hold.1 hold.2 h

/-- What has the value of a number that can be held is rounded to that. -/
theorem value_round_of_eq {x y : Dyadic} (hold : y.Holdable) (h : x.value = y.value) :
    x.round.value = y.value := by
  rw [value_eq_fraction] at h
  exact value_nearest_of_eq x.fraction_pos.ne' hold.1 hold.2 h

/-- Rounding adds half a unit of the last place at most. -/
theorem value_nearest_le_add (hn : n ≠ 0) (hd : d ≠ 0) :
    (nearest n d).value ≤ n / d + 2 ^ lastPlace n d / 2 := by
  rw [nearest_eq hn, value]
  dsimp only
  generalize lastPlace n d = place
  have pos : (0 : ℚ) < (d * 2 ^ place.toNat : Nat) := by exact_mod_cast units_pos hd place
  have half := two_mul_nearestDiv_le (n * 2 ^ (-place).toNat) (d * 2 ^ place.toNat)
  have bound : (nearestDiv (n * 2 ^ (-place).toNat) (d * 2 ^ place.toNat) : ℚ)
      ≤ n / d / 2 ^ place + 1 / 2 := by
    rw [← units_eq, div_add' _ _ _ pos.ne', le_div_iff₀ pos]
    have cast : (2 : ℚ) * (nearestDiv (n * 2 ^ (-place).toNat) (d * 2 ^ place.toNat)
        * (d * 2 ^ place.toNat : Nat))
        ≤ 2 * (n * 2 ^ (-place).toNat : Nat) + (d * 2 ^ place.toNat : Nat) := by
      exact_mod_cast half
    linarith
  calc _ ≤ ((n : ℚ) / d / 2 ^ place + 1 / 2) * 2 ^ place := by gcongr
    _ = n / d + 2 ^ place / 2 := by
      field_simp

/-- **A whole number is rounded up by what its leading fifty-three bits do not tell.** -/
theorem value_round_ofNat_le (n : Nat) : (round (ofNat n)).value ≤ n + n / 2 ^ 53 := by
  have fraction : (ofNat n).fraction = (n, 1) := by simp [ofNat, Dyadic.fraction]
  rw [round, fraction]
  by_cases hn : n = 0
  · subst hn
    simp [nearest_zero, value]
  · obtain ⟨leading, low, high, place⟩ := exists_leading hn Nat.one_ne_zero
    have most := value_nearest_le_add hn Nat.one_ne_zero
    rw [Nat.cast_one, div_one] at low high most
    -- a whole number has no leading place below the point
    have whole : 0 ≤ leading := by
      by_contra negative
      have one : (1 : ℚ) ≤ n := by exact_mod_cast Nat.pos_of_ne_zero hn
      have small : (2 : ℚ) ^ (leading + 1) ≤ 2 ^ (0 : Int) :=
        zpow_le_zpow_right₀ (by norm_num) (by omega)
      rw [zpow_zero] at small
      linarith
    have unit : (2 : ℚ) ^ lastPlace n 1 / 2 ≤ n / 2 ^ 53 := by
      rw [show lastPlace n 1 = leading - (52 : Nat) by omega, zpow_sub₀ (by norm_num),
        zpow_natCast, div_div, div_le_div_iff₀ (by positivity) (by positivity)]
      linarith
    linarith

end Nearest

end RewardLedger.Dyadic
