import Mathlib.Data.List.Basic
import Mathlib.Data.List.Induction
import Mathlib.Tactic.IntervalCases
import RewardLedger.Text.Decimal

/-!
# Digits and back

Numbers are written by their digits and read back by adding the digits up. Zeros in front
make no difference to what is read, and a number that fits a width is filled up to just
that many digits.
-/

namespace RewardLedger.Text

variable {n width : Nat}

theorem isDigit_of_mem_digits {c : Char} (h : c ∈ digits n) : c.isDigit = true :=
  Nat.isDigit_of_mem_toDigits (by decide) (by decide) h

theorem digits_ne_nil : digits n ≠ [] := Nat.toDigits_ne_nil

/-- The text of a number begins with a digit. -/
theorem exists_digits (n : Nat) : ∃ d ds, digits n = d :: ds ∧ d.isDigit = true := by
  obtain ⟨d, ds, digits⟩ := List.exists_cons_of_ne_nil (digits_ne_nil (n := n))
  exact ⟨d, ds, digits, isDigit_of_mem_digits (digits ▸ List.mem_cons_self)⟩

/-- The digits of a number stand for it. -/
theorem ofDigits_digits (n : Nat) : ofDigits (digits n) = n := by
  have read := Nat.ofDigitChars_ten_toDigits (n := n)
  rw [Nat.ofDigitChars_eq_foldl] at read
  exact read

/-- So many digits stand for a number below that power of ten. -/
theorem ofDigits_lt {ds : List Char} (all : ∀ d ∈ ds, d.isDigit = true) :
    ofDigits ds < 10 ^ ds.length := by
  induction ds using List.reverseRecOn with
  | nil => decide
  | append_singleton ds d ih =>
    have before := ih fun c hc => all c (List.mem_append_left _ hc)
    have digit : d.toNat ≤ 57 := (Char.isDigit_iff_toNat.1 (all d (by simp))).2
    have zero : ('0').toNat = 48 := rfl
    rw [ofDigits, List.foldl_append, List.length_append, List.length_singleton, Nat.pow_succ]
    show 10 * ofDigits ds + (d.toNat - ('0').toNat) < _
    omega

/-- Digits are read up to the first character that is none. -/
theorem takeWhile_isDigit {ds : List Char} (all : ∀ d ∈ ds, d.isDigit = true) {c : Char}
    (other : c.isDigit = false) (rest : List Char) :
    (ds ++ c :: rest).takeWhile Char.isDigit = ds := by
  rw [List.takeWhile_append_of_pos all, List.takeWhile_cons_of_neg (by simp [other]),
    List.append_nil]

theorem takeWhile_digits (n : Nat) {c : Char} (other : c.isDigit = false) (rest : List Char) :
    (digits n ++ c :: rest).takeWhile Char.isDigit = digits n :=
  takeWhile_isDigit (fun _ => isDigit_of_mem_digits) other rest

/-- Only zero begins with a zero. -/
theorem eq_zero_of_head?_digits (h : (digits n).head? = some '0') : n = 0 := by
  induction n using Nat.strong_induction_on with
  | _ n ih =>
    rw [digits, Nat.toDigits_eq_if (by decide)] at h
    split at h
    · next small =>
      -- one digit, which says the number
      have same : n.digitChar = '0' := Option.some.inj h
      interval_cases n <;> revert same <;> decide
    · next large =>
      rw [List.head?_append_of_ne_nil _ Nat.toDigits_ne_nil] at h
      have := ih (n / 10) (by omega) h
      omega

/-! ## Digits of a width -/

theorem isDigit_of_mem_paddedDigits {c : Char} (h : c ∈ paddedDigits width n) :
    c.isDigit = true := by
  rcases List.mem_append.1 h with h | h
  · rw [List.eq_of_mem_replicate h]
    decide
  · exact isDigit_of_mem_digits h

theorem paddedDigits_ne_nil : paddedDigits width n ≠ [] :=
  List.append_ne_nil_of_right_ne_nil _ digits_ne_nil

/-- Zeros in front make no difference. -/
theorem ofDigits_paddedDigits (width n : Nat) : ofDigits (paddedDigits width n) = n := by
  have zeros (k : Nat) (ds : List Char) : ofDigits (List.replicate k '0' ++ ds) = ofDigits ds := by
    induction k with
    | zero => rfl
    | succ k ih => exact ih
  rw [paddedDigits, zeros, ofDigits_digits]

/-- A number that fits a width is filled up to it. -/
theorem length_paddedDigits (positive : 0 < width) (fits : n < 10 ^ width) :
    (paddedDigits width n).length = width := by
  have short : (digits n).length ≤ width :=
    (Nat.length_toDigits_le_iff (by decide) positive).2 fits
  rw [paddedDigits, List.length_append, List.length_replicate]
  omega

end RewardLedger.Text
