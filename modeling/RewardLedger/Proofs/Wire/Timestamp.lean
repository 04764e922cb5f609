import Mathlib.Data.List.TakeWhile
import Mathlib.Tactic.Ring
import RewardLedger.Proofs.Wire.Calendar
import RewardLedger.Proofs.Wire.Digits
import RewardLedger.Time.Timestamp

/-!
# Timestamps are read as they were written

An instant that was read from a text lies on an admitted day, and if it is a leap second it
ends a minute (`Instant.OnClock`). Conversely every such instant is read back from its own
text, whatever the sign of its year and the digits of its fraction
(`Timestamp.parse?_chars`). So these are just the instants that can be read from any text.
-/

namespace RewardLedger

/-- **An instant is on the clock** if its day is admitted, its fraction is one of a second,
and a leap second is the last of a minute. -/
structure Instant.OnClock (t : Instant) : Prop where
  admitted : t.day.Admitted
  nanos_lt : t.nanos < 2 * nanosPerSecond
  leap : nanosPerSecond ≤ t.nanos → t.seconds % 60 = 59

namespace Timestamp

open Text

/-! ## Parts that are read -/

section Parts

variable {width n : Nat} {c : Char} {rest : List Char}

/-- No digit is a blank. -/
theorem isBlank_of_isDigit (digit : c.isDigit = true) : isBlank c = false := by
  obtain ⟨least, most⟩ := Char.isDigit_iff_toNat.1 digit
  have least : 48 ≤ c.toNat := least
  have most : c.toNat ≤ 57 := most
  simp only [isBlank, Bool.or_eq_false_iff, Bool.and_eq_false_iff, decide_eq_false_iff_not]
  omega

/-- There are no blanks in front of what begins with something else. -/
theorem trimLeft_cons (solid : isBlank c = false) : trimLeft (c :: rest) = c :: rest :=
  List.dropWhile_cons_of_neg (by simp [solid])

theorem trimLeft_digits {ds : List Char} (all : ∀ d ∈ ds, d.isDigit = true) (some : ds ≠ []) :
    trimLeft (ds ++ rest) = ds ++ rest := by
  cases ds with
  | nil => exact absurd rfl some
  | cons d ds => exact trimLeft_cons (isBlank_of_isDigit (all d List.mem_cons_self))

/-- **A number that fills its width** is read, whatever comes after it. -/
theorem number?_paddedDigits (width n : Nat) (rest : List Char) (positive : 0 < width)
    (fits : n < 10 ^ width) :
    number? width (paddedDigits width n ++ rest) = some (n, rest) := by
  have all : ∀ d ∈ paddedDigits width n, d.isDigit = true := fun _ => isDigit_of_mem_paddedDigits
  have length := length_paddedDigits positive fits
  have taken : (paddedDigits width n ++ rest).take width = paddedDigits width n :=
    List.take_left' length
  have own : (paddedDigits width n).takeWhile Char.isDigit = paddedDigits width n :=
    List.takeWhile_eq_self_iff.2 all
  unfold number?
  simp only [trimLeft_digits all paddedDigits_ne_nil, taken, own]
  split
  · next none => exact absurd none paddedDigits_ne_nil
  · rw [ofDigits_paddedDigits, List.drop_left]

/-- A mark is passed. -/
theorem after?_cons (solid : isBlank c = false) : after? c (c :: rest) = some rest := by
  unfold after?
  rw [trimLeft_cons solid]
  exact if_pos rfl

/-- A fraction is as many digits as follow the point, of which nine count. -/
theorem fraction?_of_digits {cs ds : List Char} (digits : cs.takeWhile Char.isDigit = ds)
    (written : ds ≠ []) : fraction? ('.' :: cs)
      = some (ofDigits (ds.take 9) * 10 ^ (9 - (ds.take 9).length), cs.drop ds.length) := by
  obtain ⟨d, ds, rfl⟩ := List.exists_cons_of_ne_nil written
  simp only [fraction?, digits]

/-- **A fraction is read** as so many nanoseconds as its digits say. -/
theorem fraction?_paddedDigits (positive : 0 < width) (most : width ≤ 9)
    (fits : n < 10 ^ width) (other : c.isDigit = false) :
    fraction? ('.' :: paddedDigits width n ++ c :: rest)
      = some (n * 10 ^ (9 - width), c :: rest) := by
  have length := length_paddedDigits positive fits
  have own : (paddedDigits width n ++ c :: rest).takeWhile Char.isDigit = paddedDigits width n :=
    takeWhile_isDigit (fun _ => isDigit_of_mem_paddedDigits) other rest
  have kept : (paddedDigits width n).take 9 = paddedDigits width n :=
    List.take_of_length_le (by omega)
  rw [List.cons_append, fraction?_of_digits own paddedDigits_ne_nil, kept, ofDigits_paddedDigits,
    List.drop_left, length]

/-- A year without a sign is a number of four digits. -/
theorem year?_of_digit (digit : c.isDigit = true) :
    year? (c :: rest) = (number? 4 (c :: rest)).map fun (n, rest) => ((n : Int), rest) := by
  unfold year?
  rw [trimLeft_cons (isBlank_of_isDigit digit)]
  split
  · next h =>
    cases h
    exact absurd digit (by decide)
  · next h =>
    cases h
    exact absurd digit (by decide)
  · rfl

/-- Behind a minus a year is as many digits as there are. -/
theorem year?_minus {cs ds : List Char} (digits : cs.takeWhile Char.isDigit = ds)
    (written : ds ≠ []) :
    year? ('-' :: cs) = some (-(ofDigits ds : Int), cs.drop ds.length) := by
  obtain ⟨d, ds, rfl⟩ := List.exists_cons_of_ne_nil written
  have solid : trimLeft ('-' :: cs) = '-' :: cs := trimLeft_cons (by decide)
  simp only [year?, solid, digits]

/-- Behind a plus a year is as many digits as there are. -/
theorem year?_plus {cs ds : List Char} (digits : cs.takeWhile Char.isDigit = ds)
    (written : ds ≠ []) :
    year? ('+' :: cs) = some ((ofDigits ds : Int), cs.drop ds.length) := by
  obtain ⟨d, ds, rfl⟩ := List.exists_cons_of_ne_nil written
  have solid : trimLeft ('+' :: cs) = '+' :: cs := trimLeft_cons (by decide)
  simp only [year?, solid, digits]

end Parts

/-- **A year is read** up to a sign that is no digit. -/
theorem year?_yearChars (year : Int) (rest : List Char) :
    year? (yearChars year ++ '-' :: rest) = some (year, '-' :: rest) := by
  unfold yearChars
  split
  · next four =>
    have read := number?_paddedDigits 4 year.toNat ('-' :: rest) (by decide) (by omega)
    have written : paddedDigits 4 year.toNat ≠ [] := paddedDigits_ne_nil
    obtain ⟨c, cs, digits⟩ := List.exists_cons_of_ne_nil written
    have digit : c.isDigit = true :=
      isDigit_of_mem_paddedDigits (digits ▸ List.mem_cons_self)
    rw [digits] at read ⊢
    rw [List.cons_append] at read ⊢
    rw [year?_of_digit digit, read]
    show some ((year.toNat : Int), '-' :: rest) = _
    rw [Int.toNat_of_nonneg four.1]
  · have own : (paddedDigits 4 year.natAbs ++ '-' :: rest).takeWhile Char.isDigit
        = paddedDigits 4 year.natAbs :=
      takeWhile_isDigit (fun _ => isDigit_of_mem_paddedDigits) (by decide) rest
    by_cases negative : year < 0
    · rw [if_pos negative, List.cons_append, year?_minus own paddedDigits_ne_nil,
        ofDigits_paddedDigits, List.drop_left, ← Int.eq_neg_natAbs_of_nonpos]
      omega
    · rw [if_neg negative, List.cons_append, year?_plus own paddedDigits_ne_nil,
        ofDigits_paddedDigits, List.drop_left, Int.natAbs_of_nonneg (by omega)]

/-- **A date is read** as it was written. -/
theorem date?_dateChars {d : Date} (month : d.month < 100) (day : d.day < 100)
    (rest : List Char) : date? (dateChars d ++ rest) = some (d, rest) := by
  have months := number?_paddedDigits 2 d.month ('-' :: (paddedDigits 2 d.day ++ rest))
    (by decide) month
  have days := number?_paddedDigits 2 d.day rest (by decide) day
  have mark (rest : List Char) : after? '-' ('-' :: rest) = some rest := after?_cons (by decide)
  simp only [date?, dateChars, List.append_assoc, List.cons_append, year?_yearChars, mark, months,
    days, Option.bind_eq_bind, Option.bind_some]

/-- **A fraction is read** as it was written. -/
theorem fraction?_fractionChars {nanos : Nat} (fits : nanos < Instant.nanosPerSecond)
    (rest : List Char) :
    fraction? (fractionChars nanos ++ 'Z' :: rest) = some (nanos, 'Z' :: rest) := by
  have small : nanos < 1000000000 := fits
  have other : ('Z').isDigit = false := by decide
  unfold fractionChars
  split
  · next none =>
    subst none
    rfl
  · split
    · next millis =>
      rw [fraction?_paddedDigits (by decide) (by decide) (by omega) other]
      simp only [Option.some.injEq, Prod.mk.injEq, and_true]
      omega
    · split
      · next micros =>
        rw [fraction?_paddedDigits (by decide) (by decide) (by omega) other]
        simp only [Option.some.injEq, Prod.mk.injEq, and_true]
        omega
      · rw [fraction?_paddedDigits (by decide) (by decide) small other]
        simp

/-! ## Instants -/

/-- **What an instant on the clock is made of**: its day, a second of the day, perhaps a leap
second after it, and a fraction of the one or the other. -/
theorem clock_parts {t : Instant} (h : t.OnClock) :
    let second := (t.seconds % 86400).toNat
    let leap := if Instant.nanosPerSecond ≤ t.nanos then 1 else 0
    let nanos := if Instant.nanosPerSecond ≤ t.nanos then t.nanos - Instant.nanosPerSecond
      else t.nanos
    second < 86400 ∧ second % 60 + leap ≤ 60 ∧ nanos < Instant.nanosPerSecond
      ∧ (⟨t.day.number * 86400
          + (second / 3600 * 3600 + second / 60 % 60 * 60 + min (second % 60 + leap) 59 : Nat) - 0,
        if second % 60 + leap = 60 then nanos + Instant.nanosPerSecond else nanos⟩ : Instant)
        = t := by
  obtain ⟨seconds, nanos⟩ := t
  have bounded : nanos < 2 * Instant.nanosPerSecond := h.nanos_lt
  intro second leap fraction
  have hsecond : second = (seconds % 86400).toNat := rfl
  have ofDay : second < 86400 ∧ (second : Int) = seconds % 86400 := by omega
  have size : Instant.nanosPerSecond = 1000000000 := rfl
  by_cases long : Instant.nanosPerSecond ≤ nanos
  · have hleap : leap = 1 := if_pos long
    have hfraction : fraction = nanos - Instant.nanosPerSecond := if_pos long
    have last : seconds % 60 = 59 := h.leap long
    refine ⟨ofDay.1, by omega, by omega, ?_⟩
    rw [if_pos (by omega), Instant.mk.injEq]
    simp only [Instant.day]
    omega
  · have hleap : leap = 0 := if_neg long
    have hfraction : fraction = nanos := if_neg long
    refine ⟨ofDay.1, by omega, by omega, ?_⟩
    rw [if_neg (by omega), Instant.mk.injEq]
    simp only [Instant.day]
    omega

/-- **An instant on the clock is read** from its own text. -/
theorem parse?_chars {t : Instant} (h : t.OnClock) : parse? (chars t) = some t := by
  obtain ⟨era, year, month, n, dated⟩ := t.day.exists_dated
  obtain ⟨_, most, _, days⟩ := dated.valid_toDate
  have long (year : Int) (month : Nat) : Date.daysInMonth year month ≤ 31 := by
    unfold Date.daysInMonth
    split
    · split <;> decide
    all_goals decide
  have days := Nat.le_trans days (long _ _)
  obtain ⟨ofDay, ofMinute, fraction, same⟩ := clock_parts h
  generalize hsecond : (t.seconds % 86400).toNat = second at ofDay ofMinute same
  generalize hleap : (if Instant.nanosPerSecond ≤ t.nanos then 1 else 0) = leap at ofMinute same
  generalize hnanos : (if Instant.nanosPerSecond ≤ t.nanos then t.nanos - Instant.nanosPerSecond
    else t.nanos) = nanos at fraction same
  have hours (rest : List Char) := number?_paddedDigits 2 (second / 3600) rest
    (by decide) (by omega)
  have minutes (rest : List Char) := number?_paddedDigits 2 (second / 60 % 60) rest
    (by decide) (by omega)
  have seconds (rest : List Char) := number?_paddedDigits 2 (second % 60 + leap) rest
    (by decide) (by omega)
  have mark (rest : List Char) : after? ':' (':' :: rest) = some rest := after?_cons (by decide)
  have fractions := fraction?_fractionChars fraction []
  have dates (rest : List Char) :=
    date?_dateChars (d := t.day.toDate) (by omega) (by omega) rest
  have zone : offset? (trimLeft ['Z']) = some (0, []) := rfl
  have inTime : ¬ (trimLeft [] ≠ [] ∨ 24 ≤ second / 3600 ∨ 60 ≤ second / 60 % 60
      ∨ 61 ≤ second % 60 + leap) := by
    rintro (left | late)
    · exact left rfl
    · omega
  simp only [parse?, chars, dateTimeChars, hsecond, hleap, hnanos, List.append_assoc,
    List.cons_append, dates, hours, minutes, seconds, mark, fractions, zone, if_neg inTime,
    Day.ofDate?_toDate h.admitted, same, if_pos h.admitted, Option.bind_eq_bind,
    Option.bind_some, true_or, if_true]
  rfl

/-- A fraction that was read is one of a second. -/
theorem lt_of_fraction? {cs rest : List Char} {n : Nat} (h : fraction? cs = some (n, rest)) :
    n < Instant.nanosPerSecond := by
  unfold fraction? at h
  split at h
  · next text =>
    split at h
    · cases h
    · simp only [Option.some.injEq, Prod.mk.injEq] at h
      obtain ⟨rfl, -⟩ := h
      have all : ∀ d ∈ (text.takeWhile Char.isDigit).take 9, d.isDigit = true := fun d hd =>
        List.mem_takeWhile_imp (List.mem_of_mem_take hd)
      have digits := ofDigits_lt all
      have short : ((text.takeWhile Char.isDigit).take 9).length ≤ 9 := List.length_take_le ..
      calc ofDigits _ * 10 ^ (9 - _)
        _ < 10 ^ ((text.takeWhile Char.isDigit).take 9).length
              * 10 ^ (9 - ((text.takeWhile Char.isDigit).take 9).length) :=
            Nat.mul_lt_mul_of_pos_right digits (Nat.pow_pos (by decide))
        _ = 10 ^ 9 := by rw [← Nat.pow_add, Nat.add_sub_cancel' short]
  · cases h
    decide

/-- An offset that was read is one in minutes. -/
theorem mod_of_offset? {cs rest : List Char} {n : Int} (h : offset? cs = some (n, rest)) :
    n % 60 = 0 := by
  unfold offset? at h
  split at h
  · cases h
    rfl
  · cases h
    rfl
  · split at h
    · cases h
      rfl
    · simp only [Option.bind_eq_bind, Option.bind_eq_some_iff] at h
      obtain ⟨sign, -, ⟨hours, _⟩, -, ⟨minutes, _⟩, -, h⟩ := h
      split at h
      · cases h
      · simp only [Option.some.injEq, Prod.mk.injEq] at h
        obtain ⟨rfl, -⟩ := h
        exact Int.emod_eq_zero_of_dvd ⟨sign * (hours * 60 + minutes), by ring⟩
  · cases h

/-- **Whatever was read is on the clock.** -/
theorem onClock_of_parse? {cs : List Char} {t : Instant} (h : parse? cs = some t) : t.OnClock := by
  obtain ⟨⟨date, _⟩, -, h⟩ := Option.bind_eq_some_iff.1 h
  dsimp only at h
  split at h
  · split at h
    · obtain ⟨_, -, h⟩ := Option.bind_eq_some_iff.1 h
      obtain ⟨⟨hour, _⟩, -, h⟩ := Option.bind_eq_some_iff.1 h
      obtain ⟨_, -, h⟩ := Option.bind_eq_some_iff.1 h
      obtain ⟨⟨minute, _⟩, -, h⟩ := Option.bind_eq_some_iff.1 h
      obtain ⟨_, -, h⟩ := Option.bind_eq_some_iff.1 h
      obtain ⟨⟨second, _⟩, -, h⟩ := Option.bind_eq_some_iff.1 h
      obtain ⟨⟨nanos, _⟩, read, h⟩ := Option.bind_eq_some_iff.1 h
      obtain ⟨⟨offset, _⟩, zone, h⟩ := Option.bind_eq_some_iff.1 h
      obtain ⟨inTime, h⟩ := Option.ite_none_left_eq_some.1 h
      obtain ⟨inDay, h⟩ := Option.ite_none_left_eq_some.1 h
      obtain ⟨day, -, h⟩ := Option.bind_eq_some_iff.1 h
      obtain ⟨admitted, h⟩ := Option.ite_none_right_eq_some.1 h
      have fraction := lt_of_fraction? read
      have minutes := mod_of_offset? zone
      have size : Instant.nanosPerSecond = 1000000000 := rfl
      cases h
      refine ⟨admitted, ?_, ?_⟩
      · dsimp only
        split <;> omega
      · dsimp only
        split <;> omega
    · cases h
  · cases h

/-- **The instants on the clock are those that can be read.** -/
theorem onClock_iff {t : Instant} : t.OnClock ↔ ∃ cs, parse? cs = some t :=
  ⟨fun h => ⟨chars t, parse?_chars h⟩, fun ⟨_, read⟩ => onClock_of_parse? read⟩

end Timestamp

end RewardLedger
