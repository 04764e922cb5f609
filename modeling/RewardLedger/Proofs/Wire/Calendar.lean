import Mathlib.Tactic.IntervalCases
import RewardLedger.Time.Day

/-!
# Days and dates

A day is a number, and its date is computed with roundings that hold of all numbers: a year
begins in March, four hundred years are an era, and all eras are alike. Here the date is
taken apart again. A day is so many eras, years, months and days after the first of March of
the year zero (`Day.Dated`), its date says just that, and the day of the date is the day.
-/

namespace RewardLedger

namespace Day

/-! ## Parts of an era -/

/-- The days of an era before a year of it. -/
def beforeYear (year : Int) : Int := 365 * year + year / 4 - year / 100

/-- The days of a year before a month of it, the first of which is March. -/
def beforeMonth (month : Int) : Int := (153 * month + 2) / 5

/-- **A day of an era is a day of one of its years.** Years have 365 days, and those with
366 are the ones before every fourth, of the full centuries the last. -/
theorem exists_year {e : Int} (least : 0 ≤ e) (most : e < 146097) :
    ∃ year d : Int, (e - e / 1460 + e / 36524 - e / 146096) / 365 = year
      ∧ 0 ≤ year ∧ year ≤ 399 ∧ e = beforeYear year + d ∧ 0 ≤ d ∧ d ≤ 365
      ∧ (d = 365 → (year + 1) % 4 = 0 ∧ ((year + 1) % 100 ≠ 0 ∨ year = 399)) := by
  -- centuries, groups of four years and years, none of them more than three, 24 and three
  obtain ⟨c, q, r, d, parts, hc, hq, hr, hd, long⟩ : ∃ c q r d : Int,
      e = 36524 * c + 1461 * q + 365 * r + d ∧ (0 ≤ c ∧ c ≤ 3) ∧ (0 ≤ q ∧ q ≤ 24)
        ∧ (0 ≤ r ∧ r ≤ 3) ∧ (0 ≤ d ∧ d ≤ 365) ∧ (d = 365 → r = 3 ∧ (q = 24 → c = 3)) := by
    by_cases last : e = 146096
    · exact ⟨3, 24, 3, 365, by omega⟩
    obtain ⟨c, hc⟩ : ∃ c, e / 36524 = c := ⟨_, rfl⟩
    obtain ⟨q, hq⟩ : ∃ q, (e - 36524 * c) / 1461 = q := ⟨_, rfl⟩
    obtain ⟨r, hr⟩ : ∃ r, (e - 36524 * c - 1461 * q) / 365 = r := ⟨_, rfl⟩
    by_cases leap : r = 4
    · exact ⟨c, q, 3, 365, by omega⟩
    · exact ⟨c, q, r, e - 36524 * c - 1461 * q - 365 * r, by omega⟩
  have fours : (100 * c + 4 * q + r) / 4 = 25 * c + q := by omega
  have hundreds : (100 * c + 4 * q + r) / 100 = c := by omega
  refine ⟨100 * c + 4 * q + r, d, ?_, by omega, by omega, ?_, hd.1, hd.2, by omega⟩
  · by_cases last : e = 146096
    · have most : c = 3 ∧ q = 24 ∧ r = 3 := by omega
      omega
    · have none : e / 146096 = 0 := by omega
      have century : e / 36524 = c := by omega
      have four : e / 1460 = 25 * c + q ∨ e / 1460 = 25 * c + q + 1 := by omega
      rw [none, century]
      obtain four | four := four <;> rw [four] <;> omega
  · rw [beforeYear, fours, hundreds]
    omega

/-- A day of a year is a day of one of its months. -/
theorem exists_month {d : Int} (least : 0 ≤ d) (most : d ≤ 365) :
    ∃ month n : Int, (5 * d + 2) / 153 = month ∧ 0 ≤ month ∧ month ≤ 11
      ∧ d = beforeMonth month + n - 1 ∧ 1 ≤ n
      ∧ (month ≤ 10 → n ≤ beforeMonth (month + 1) - beforeMonth month) := by
  unfold beforeMonth
  exact ⟨_, d - (153 * ((5 * d + 2) / 153) + 2) / 5 + 1, rfl, by omega⟩

/-! ## Dates -/

/-- **A day is dated**: so many eras, years, months and days from the first of March of the
year zero on. -/
structure Dated (day : Day) (era year month n : Int) : Prop where
  number : day.number + 719468 = era * 146097 + beforeYear year + beforeMonth month + n - 1
  year_bounds : 0 ≤ year ∧ year ≤ 399
  month_bounds : 0 ≤ month ∧ month ≤ 11
  first : 1 ≤ n
  last : month ≤ 10 → n ≤ beforeMonth (month + 1) - beforeMonth month
  /-- The last month is February. -/
  february : month = 11 → n ≤ 28
    ∨ n = 29 ∧ (year + 1) % 4 = 0 ∧ ((year + 1) % 100 ≠ 0 ∨ year = 399)
  date : day.toDate = ⟨if month < 10 then year + era * 400 else year + era * 400 + 1,
    (if month < 10 then month + 3 else month - 9).toNat, n.toNat⟩

/-- **Every day is dated.** -/
theorem exists_dated (day : Day) : ∃ era year month n, day.Dated era year month n := by
  obtain ⟨era, hera⟩ : ∃ era, (day.number + 719468) / 146097 = era := ⟨_, rfl⟩
  obtain ⟨e, he⟩ : ∃ e, day.number + 719468 - era * 146097 = e := ⟨_, rfl⟩
  obtain ⟨year, d, hyear, first, last, parts, least, most, long⟩ :=
    exists_year (e := e) (by omega) (by omega)
  obtain ⟨month, n, hmonth, january, december, ofYear, one, short⟩ := exists_month least most
  refine ⟨era, year, month, n, by omega, ⟨first, last⟩, ⟨january, december⟩, one, short, ?_, ?_⟩
  · rintro rfl
    unfold beforeMonth at ofYear
    omega
  · have ofEra : e - (365 * year + year / 4 - year / 100) = d := by
      unfold beforeYear at parts
      omega
    have ofMonth : d - (153 * month + 2) / 5 + 1 = n := by
      unfold beforeMonth at ofYear
      omega
    unfold toDate
    simp only [hera, he, hyear, ofEra, hmonth, ofMonth]
    congr 1
    split <;> split <;> omega

namespace Dated

variable {day : Day} {era year month n : Int} (h : day.Dated era year month n)

include h

/-- **The date of a day exists.** -/
theorem valid_toDate : day.toDate.Valid := by
  obtain ⟨-, ⟨_, _⟩, ⟨_, _⟩, first, last, february, date⟩ := h
  rw [date]
  unfold Date.Valid
  by_cases late : month = 11
  · subst late
    have days : Date.daysInMonth (year + era * 400 + 1) 2
        = if Date.isLeap (year + era * 400 + 1) then 29 else 28 := rfl
    have enough : n.toNat ≤ Date.daysInMonth (year + era * 400 + 1) 2 := by
      rw [days]
      split
      · omega
      · next common =>
        simp only [Date.isLeap, Bool.and_eq_true, Bool.or_eq_true, decide_eq_true_eq] at common
        omega
    show 1 ≤ 2 ∧ 2 ≤ 12 ∧ 1 ≤ n.toNat ∧ n.toNat ≤ Date.daysInMonth (year + era * 400 + 1) 2
    exact ⟨by decide, by decide, by omega, enough⟩
  · have short := last (by omega)
    unfold beforeMonth at short
    interval_cases month <;> simp [Date.daysInMonth] at short ⊢ <;> omega

/-- **The day of the date is the day.** -/
theorem toDay_toDate : day.toDate.toDay = day := by
  obtain ⟨number, ⟨_, _⟩, ⟨_, _⟩, first, -, -, date⟩ := h
  rw [date, ← number_inj]
  unfold Date.toDay
  unfold beforeYear beforeMonth at number
  by_cases late : month < 10
  · have after : ¬ (month + 3).toNat ≤ 2 := by omega
    simp only [if_pos late, if_neg after]
    omega
  · have before : (month - 9).toNat ≤ 2 := by omega
    simp only [if_neg late, if_pos before]
    omega

end Dated

/-- The date of an admitted day is that of no other day. -/
theorem ofDate?_toDate {day : Day} (admitted : day.Admitted) :
    ofDate? day.toDate = some day := by
  obtain ⟨era, year, month, n, dated⟩ := day.exists_dated
  unfold ofDate?
  rw [dated.toDay_toDate, if_pos ⟨dated.valid_toDate, admitted⟩]

end Day

end RewardLedger
