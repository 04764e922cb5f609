/-!
# Calendar days

A day is its number, counted from 1970-01-01. The calendar is the Gregorian
one, carried back without end; only the days of a fixed range of years are
admitted, which bounds every instant as well.
-/

namespace RewardLedger

/-- A calendar day, by its number from 1970-01-01. -/
structure Day where
  /-- Days since 1970-01-01. -/
  number : Int
  deriving DecidableEq, Repr

/-- Year, month and day of the month. -/
structure Date where
  year : Int
  month : Nat
  day : Nat
  deriving DecidableEq, Repr

namespace Date

/-- Every fourth year is a leap year, of the full centuries every fourth. -/
def isLeap (year : Int) : Bool :=
  year % 4 = 0 && (year % 100 ≠ 0 || year % 400 = 0)

/-- The number of days of a month. -/
def daysInMonth (year : Int) (month : Nat) : Nat :=
  match month with
  | 2 => if isLeap year then 29 else 28
  | 4 | 6 | 9 | 11 => 30
  | _ => 31

/-- The month and the day of the month exist. -/
def Valid (d : Date) : Prop :=
  1 ≤ d.month ∧ d.month ≤ 12 ∧ 1 ≤ d.day ∧ d.day ≤ daysInMonth d.year d.month

instance (d : Date) : Decidable d.Valid :=
  inferInstanceAs (Decidable (_ ∧ _ ∧ _ ∧ _))

/-- The day of a date. Years are counted from March, so that the leap day is
the last of its year, and in groups of four hundred years, which repeat. -/
def toDay (d : Date) : Day :=
  let y := if d.month ≤ 2 then d.year - 1 else d.year
  let era := y / 400
  let yearOfEra := y - era * 400
  let monthFromMarch : Int := if d.month ≤ 2 then d.month + 9 else d.month - 3
  let dayOfYear := (153 * monthFromMarch + 2) / 5 + d.day - 1
  let dayOfEra := yearOfEra * 365 + yearOfEra / 4 - yearOfEra / 100 + dayOfYear
  ⟨era * 146097 + dayOfEra - 719468⟩

end Date

namespace Day

/-- Days are told apart by their numbers. -/
theorem number_inj {a b : Day} : a.number = b.number ↔ a = b := by
  obtain ⟨a⟩ := a
  obtain ⟨b⟩ := b
  rw [Day.mk.injEq]

/-- The date of a day. -/
def toDate (day : Day) : Date :=
  let z := day.number + 719468
  let era := z / 146097
  let dayOfEra := z - era * 146097
  let yearOfEra :=
    (dayOfEra - dayOfEra / 1460 + dayOfEra / 36524 - dayOfEra / 146096) / 365
  let dayOfYear := dayOfEra - (365 * yearOfEra + yearOfEra / 4 - yearOfEra / 100)
  let monthFromMarch := (5 * dayOfYear + 2) / 153
  let day := dayOfYear - (153 * monthFromMarch + 2) / 5 + 1
  let month := if monthFromMarch < 10 then monthFromMarch + 3 else monthFromMarch - 9
  let year := yearOfEra + era * 400
  ⟨if month ≤ 2 then year + 1 else year, month.toNat, day.toNat⟩

/-- The first admitted day. -/
def first : Day := Date.toDay ⟨-262143, 1, 1⟩

/-- The last admitted day. -/
def last : Day := Date.toDay ⟨262142, 12, 31⟩

/-- A day is **admitted** when it lies between the first and the last. -/
def Admitted (day : Day) : Prop :=
  first.number ≤ day.number ∧ day.number ≤ last.number

instance (day : Day) : Decidable day.Admitted :=
  inferInstanceAs (Decidable (_ ∧ _))

theorem first_number : first.number = -96465292 := by decide

theorem last_number : last.number = 95026236 := by decide

/-- The day of a date, when the date exists and is admitted. -/
def ofDate? (d : Date) : Option Day :=
  if d.Valid ∧ d.toDay.Admitted then some d.toDay else none

end Day

end RewardLedger
