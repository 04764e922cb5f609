import RewardLedger.Amount
import RewardLedger.Time.Day

/-!
# Instants

An instant is a second of universal time and a fraction of it in nanoseconds.
A leap second has no second number of its own: it is the second before it with
a fraction of a thousand million nanoseconds or more. Instants are therefore
compared by second first and by fraction next, and a leap second comes after
all of the second that it follows.
-/

namespace RewardLedger

/-- A second since 1970-01-01T00:00:00Z and the nanoseconds within it. -/
structure Instant where
  /-- Seconds since the start of 1970, leap seconds not counted. -/
  seconds : Int
  /-- Nanoseconds; a thousand million and more stand for a leap second. -/
  nanos : Nat
  deriving DecidableEq, Repr

namespace Instant

/-- The nanoseconds of a second. -/
def nanosPerSecond : Nat := 1000000000

/-- The start of 1970. -/
def epoch : Instant := ⟨0, 0⟩

/-- The calendar day of an instant, which keys the daily reward pool. -/
def day (t : Instant) : Day := ⟨t.seconds / 86400⟩

/-- Earlier or the same. -/
protected def Le (a b : Instant) : Prop :=
  a.seconds < b.seconds ∨ (a.seconds = b.seconds ∧ a.nanos ≤ b.nanos)

instance : LE Instant := ⟨Instant.Le⟩

theorem le_iff {a b : Instant} :
    a ≤ b ↔ a.seconds < b.seconds ∨ (a.seconds = b.seconds ∧ a.nanos ≤ b.nanos) :=
  Iff.rfl

instance (a b : Instant) : Decidable (a ≤ b) :=
  inferInstanceAs (Decidable (_ ∨ _))

theorem le_refl (a : Instant) : a ≤ a := by simp [le_iff]

theorem le_trans {a b c : Instant} (hab : a ≤ b) (hbc : b ≤ c) : a ≤ c := by
  simp only [le_iff] at *
  omega

theorem le_total (a b : Instant) : a ≤ b ∨ b ≤ a := by
  simp only [le_iff]
  omega

/-- The longest interval that can be measured, in seconds either way. -/
def longestInterval : Int := 9223372036854775

/-- The instant a number of seconds later, if the interval can be measured and
the result is admitted. Going forward, a leap second counts as the second that
it follows; going back, as the one after that. -/
def plusSeconds? (t : Instant) (n : Int) : Option Instant :=
  let moved : Instant :=
    if t.nanos < nanosPerSecond ∨ n = 0 then ⟨t.seconds + n, t.nanos⟩
    else if 0 < n then ⟨t.seconds + n, t.nanos - nanosPerSecond⟩
    else ⟨t.seconds + 1 + n, t.nanos - nanosPerSecond⟩
  if -longestInterval ≤ n ∧ n ≤ longestInterval ∧ moved.day.Admitted then some moved
  else none

/-- Forgets what is finer than a microsecond, toward the start of the year
2000, and a leap second becomes the one after it: the precision at which a
relational store keeps time. -/
def toMicroseconds (t : Instant) : Instant :=
  let year2000 : Int := 946684800
  let total : Int := (t.seconds - year2000) * 1000000000 + t.nanos
  let micros := Int.tdiv total 1000
  ⟨year2000 + micros / 1000000, (micros % 1000000).toNat * 1000⟩

end Instant

end RewardLedger
