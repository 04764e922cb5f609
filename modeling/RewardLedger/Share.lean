import RewardLedger.Amount
import RewardLedger.Double

/-!
# The referrer's share

A referrer is offered a fixed part of every credit, rounded down. The part is
a double, so the share is what exact arithmetic on doubles gives: the amount
rounded to a double, times the rate limited to the range from zero to one,
rounded again, and cut to a whole number that fits.
-/

namespace RewardLedger

/-- The **share** of an amount at a rate. Nothing is shared of an amount that
is not positive, or at a rate that is not a finite number. -/
def referrerShare (amount : Int) (rate : Double) : Int :=
  if amount ≤ 0 ∨ ¬ rate.IsFinite then 0
  else
    let base := Dyadic.round (.ofNat amount.toNat)
    let share := (Dyadic.round (base.mul rate.clampUnit)).floor
    min share Amount.greatest

theorem referrerShare_of_nonpos {amount : Int} (h : amount ≤ 0) (rate : Double) :
    referrerShare amount rate = 0 := by
  simp [referrerShare, h]

theorem referrerShare_nonneg (amount : Int) (rate : Double) :
    0 ≤ referrerShare amount rate := by
  unfold referrerShare
  split
  · exact Int.le_refl 0
  · simp only [Amount.greatest]
    omega

end RewardLedger
