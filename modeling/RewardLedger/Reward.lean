import RewardLedger.Double
import RewardLedger.Time.Instant

/-!
# Scheduled rewards

A scheduled reward is drawn from weighted bands. There are two lists of bands:
one while the day's pool is at or under a threshold, one once it is above.
-/

namespace RewardLedger

/-- The two lists of bands. -/
inductive PoolLevel where
  /-- The day's pool is at or under the threshold. -/
  | low
  /-- The day's pool has gone above the threshold. -/
  | high
  deriving DecidableEq, Repr

namespace PoolLevel

def all : List PoolLevel := [low, high]

/-- The name of a level. -/
def name : PoolLevel → String
  | low => "low-pool"
  | high => "high-pool"

/-- The level with a given name. -/
def ofName? (text : String) : Option PoolLevel :=
  all.find? fun l => l.name = text

@[simp] theorem ofName?_name (l : PoolLevel) : ofName? l.name = some l := by
  cases l <;> decide

/-- The level of a pool under a threshold. -/
def ofPool (pool threshold : Int) : PoolLevel :=
  if threshold < pool then high else low

theorem ofPool_eq_high {pool threshold : Int} :
    ofPool pool threshold = high ↔ threshold < pool := by
  unfold ofPool
  split <;> simp_all

end PoolLevel

/-- One weighted band: an amount from `min` up to but not including `max`. -/
structure RewardBand where
  level : PoolLevel
  min : Int
  max : Int
  weight : Int
  deriving DecidableEq, Repr

/-- The settings that govern rewards. -/
structure RewardPolicy where
  /-- The pool above which the high list applies. -/
  threshold : Int
  /-- The part of every credit that goes to the referrer. -/
  referrerRate : Double
  createdAt : Instant
  deriving DecidableEq, Repr

/-- The policy before any was set: no threshold, and no share. -/
def RewardPolicy.initial : RewardPolicy := ⟨0, .zero, .epoch⟩

/-- What was paid out in scheduled rewards on one day. -/
structure DayTotal where
  day : Day
  total : Int
  deriving DecidableEq, Repr

namespace DayTotal

/-- Nothing paid yet. -/
def empty (day : Day) : DayTotal := ⟨day, 0⟩

/-- The total is of the day on which the instant falls. -/
def Covers (t : DayTotal) (now : Instant) : Prop := t.day = now.day

instance (t : DayTotal) (now : Instant) : Decidable (t.Covers now) :=
  inferInstanceAs (Decidable (_ = _))

end DayTotal

end RewardLedger
