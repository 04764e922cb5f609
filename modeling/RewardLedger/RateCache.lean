import RewardLedger.Error
import RewardLedger.Feed
import RewardLedger.Reward

/-!
# The rate cache

A snapshot of what a draw needs, kept so that a draw does not ask the store:
the policy, both lists of bands and the day's pool. The snapshot may lag behind
the store until it is refreshed; the pool is kept up by every draw in between.
The latest incomes, which new clients of the feed are shown, are kept here too,
up to a fixed number.
-/

namespace RewardLedger

/-- The snapshot. -/
structure RateCache where
  policy : RewardPolicy
  bands : PoolLevel → List RewardBand
  dayTotal : DayTotal
  /-- Newest first. -/
  latest : List IncomeNotice
  /-- The most incomes that are kept. -/
  capacity : Nat

namespace RateCache

/-- A snapshot of nothing. -/
def empty (capacity : Nat) (today : Day) : RateCache :=
  ⟨.initial, fun _ => [], .empty today, [], capacity⟩

/-- Replace the policy. -/
def setPolicy (c : RateCache) (p : RewardPolicy) : RateCache := { c with policy := p }

/-- Replace one list of bands. -/
def setBands (c : RateCache) (level : PoolLevel) (bands : List RewardBand) : RateCache :=
  { c with bands := fun l => if l = level then bands else c.bands l }

/-- The pool of the day on which an instant falls; nothing if the snapshot is
of another day. -/
def poolAt (c : RateCache) (now : Instant) : Int :=
  if c.dayTotal.Covers now then c.dayTotal.total else 0

/-- Replace the total of the day. -/
def setDayTotal (c : RateCache) (total : DayTotal) : RateCache :=
  { c with dayTotal := total }

/-- The snapshot moved to the day of an instant, with nothing in the pool if
that is another day. -/
def turnTo (c : RateCache) (now : Instant) : RateCache :=
  if c.dayTotal.Covers now then c else { c with dayTotal := .empty now.day }

/-- Add to the pool. When the sum does not fit the pool is left as it is, on
the day of the instant. -/
def addToPool (c : RateCache) (now : Instant) (delta : Int) : Outcome PUnit × RateCache :=
  let c := c.turnTo now
  match Amount.add? c.dayTotal.total delta with
  | some total => (.ok ⟨⟩, { c with dayTotal.total := total })
  | none => (.error .outOfRange, c)

/-- Remember an income, and forget the oldest if there are too many. -/
def remember (c : RateCache) (n : IncomeNotice) : RateCache :=
  { c with latest := (n :: c.latest).take c.capacity }

@[simp] theorem bands_setBands (c : RateCache) (level l : PoolLevel)
    (bands : List RewardBand) :
    (c.setBands level bands).bands l = if l = level then bands else c.bands l := rfl

end RateCache

/-- One request to the cache. -/
inductive CacheOp where
  | policy
  | setPolicy (p : RewardPolicy)
  | bands (level : PoolLevel)
  | setBands (level : PoolLevel) (bands : List RewardBand)
  | pool (now : Instant)
  | setDayTotal (total : DayTotal)
  | addToPool (now : Instant) (delta : Int)
  | remember (n : IncomeNotice)
  | latest

namespace CacheOp

/-- The answer to a request. -/
@[reducible] def Reply : CacheOp → Type
  | policy => RewardPolicy
  | setPolicy _ => PUnit
  | bands _ => List RewardBand
  | setBands .. => PUnit
  | pool _ => Int
  | setDayTotal _ => PUnit
  | addToPool .. => Outcome PUnit
  | remember _ => PUnit
  | latest => List IncomeNotice

end CacheOp

/-- Answer a request. -/
def RateCache.answer (c : RateCache) : (op : CacheOp) → op.Reply × RateCache
  | .policy => (c.policy, c)
  | .setPolicy p => (⟨⟩, c.setPolicy p)
  | .bands level => (c.bands level, c)
  | .setBands level bands => (⟨⟩, c.setBands level bands)
  | .pool now => (c.poolAt now, c)
  | .setDayTotal total => (⟨⟩, c.setDayTotal total)
  | .addToPool now delta => c.addToPool now delta
  | .remember n => (⟨⟩, c.remember n)
  | .latest => (c.latest, c)

namespace RateCache

/-! ## What an answer leaves -/

section Answer

variable (c : RateCache)

/-- The snapshot that is moved to a day has the pool of that day. -/
theorem turnTo_eq (now : Instant) :
    c.turnTo now = { c with dayTotal := ⟨now.day, c.poolAt now⟩ } := by
  unfold turnTo poolAt
  by_cases same : c.dayTotal.Covers now
  · rw [if_pos same, if_pos same, ← show c.dayTotal.day = now.day from same]
  · rw [if_neg same, if_neg same]
    rfl

/-- What is added comes on top of the pool of the day. -/
theorem addToPool_eq (now : Instant) (delta : Int) :
    c.addToPool now delta = match Amount.add? (c.poolAt now) delta with
      | some total => (.ok ⟨⟩, { c with dayTotal := ⟨now.day, total⟩ })
      | none => (.error .outOfRange, { c with dayTotal := ⟨now.day, c.poolAt now⟩ }) := by
  unfold addToPool
  rw [turnTo_eq]

/-- Only remembering an income changes the latest ones. -/
theorem latest_answer (op : CacheOp) :
    (c.answer op).2.latest = match op with
      | .remember n => (n :: c.latest).take c.capacity
      | _ => c.latest := by
  cases op with
  | addToPool now delta =>
    show (c.addToPool now delta).2.latest = c.latest
    rw [addToPool_eq]
    cases Amount.add? (c.poolAt now) delta <;> rfl
  | _ => rfl

@[simp] theorem capacity_answer (op : CacheOp) : (c.answer op).2.capacity = c.capacity := by
  cases op with
  | addToPool now delta =>
    show (c.addToPool now delta).2.capacity = c.capacity
    rw [addToPool_eq]
    cases Amount.add? (c.poolAt now) delta <;> rfl
  | _ => rfl

end Answer

end RateCache

end RewardLedger
