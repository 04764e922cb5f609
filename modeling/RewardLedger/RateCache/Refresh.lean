import RewardLedger.Effect

/-!
# Refreshing the rate cache

A refresh reads everything in the snapshot from the store again, one part after
the other, and puts each part into the cache as it comes. Without a policy in
the store the one in the cache stays.
-/

namespace RewardLedger.RateCache

open ServiceStep

/-- Read one list of bands again. -/
def refreshBands (level : PoolLevel) : ServiceStep PUnit := do
  let bands ← ask (.rewardBands level)
  perform (.cache (.setBands level bands))

/-- Read the whole snapshot again, for the day of an instant. -/
def refresh (now : Instant) : ServiceStep PUnit := do
  if let some policy ← ask .latestPolicy then
    perform (.cache (.setPolicy policy))
  refreshBands .low
  refreshBands .high
  let total ← ask (.dayTotal now.day)
  perform (.cache (.setDayTotal total))

end RewardLedger.RateCache
