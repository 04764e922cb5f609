import RewardLedger.Config.Basic
import RewardLedger.RateCache.Refresh
import RewardLedger.Settlement

/-!
# Scheduled jobs

Two things are done from time to time without being asked: the cache is
refreshed, and, if so configured, all balances are withdrawn. Each is done
once an interval has passed since the last time, and for the first time one
interval after the start.
-/

namespace RewardLedger

/-- When each job was last done, in seconds. -/
structure Jobs where
  refreshed : Int
  withdrawn : Int
  deriving DecidableEq, Repr

namespace Jobs

/-- The jobs of a service that starts at a moment. -/
def startingAt (moment : Instant) : Jobs := ⟨moment.seconds, moment.seconds⟩

/-- It is time to refresh the cache. -/
def RefreshDue (j : Jobs) (c : Config) (now : Instant) : Prop :=
  j.refreshed + c.cache.refreshInterval ≤ now.seconds

instance (j : Jobs) (c : Config) (now : Instant) : Decidable (j.RefreshDue c now) :=
  inferInstanceAs (Decidable (_ ≤ _))

/-- It is time to withdraw all balances. -/
def WithdrawalDue (j : Jobs) (c : Config) (now : Instant) : Prop :=
  c.withdrawal.enabled = true ∧ j.withdrawn + c.withdrawal.interval ≤ now.seconds

instance (j : Jobs) (c : Config) (now : Instant) : Decidable (j.WithdrawalDue c now) :=
  inferInstanceAs (Decidable (_ ∧ _))

/-- Do what it is time for. A job that fails is tried again an interval
later. -/
def run (j : Jobs) (c : Config) (now : Instant) : ServiceStep Jobs := do
  let mut jobs := j
  if j.RefreshDue c now then
    let _ ← ServiceStep.observe (RateCache.refresh now)
    jobs := { jobs with refreshed := now.seconds }
  if j.WithdrawalDue c now then
    let _ ← ServiceStep.observe (Settlement.sweep c.withdrawal.minBalance)
    jobs := { jobs with withdrawn := now.seconds }
  return jobs

end Jobs

end RewardLedger
