import RewardLedger.Effect

/-!
# Health of the service

The service is as well as its parts: healthy when all of them are, degraded
when some of them still work, unhealthy when none does.
-/

namespace RewardLedger.Api

open ServiceStep

namespace Condition

/-- The part still works. -/
def Works (c : Condition) : Prop := c ≠ unhealthy

instance (c : Condition) : Decidable c.Works := inferInstanceAs (Decidable (_ ≠ _))

/-- The condition of a whole with parts in the given conditions. A whole
without parts is healthy. -/
def ofParts (parts : List Condition) : Condition :=
  if ∀ c ∈ parts, c = healthy then healthy
  else if ∃ c ∈ parts, c.Works then degraded
  else unhealthy

end Condition

namespace Health

/-- Run one check. -/
def run : HealthCheck → ServiceStep CheckResult
  | .fixed result => return result
  | .store => do
    match ← attempt .checkHealth with
    | .ok _ => return ⟨.healthy, none⟩
    | .error (.error cause) => return ⟨.unhealthy, some cause.message⟩
    | .error .outOfRange => throw .outOfRange

/-- Run all checks that are registered. -/
def report : ServiceStep HealthReport := do
  let checks ← perform .checks
  let results ← checks.mapM fun (name, check) => return (name, ← run check)
  let uptime ← perform .uptime
  return ⟨.ofParts (results.map fun r => r.2.condition), results, uptime⟩

end Health

/-- A list under names, each name once: put a value under a name. -/
def putNamed {α : Type} (name : String) (value : α) :
    List (String × α) → List (String × α)
  | [] => [(name, value)]
  | p :: rest => if p.1 = name then (name, value) :: rest else p :: putNamed name value rest

end RewardLedger.Api
