import RewardLedger.Api.Message
import RewardLedger.Program
import RewardLedger.RateCache
import RewardLedger.Store.Operation

/-!
# Effects of the service

The service reaches the world only through a fixed set of effects: the store,
the cache, the clock, chance, the hub and what is reported about the service
itself. Whatever it does is a program over them, so it can be run against any
store and any order of events.
-/

namespace RewardLedger

/-- How one part of the service tells whether it is well. -/
inductive HealthCheck where
  /-- The store is asked. -/
  | store
  /-- The result is known. -/
  | fixed (result : Api.CheckResult)
  deriving DecidableEq, Repr

/-- One effect. -/
inductive Effect where
  | store (op : StoreOp)
  | cache (op : CacheOp)
  /-- Look at the clock. -/
  | now
  /-- Draw an amount from bands. -/
  | draw (bands : List RewardBand)
  /-- Queue a payload for all clients of the feed. -/
  | broadcast (payload : String)
  /-- Count the connections that the hub holds. -/
  | activeCount
  /-- Let the hub hold a client's connection. -/
  | subscribe (client : Nat)
  /-- Let the hub let go of a connection. -/
  | unsubscribe (id : Nat)
  /-- Write to a client; whether it could be written. -/
  | write (client : Nat) (payload : String)
  /-- The checks that are registered, by name. -/
  | checks
  /-- The metrics that were reported, by name. -/
  | metrics
  /-- Seconds since the service started. -/
  | uptime

namespace Effect

/-- The reply to an effect. -/
@[reducible] def Reply : Effect → Type
  | store op => op.Reply
  | cache op => op.Reply
  | now => Instant
  | draw _ => Except Error Int
  | broadcast _ => PUnit
  | activeCount => Nat
  | subscribe _ => Nat
  | unsubscribe _ => Bool
  | write .. => Bool
  | checks => List (String × HealthCheck)
  | metrics => List (String × Json)
  | uptime => Nat

end Effect

/-- A program of the service, which may be refused. -/
abbrev ServiceStep (α : Type) := ExceptT Fault (Program Effect Effect.Reply) α

namespace ServiceStep

/-- Refuse to go on, for a cause. -/
def refuse {α : Type} (cause : Error) : ServiceStep α := throw (.error cause)

/-- Go on with an outcome. -/
def ofOutcome {α : Type} : Outcome α → ServiceStep α
  | .ok a => pure a
  | .error e => throw e

/-- Perform an effect. -/
def perform (e : Effect) : ServiceStep e.Reply := ExceptT.lift (Program.perform e)

/-- Ask the store, and take the reply as it is. -/
def attempt (op : StoreOp) : ServiceStep op.Reply := perform (.store op)

/-- Ask the store, and go on with its answer. -/
def ask (op : StoreOp) : ServiceStep op.Answer := do ofOutcome (← attempt op)

/-- Run a program, and go on with its outcome, whatever it is. -/
def observe {α : Type} (p : ServiceStep α) : ServiceStep (Outcome α) :=
  ExceptT.lift p.run

end ServiceStep

end RewardLedger
