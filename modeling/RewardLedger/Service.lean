import RewardLedger.Api.Health
import RewardLedger.Client
import RewardLedger.Draw

/-!
# The service

Everything that the service holds at one moment, and what each effect does to
it. The store is left open: the service runs on any store that answers the
requests of `StoreOp`.
-/

namespace RewardLedger

/-- The service on a store of a type. -/
structure Service (σ : Type) where
  store : σ
  cache : RateCache
  hub : Hub Nat
  /-- The clients of the feed, by their number. -/
  clients : List Client
  checks : List (String × HealthCheck)
  metrics : List (String × Json)
  /-- The random words of the draws. -/
  words : Words
  /-- What the clock shows. -/
  time : Instant
  /-- Seconds since the service started. -/
  uptime : Nat

namespace Service

variable {σ : Type}

/-- A service that just started. -/
def new (store : σ) (latest : Nat) (time : Instant) : Service σ :=
  ⟨store, .empty latest time.day, .empty, [], [], [], .ofList [], time, 0⟩

/-- Write to a client, and do not wait. -/
def write (s : Service σ) (client : Nat) (payload : String) : Bool × Service σ :=
  match s.clients[client]? with
  | none => (false, s)
  | some c =>
    let (r, _) := c.response 0
    (r.Succeeded, { s with clients := s.clients.set client (c.afterWrite r payload) })

/-- Perform an effect on a service whose store answers as given. -/
def handle (answer : σ → (op : StoreOp) → op.Reply × σ) :
    (e : Effect) → Service σ → e.Reply × Service σ
  | .store op, s =>
    let (reply, store) := answer s.store op
    (reply, { s with store })
  | .cache op, s =>
    let (reply, cache) := s.cache.answer op
    (reply, { s with cache })
  | .now, s => (s.time, s)
  | .draw bands, s =>
    let (drawn, words) := drawReward bands s.words
    (drawn, { s with words })
  | .broadcast payload, s => (⟨⟩, { s with hub := s.hub.broadcast payload })
  | .activeCount, s => (s.hub.activeCount, s)
  | .subscribe client, s =>
    let (id, hub) := s.hub.subscribe client
    (id, { s with hub })
  | .unsubscribe id, s =>
    let (held, hub) := s.hub.unsubscribe id
    (held, { s with hub })
  | .write client payload, s => s.write client payload
  | .checks, s => (s.checks, s)
  | .metrics, s => (s.metrics, s)
  | .uptime, s => (s.uptime, s)

/-- Register a check under a name, in the place of another of that name. -/
def register (s : Service σ) (name : String) (check : HealthCheck) : Service σ :=
  { s with checks := Api.putNamed name check s.checks }

/-- Take back the check of a name. -/
def unregister (s : Service σ) (name : String) : Service σ :=
  { s with checks := s.checks.filter (·.1 ≠ name) }

/-- Report a metric. -/
def setMetric (s : Service σ) (name : String) (value : Json) : Service σ :=
  { s with metrics := Api.putNamed name value s.metrics }

/-- Add a client; its number. -/
def addClient (s : Service σ) (behaviour : Behaviour) : Nat × Service σ :=
  (s.clients.length, { s with clients := s.clients ++ [.new behaviour] })

/-- Change a client. -/
def updateClient (s : Service σ) (client : Nat) (f : Client → Client) : Service σ :=
  { s with clients := s.clients.modify client f }

/-- What comes of writing to the connections that the hub holds, one by one, and
after how many milliseconds all of it is known. -/
def responses (s : Service σ) (timeout : Nat) : List WriteResult × Nat :=
  let each := s.hub.slots.map fun slot =>
    ((s.clients[slot.client]?).map (·.response timeout)).getD (.failed, 0)
  (each.map (·.1), (each.map (·.2)).foldl max 0)

/-- End the sweep of the oldest payload, with what came of each write. -/
def finishSweep (s : Service σ) (writes : List WriteResult) : Service σ :=
  match s.hub.next? with
  | none => s
  | some payload =>
    let written := (s.hub.slots.zip writes).foldl
      (fun (s : Service σ) (slot, r) =>
        s.updateClient slot.client (·.afterWrite r payload)) s
    { written with hub := s.hub.deliver writes }

end Service

end RewardLedger
