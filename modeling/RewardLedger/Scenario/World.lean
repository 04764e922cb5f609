import RewardLedger.RateCache.Refresh
import RewardLedger.Scenario.Line
import RewardLedger.Service
import RewardLedger.Store.Backend

/-!
# The world of a scenario

A service together with everybody who acts on it: the caller who plays the
steps, the delivery that works off the queue of the hub, and those who count
its connections or refresh the cache again and again.

They take turns. Whoever can go on is ready, and the first that became ready has
the first turn; a turn lasts until its owner has to wait. One waits for an alarm
of the clock, or in line for the connections of the hub: a sweep keeps them to
itself until its slowest write is over, and so do those who come and go, while
counting them is open to several at once.
-/

namespace RewardLedger.Scenario

/-- Those who act. -/
inductive Party where
  /-- Who plays the steps. -/
  | caller
  /-- Who works off the queue of the hub. -/
  | delivery
  /-- Who counts connections, by its place among those who do. -/
  | collector (place : Nat)
  /-- Who refreshes the cache, by its place among those who do. -/
  | refresher (place : Nat)
  deriving DecidableEq, Repr

/-- A moment at which a party goes on. -/
structure Alarm where
  moment : Nat
  party : Party
  deriving DecidableEq, Repr

/-- A sweep under way. -/
structure Sweeping where
  /-- When it ends. -/
  finish : Nat
  /-- What comes of each write. -/
  writes : List WriteResult
  deriving DecidableEq, Repr

/-- Something to be done at a moment and again after every interval. -/
structure Rhythm where
  /-- When it is to be done next. -/
  next : Nat
  interval : Nat
  deriving DecidableEq, Repr

namespace Rhythm

/-- It is time. -/
def Due (r : Rhythm) (clock : Nat) : Prop := r.next ≤ clock

instance (r : Rhythm) (clock : Nat) : Decidable (r.Due clock) :=
  inferInstanceAs (Decidable (_ ≤ _))

/-- The rhythm once the thing was done. A delay does not move the moments after
it. -/
def done (r : Rhythm) : Rhythm := { r with next := r.next + r.interval }

/-- How many times it should have been done by now. -/
def overdue (r : Rhythm) (clock : Nat) : Nat :=
  if r.Due clock then (clock - r.next) / r.interval + 1 else 0

end Rhythm

/-- A metric that counts the connections of the hub. -/
structure Collector where
  name : String
  rhythm : Rhythm
  deriving DecidableEq, Repr

/-- Somebody who is known by a name: a client of the feed. -/
structure Guest where
  /-- The number of the client. -/
  client : Nat
  /-- The number of the connection, once the hub holds it. -/
  connection : Option Nat
  /-- The connection is over. -/
  ended : Bool
  deriving DecidableEq, Repr

/-- The world of a scenario. -/
structure World where
  service : Service Backend
  /-- Milliseconds that the hub waits for a write. -/
  writeTimeout : Nat
  /-- Milliseconds since the scenario began. -/
  clock : Nat
  /-- Who uses the connections of the hub, and who waits for them. -/
  line : Line Party
  /-- Who can go on, apart from the caller; the first became ready first. -/
  ready : List Party
  /-- The alarms that are set; the first was set first. -/
  alarms : List Alarm
  sweeping : Option Sweeping
  collectors : List Collector
  refreshers : List Rhythm
  guests : List (String × Guest)

namespace World

/-- A world in which nothing happened yet. The delivery has still to look into
its queue for the first time. -/
def new (store : Backend) (latest writeTimeout : Nat) (time : Instant) : World :=
  ⟨.new store latest time, writeTimeout, 0, .empty, [.delivery], [], none, [], [], []⟩

/-- Do something to the service. -/
def onService (w : World) (f : Service Backend → Service Backend) : World :=
  { w with service := f w.service }

/-- Perform an effect of the service, without waiting for anybody. -/
def perform (e : Effect) (s : Service Backend) : e.Reply × Service Backend :=
  s.handle Backend.answer e

/-- A party can go on. -/
def wake (w : World) (p : Party) : World := { w with ready := w.ready ++ [p] }

/-- Let a party go on at a moment. -/
def setAlarm (w : World) (moment : Nat) (p : Party) : World :=
  { w with alarms := w.alarms ++ [⟨moment, p⟩] }

/-- A party comes for the connections of the hub. -/
def enter (w : World) (p : Party) (access : Access) : World :=
  { w with line := w.line.enter p access }

/-- A party is done with the connections of the hub, and those who are let in
can go on. -/
def leave (w : World) (p : Party) : World :=
  let (admitted, line) := w.line.leave p
  { w with line, ready := w.ready ++ admitted.filter (· ≠ .caller) }

/-! ## The delivery -/

/-- The delivery answers the flushes that come next, and comes for the connections
if there is something to deliver. -/
def seekPayload (w : World) : World :=
  let w := w.onService fun s => { s with hub := s.hub.answerAll }
  if w.service.hub.queue = [] then w else w.enter .delivery .exclusive

/-- A sweep is over, and the delivery turns to the next payload. -/
def endSweep (writes : List WriteResult) (w : World) : World :=
  let w := { w.onService (·.finishSweep writes) with sweeping := none }
  (w.leave .delivery).seekPayload

/-- Sweep after sweep, up to a number, until the delivery has to wait for a
client or in line. -/
def sweeps : Nat → World → World
  | 0, w => w
  | n + 1, w =>
    if w.line.IsInside .delivery then
      match w.sweeping with
      | some s => if s.finish ≤ w.clock then sweeps n (w.endSweep s.writes) else w
      | none =>
        let (writes, duration) := w.service.responses w.writeTimeout
        if duration = 0 then sweeps n (w.endSweep writes)
        else
          { w with sweeping := some ⟨w.clock + duration, writes⟩ }.setAlarm
            (w.clock + duration) .delivery
    else w

/-- The turn of the delivery. -/
def deliver (w : World) : World :=
  sweeps (w.service.hub.queue.length + 1)
    (if w.line.Has .delivery then w else w.seekPayload)

/-- The delivery goes on if it waits for something to deliver. -/
def wakeDelivery (w : World) : World :=
  if .delivery ∈ w.ready ∨ w.line.Has .delivery then w else w.wake .delivery

/-! ## Collectors -/

/-- A collector comes for the connections if it is time, and waits for its next
moment otherwise. -/
def awaitTick (place : Nat) (c : Collector) (w : World) : World :=
  if c.rhythm.Due w.clock then w.enter (.collector place) .shared
  else w.setAlarm c.rhythm.next (.collector place)

/-- A collector counts the connections, up to so many times, until it has to
wait. -/
def counts (place : Nat) : Nat → Collector → World → World
  | 0, _, w => w
  | n + 1, c, w =>
    if w.line.IsInside (.collector place) then
      let w := w.onService fun s => s.setMetric c.name (.int s.hub.activeCount)
      let c := { c with rhythm := c.rhythm.done }
      let w := { w with collectors := w.collectors.set place c }
      counts place n c ((w.leave (.collector place)).awaitTick place c)
    else w

/-- The turn of a collector. -/
def collect (place : Nat) (w : World) : World :=
  match w.collectors[place]? with
  | none => w
  | some c =>
    counts place (c.rhythm.overdue w.clock) c
      (if w.line.Has (.collector place) then w else w.awaitTick place c)

/-! ## Refreshers -/

/-- The turn of a refresher. What cannot be refreshed stays as it is. -/
def refresh (place : Nat) (w : World) : World :=
  match w.refreshers[place]? with
  | none => w
  | some r =>
    if r.Due w.clock then
      let w := w.onService fun s =>
        ((RateCache.refresh s.time).run.run (fun e s => perform e s) s).2
      { w with refreshers := w.refreshers.set place r.done }.setAlarm r.done.next
        (.refresher place)
    else w.setAlarm r.next (.refresher place)

/-! ## Turns -/

/-- A party has its turn. -/
def turn (w : World) : Party → World
  | .caller => w
  | .delivery => w.deliver
  | .collector place => w.collect place
  | .refresher place => w.refresh place

/-- One turn after the other, up to a number, until nobody is ready. -/
def turns : Nat → World → World
  | 0, w => w
  | n + 1, w =>
    match w.ready with
    | [] => w
    | p :: rest => turns n ({ w with ready := rest }.turn p)

/-- No more turns than these are taken at one moment: one for everybody who is
ready or waits in line, and one for every payload and every count for which
somebody may have to wait. -/
def mostTurns (w : World) : Nat :=
  w.ready.length + w.line.waiting.length + w.service.hub.queue.length
    + (w.collectors.map (·.rhythm.overdue w.clock)).sum

/-- Let everybody have their turns until nobody is ready. -/
def settle (w : World) : World := turns w.mostTurns w

end World

end RewardLedger.Scenario
