import RewardLedger.Scenario.World

/-!
# The passing of time

The clock only moves when nobody is ready, and then from one alarm to the next.
The caller lets others have their turns whenever it waits: for a moment, for its
place in line, or for the queue of the hub to be worked off.
-/

namespace RewardLedger.Scenario.World

/-- The earliest moment of an alarm. -/
def nextAlarm? (w : World) : Option Nat := (w.alarms.map (·.moment)).min?

/-- Move the clock to a moment. Those whose alarms went off by then can go
on. -/
def leapTo (w : World) (moment : Nat) : World :=
  let (due, later) := w.alarms.partition (·.moment ≤ moment)
  { w with clock := moment, alarms := later, ready := w.ready ++ due.map (·.party) }

/-- Wait until something is so, over at most so many alarms. -/
def awaitOver (isSo : World → Bool) : Nat → World → World
  | 0, w => w
  | leaps + 1, w =>
    let w := w.settle
    if isSo w then w
    else
      match w.nextAlarm? with
      | none => w
      | some moment => awaitOver isSo leaps (w.leapTo moment)

/-- In these many milliseconds the delivery works off its queue twice over.
There is an alarm at most once in each. -/
def patience (w : World) : Nat := 2 * (w.service.hub.queue.length + 1) * (w.writeTimeout + 1)

/-- Wait until everything that was broadcast is delivered: flush the queue of the
hub, and wait for the answer. -/
def drain (w : World) : World :=
  let (ticket, hub) := w.service.hub.flush
  let w := (w.onService fun s => { s with hub }).wakeDelivery
  w.awaitOver (fun w => ¬ w.service.hub.Awaits ticket) w.patience

/-- The caller waits for a moment, over at most so many alarms before it. It goes
on before those whose alarms go off at the same moment. -/
def sleepOver : Nat → Nat → World → World
  | 0, moment, w => w.leapTo moment
  | leaps + 1, moment, w =>
    let w := w.settle
    match w.nextAlarm? with
    | none => w.leapTo moment
    | some next =>
      if next < moment then sleepOver leaps moment (w.leapTo next) else w.leapTo moment

/-- The caller waits so many milliseconds. -/
def sleep (millis : Nat) (w : World) : World :=
  if millis = 0 then w else sleepOver millis (w.clock + millis) w

/-! ## Acting in the world -/

/-- How an effect uses the connections of the hub, if it does. -/
def access? : Effect → Option Access
  | .activeCount => some .shared
  | .subscribe _ | .unsubscribe _ => some .exclusive
  | _ => none

/-- The caller comes for the connections of the hub, and waits until it is let
in. -/
def callerEnters (w : World) (access : Access) : World :=
  let w := w.enter .caller access
  if w.line.IsInside .caller then w
  else w.awaitOver (fun w => w.line.IsInside .caller) w.patience

/-- The caller performs an effect. -/
def act (e : Effect) (w : World) : e.Reply × World :=
  let w := (access? e).elim w w.callerEnters
  let (reply, service) := perform e w.service
  let w := { w with service }
  let w := if (access? e).isSome then w.leave .caller else w
  match e with
  | .broadcast _ => (reply, w.wakeDelivery)
  | _ => (reply, w)

/-- The caller runs a program of the service. -/
def run {α : Type} (p : ServiceStep α) (w : World) : Outcome α × World :=
  Program.run act p.run w

/-- Start to count the connections of the hub again and again, now and after
every interval. -/
def startCollector (name : String) (millis : Nat) (w : World) : World :=
  if millis = 0 then w.settle
  else
    let place := w.collectors.length
    let started : World := { w with collectors := w.collectors ++ [⟨name, w.clock, millis⟩] }
    (started.wake (.collector place)).settle

/-- Start to refresh the cache after every interval. -/
def startRefresher (millis : Nat) (w : World) : World :=
  if millis = 0 then w.settle
  else
    let place := w.refreshers.length
    let started : World := { w with refreshers := w.refreshers ++ [⟨w.clock + millis, millis⟩] }
    (started.wake (.refresher place)).settle

/-! ## Guests -/

/-- Give a guest a name. -/
def welcome (w : World) (name : String) (g : Guest) : World :=
  { w with guests := Api.putNamed name g w.guests }

/-- The guest of a name. -/
def guest? (w : World) (name : String) : Option Guest := w.guests.lookup name

end RewardLedger.Scenario.World
