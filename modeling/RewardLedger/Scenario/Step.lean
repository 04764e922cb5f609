import RewardLedger.Api.Connection
import RewardLedger.Api.Router
import RewardLedger.Scenario.Passing

/-!
# Steps of a scenario

A scenario is a list of steps. A step asks one part of the service directly, or
comes in from outside as a request or as a message of a client, or lets time
pass. Each has a result of its own type.
-/

namespace RewardLedger.Scenario

/-- One step. -/
inductive Step where
  | store (op : StoreOp)
  | addPolicy (p : RewardPolicy)
  | addBand (b : RewardBand)
  /-- Arm a fail point. -/
  | arm (p : FailPoint)
  /-- Everything about every user. -/
  | accounts
  | cache (op : CacheOp)
  | refresh (now : Instant)
  | startRefresher (seconds : Nat)
  | sleep (millis : Nat)
  /-- Let the hub hold a client that is known by a name from now on. -/
  | subscribe (name : String) (behaviour : Behaviour)
  | unsubscribe (name : String)
  | activeCount
  | broadcast (payload : String)
  /-- Wait until everything that was broadcast is delivered. -/
  | flush
  /-- What a client took since it was last asked. -/
  | frames (name : String)
  | draw (user : Int) (now : Instant)
  | credit (source : IncomeSource) (key : String) (user amount : Int)
  | withdraw (user : Int) (address : String) (amount : Int)
  | advance (ids : List Int) (current next : WithdrawalStatus) (transaction : Option String)
  /-- Withdraw all balances. -/
  | payAll (minBalance : Int)
  /-- Check the store, under its usual name. -/
  | checkStore
  | register (name : String) (result : Api.CheckResult)
  | unregister (name : String)
  | health
  | setMetric (name : String) (value : Json)
  | metric (name : String)
  | metrics
  /-- Count the connections of the hub again and again. -/
  | startCollector (name : String) (millis : Nat)
  | request (r : Api.Request)
  /-- Join the feed from outside. -/
  | join (name target : String)
  /-- Ask to join the feed, and be gone before anything is shown. -/
  | joinAndLeave (target : String)
  /-- Send a message, and perhaps be gone before it is read. -/
  | send (name : String) (m : Api.Connection.Message) (gone : Bool)
  /-- End a connection. -/
  | finish (name : String) (m : Api.Connection.Message)
  /-- What a client from outside received since it was last asked, and whether
  its connection is over. -/
  | received (name : String)

namespace Step

/-- The result of a step. -/
@[reducible] def Result : Step → Type
  | store op => op.Answer
  | addPolicy _ | addBand _ | arm _ => PUnit
  | accounts => List (User × List Income × List Withdrawal)
  | cache op => op.Reply
  | refresh _ | startRefresher _ | sleep _ => PUnit
  | subscribe .. => Nat
  | unsubscribe _ => Bool
  | activeCount => Nat
  | broadcast _ | flush => PUnit
  | frames _ => List String
  | draw .. | credit .. => Income
  | withdraw .. => Withdrawal
  | advance .. => Nat
  | payAll _ => Settlement.Payments
  | checkStore | register .. | unregister _ => PUnit
  | health => Api.HealthReport
  | setMetric .. => PUnit
  | metric _ => Option Json
  | metrics => List (String × Json)
  | startCollector .. => PUnit
  | request _ => Api.Response
  | join .. => Except Nat String
  | joinAndLeave _ => Except Nat PUnit
  | send .. | finish .. => PUnit
  | received _ => List String × Bool

end Step

namespace World

/-- The name under which the store is checked. -/
def storeCheckName : String := "storage"

/-- Everything about every user, newest first. -/
def accounts (w : World) : Outcome (List (User × List Income × List Withdrawal)) :=
  match w.service.store with
  | .memory m =>
    m.read fun t => t.users.values.map fun u =>
      (u, (t.incomesOf u.id none).reverse, (t.withdrawalsOf u.id).reverse)
  | .database _ => .ok []

/-- Do something to the store in memory. -/
def onMemory (w : World) (f : Memory → Outcome PUnit × Memory) : Outcome PUnit × World :=
  let (outcome, store) := w.service.store.onMemory f
  (outcome, w.onService fun s => { s with store })

/-- What a client took since it was last asked, oldest first. -/
def takeUnread (w : World) (client : Nat) : List String × World :=
  (((w.service.clients[client]?).map (·.unread.reverse)).getD [],
    w.onService (·.updateClient client .read))

/-- The request of a client that wants to join the feed. -/
def joinRequest (target : String) : Api.Request :=
  ⟨"GET", target,
    [("connection", "Upgrade"), ("upgrade", "websocket"),
      ("sec-websocket-version", Api.Upgrade.version), ("sec-websocket-key", "key")],
    "", true⟩

/-- Let a client ask to join the feed, and let it join if its request is
accepted. -/
def letIn (server : Api.Server) (target : String) (client : Nat) (w : World) :
    Outcome (Except Nat (Option Nat)) × World :=
  w.run do
    let response ← server.respond (joinRequest target)
    if response.status = Api.Response.switching then
      return .ok (← Api.Connection.join client)
    else
      return .error response.status

/-- Join the feed from outside. What is broadcast while the client joins may or
may not reach it, and is not kept. -/
def join (server : Api.Server) (name target : String) (w : World) :
    Outcome (Except Nat String) × World :=
  let w := w.settle
  let (client, service) := w.service.addClient .prompt
  let (outcome, w) := { w with service }.letIn server target client
  match outcome with
  | .error e => (.error e, w)
  | .ok (.error status) => (.ok (.error status), w.settle)
  | .ok (.ok connection) =>
    let (shown, w) := w.takeUnread client
    let w := w.settle.onService (·.updateClient client .read)
    (.ok (.ok (shown.headD "")), w.welcome name ⟨client, connection, false⟩)

/-- Ask to join the feed, and be gone before anything is shown. -/
def joinAndLeave (server : Api.Server) (target : String) (w : World) :
    Outcome (Except Nat PUnit) × World :=
  let w := w.settle
  let (client, service) := w.service.addClient (.failAfter 0)
  let (outcome, w) := { w with service }.letIn server target client
  (outcome.map fun r => r.map fun _ => ⟨⟩, w.settle)

/-- Let a client send a message, and let go of its connection if the message
ends it. -/
def deliverMessage (name : String) (m : Api.Connection.Message) (gone : Bool) (w : World) :
    Outcome PUnit × World :=
  let w := w.settle
  match w.guest? name with
  | none => (.ok ⟨⟩, w)
  | some g =>
    if g.ended then (.ok ⟨⟩, w)
    else
      let w := if gone then w.onService (·.updateClient g.client .gone) else w
      let (goesOn, w) := w.run (Api.Connection.receive g.client m)
      match goesOn with
      | .error e => (.error e, w)
      | .ok goesOn =>
        if goesOn ∧ ¬ gone then (.ok ⟨⟩, w.settle)
        else
          let (outcome, w) := w.run (g.connection.forM Api.Connection.leave)
          (outcome, (w.welcome name { g with ended := true }).settle)

/-- Play a step. -/
def play (server : Api.Server) : (s : Step) → World → Outcome s.Result × World
  | .store op, w => w.run (ServiceStep.ask op)
  | .addPolicy p, w => w.onMemory (·.addPolicy p)
  | .addBand b, w => w.onMemory (·.addBand b)
  | .arm p, w => w.onMemory fun m => (.ok ⟨⟩, m.arm p)
  | .accounts, w => (w.accounts, w)
  | .cache op, w => w.run (ServiceStep.perform (.cache op))
  | .refresh now, w => w.run (RateCache.refresh now)
  | .startRefresher seconds, w => (.ok ⟨⟩, w.startRefresher (seconds * 1000))
  | .sleep millis, w => (.ok ⟨⟩, w.sleep millis)
  | .subscribe name behaviour, w =>
    let (client, service) := w.service.addClient behaviour
    let (id, w) := act (.subscribe client) { w with service }
    (.ok id, w.welcome name ⟨client, some id, false⟩)
  | .unsubscribe name, w =>
    match (w.guest? name).bind (·.connection) with
    | none => (.ok false, w)
    | some id =>
      let (held, w) := act (.unsubscribe id) w
      (.ok held, w)
  | .activeCount, w => w.run (ServiceStep.perform .activeCount)
  | .broadcast payload, w => w.run (ServiceStep.perform (.broadcast payload))
  | .flush, w => (.ok ⟨⟩, w.drain)
  | .frames name, w =>
    let w := w.drain
    match w.guest? name with
    | none => (.ok [], w)
    | some g =>
      let (unread, w) := w.takeUnread g.client
      (.ok unread, w)
  | .draw user now, w => w.run (Crediting.draw user now)
  | .credit source key user amount, w =>
    w.run (Crediting.creditPartner source key user amount)
  | .withdraw user address amount, w => w.run (Settlement.request user address amount)
  | .advance ids current next transaction, w =>
    w.run (Settlement.advance ids current next transaction)
  | .payAll minBalance, w => w.run (Settlement.sweep minBalance)
  | .checkStore, w => (.ok ⟨⟩, w.onService (·.register storeCheckName .store))
  | .register name result, w => (.ok ⟨⟩, w.onService (·.register name (.fixed result)))
  | .unregister name, w => (.ok ⟨⟩, w.onService (·.unregister name))
  | .health, w => w.run Api.Health.report
  | .setMetric name value, w => (.ok ⟨⟩, w.onService (·.setMetric name value))
  | .metric name, w => (.ok (w.service.metrics.lookup name), w)
  | .metrics, w => (.ok w.service.metrics, w)
  | .startCollector name millis, w => (.ok ⟨⟩, w.startCollector name millis)
  | .request r, w => w.run (server.respond r)
  | .join name target, w => w.join server name target
  | .joinAndLeave target, w => w.joinAndLeave server target
  | .send name m gone, w => w.deliverMessage name m gone
  | .finish name m, w => w.deliverMessage name m true
  | .received name, w =>
    let w := w.settle
    match w.guest? name with
    | none => (.ok ([], true), w)
    | some g =>
      let (unread, w) := w.takeUnread g.client
      (.ok (unread, g.ended), w)

/-- Play a step on a database: the replies of the script are for this step
alone, and everything that is broadcast is delivered before the next one. What
was sent to the database, oldest first, and how many replies are left over. -/
def playOnDatabase (server : Api.Server) (s : Step) (script : List ScriptedReply)
    (w : World) : Outcome s.Result × List Statement × Nat × World :=
  let w :=
    match w.service.store with
    | .database d => w.onService fun s => { s with store := .database (d.load script) }
    | .memory _ => w
  let (outcome, w) := w.play server s
  let w := w.drain
  match w.service.store with
  | .database d => (outcome, d.sent.reverse, d.script.length, w)
  | .memory _ => (outcome, [], 0, w)

end World

/-- The codes with which a database turns a connection down for the moment.
Connecting is then tried again, until the patience for it is used up. -/
def momentaryCodes : List String := ["53300", "57P03"]

/-- What comes of connecting a store to a database with a script: the first
connection may be turned down with a code and a message, and relations that are
missing may be defined. -/
def connect (refusal : Option (String × String)) (createTables : Bool)
    (script : List ScriptedReply) : Outcome PUnit × ScriptedDatabase :=
  let d := ScriptedDatabase.empty.load script
  match refusal with
  | some (code, message) =>
    let reply : DatabaseReply :=
      if code ∈ momentaryCodes then .lost else .refused code message
    ((reply.succeed "connect").map fun _ => ⟨⟩, d)
  | none => if createTables then d.run Schema.create else (.ok ⟨⟩, d)

end RewardLedger.Scenario
