import RewardLedger.Proofs.Feed.Course
import RewardLedger.Proofs.Feed.Reading
import RewardLedger.Proofs.Hub.Exact
import RewardLedger.Proofs.Publishing

/-!
# The feed at work

A feed is a service on which clients come and go while others are at work. Three kinds of
things happen on it, and each of them in steps that may come between those of the others:
the tasks have their turns, among them those that serve a client and those that publish a
credit; the delivery begins and ends its sweeps; and something may happen around, to the
store and to the clients themselves. While a sweep is under way, whatever reads or changes
the connections has to wait.

The **log** of a feed lists all turns and sweeps in the order in which they took effect. It
can be read in two ways. Its turns alone make a history, in which each task follows its
program (`Feed.Reachable.history`). And what the turns and the sweeps do to the hub is a
list of events that is possible for a hub at work (`Feed.Reachable.runs`), so all that is
known of the hub holds here. What a client is told depends on both.
-/

namespace RewardLedger

/-! ## Effects on the connections -/

namespace Effect

/-- The effect reads or changes the connections, and has to wait until a sweep is over. -/
def Waits : Effect → Prop
  | activeCount | subscribe _ | unsubscribe _ => True
  | _ => False

/-- The effect leaves the connections as they are, and does not tell clients how many are
online. -/
def Apart : Effect → Prop
  | subscribe _ | unsubscribe _ => False
  | broadcast payload => Frame.online? payload = none
  | _ => True

/-- Whoever tells clients how many are online does not leave the connections alone. -/
theorem not_apart_ofUsersOnline (count : Nat) :
    ¬ Apart (.broadcast (Frame.ofUsersOnline count).text) := by
  intro apart
  rw [Apart, Frame.online?_ofUsersOnline] at apart
  cases apart

/-- What an effect does to the hub. -/
theorem hub_handle (e : Effect) (s : Service Memory) :
    (s.handle Memory.answer e).2.hub = match e with
      | broadcast payload => s.hub.broadcast payload
      | subscribe client => (s.hub.subscribe client).2
      | unsubscribe id => (s.hub.unsubscribe id).2
      | _ => s.hub := by
  cases e with
  | write client payload =>
    show (s.write client payload).2.hub = s.hub
    unfold Service.write
    cases s.clients[client]? <;> rfl
  | _ => rfl

end Effect

/-- A call that credits leaves the connections alone. -/
theorem Crediting.Call.apart {program : Program Effect Effect.Reply (Outcome Income)}
    (call : Crediting.Call program) : program.Performs Effect.Apart := by
  cases call with
  | draw id now =>
    exact performs_draw_of trivial (fun _ _ => trivial) (fun _ => trivial) (fun _ => trivial)
      Frame.online?_ofNotice
  | creditPartner source key user amount =>
    exact performs_creditPartner_of (fun _ _ _ => trivial) (fun _ => trivial) trivial
      Frame.online?_ofNotice

/-- The end of a sweep reaches the hub and the clients. -/
theorem Service.finishSweep_eq {s : Service Memory} {payload : String} (writes : List WriteResult)
    (next : s.hub.next? = some payload) : ∃ clients,
      s.finishSweep writes = { s with clients, hub := s.hub.deliver writes } := by
  have written (each : List (Slot Nat × WriteResult)) : ∃ clients,
      each.foldl (fun (s : Service Memory) w =>
        s.updateClient w.1.client (·.afterWrite w.2 payload)) s = { s with clients } := by
    induction each using List.reverseRecOn with
    | nil => exact ⟨s.clients, rfl⟩
    | append_singleton each w ih =>
      obtain ⟨clients, same⟩ := ih
      exact ⟨_, by rw [List.foldl_append, same]; rfl⟩
  obtain ⟨clients, same⟩ := written (s.hub.slots.zip writes)
  refine ⟨clients, ?_⟩
  unfold finishSweep
  rw [next]
  exact congrArg (fun s' : Service Memory => { s' with hub := s.hub.deliver writes }) same

/-! ## Moments of a feed -/

/-- **One moment of a feed.** -/
inductive Moment where
  /-- A task has a turn. -/
  | turn (t : Turn)
  /-- A sweep begins to write to these connections. -/
  | began (payload : String) (slots : List (Slot Nat))
  /-- A sweep is over, with what came of each write. -/
  | ended (payload : String) (writes : List (Slot Nat × WriteResult))

namespace Moment

def turn? : Moment → Option Turn
  | turn t => some t
  | _ => none

/-- What is put into the latest incomes. -/
def remembered (m : Moment) : List IncomeNotice := m.turn?.toList.flatMap (·.remembered)

/-- What can be observed of the hub. -/
def events : Moment → List (Hub.Event Nat)
  | turn ⟨_, found, .subscribe client⟩ =>
    [.numbered ⟨found.hub.nextId, client⟩, .subscribed ⟨found.hub.nextId, client⟩]
  | turn ⟨_, found, .unsubscribe id⟩ => [.unsubscribed id (found.hub.unsubscribe id).1]
  | turn ⟨_, found, .activeCount⟩ => [.counted found.hub.activeCount]
  | turn ⟨_, _, .broadcast payload⟩ => [.broadcast payload]
  | turn _ => []
  | began payload slots => [.began payload slots]
  | ended payload writes => [.ended payload writes]

end Moment

/-- A service at work, and what happened so far. -/
structure Feed where
  pool : Pool
  /-- The delivery writes the oldest payload, and keeps the connections to itself. -/
  sweeping : Bool
  /-- Oldest first. -/
  log : List Moment

namespace Feed

/-- The hub as it is now. -/
def hub (f : Feed) : Hub Nat := f.pool.service.hub

/-- What was observed of the hub. -/
def events (log : List Moment) : List (Hub.Event Nat) := log.flatMap (·.events)

/-- What was put into the latest incomes. -/
def remembered (log : List Moment) : List IncomeNotice := log.flatMap (·.remembered)

theorem remembered_append (before after : List Moment) :
    remembered (before ++ after) = remembered before ++ remembered after := List.flatMap_append

theorem remembered_concat (log : List Moment) (m : Moment) :
    remembered (log ++ [m]) = remembered log ++ m.remembered := by
  rw [remembered_append]
  exact congrArg _ (List.flatMap_singleton ..)

theorem events_append (before after : List Moment) :
    events (before ++ after) = events before ++ events after := List.flatMap_append

theorem events_concat (log : List Moment) (m : Moment) :
    events (log ++ [m]) = events log ++ m.events := by
  rw [events_append]
  exact congrArg _ (List.flatMap_singleton ..)

/-- The turns of one task. -/
def turnsOf (log : List Moment) (task : Nat) : List Turn :=
  (log.filterMap (·.turn?)).filter fun t => t.task = task

/-- The pool with its turns alone. -/
def history (f : Feed) : History := ⟨f.pool, f.log.filterMap (·.turn?)⟩

/-- A task serves a client. -/
def Serves (f : Feed) (task client : Nat) : Prop :=
  ∃ messages rest, f.pool.tasks[task]?
    = some ⟨_, (Api.Connection.serve client messages).run, rest⟩

/-! ## Steps -/

/-- **A task of a feed** serves a client, or does something that has nothing to do with the
connections. -/
inductive Begins : {α : Type} → Program Effect Effect.Reply α → Prop
  | serve (client : Nat) (messages : List Api.Connection.Message) :
    Begins (Api.Connection.serve client messages).run
  | apart {α : Type} {p : Program Effect Effect.Reply α} (apart : p.Performs Effect.Apart) :
    Begins p

/-- **Something happens around** the tasks and the delivery: a command to the store, a refresh
of the snapshot, or something with the clients. -/
structure Around (s s' : Service Memory) : Prop where
  disturbed : s.Disturbed s'
  latest : s'.cache.latest = s.cache.latest
  capacity : s'.cache.capacity = s.cache.capacity
  hub : s'.hub = s.hub

/-- **What can happen next.** -/
inductive Step (f : Feed) : Feed → Prop
  | start {α : Type} {program : Program Effect Effect.Reply α} (begins : Begins program) :
    Step f { f with pool.tasks := f.pool.tasks ++ [⟨α, program, program⟩] }
  /-- One of the tasks has a turn. -/
  | act {n : Nat} {α : Type} {began : Program Effect Effect.Reply α}
    {e : Effect} {next : e.Reply → Program Effect Effect.Reply α}
    (calls : f.pool.tasks[n]? = some ⟨α, began, .call e next⟩)
    (free : e.Waits → f.sweeping = false) :
    Step f
      { f with
        pool := ⟨(f.pool.service.handle Memory.answer e).2,
          f.pool.tasks.set n ⟨α, began, next (f.pool.service.handle Memory.answer e).1⟩⟩
        log := f.log ++ [.turn ⟨n, f.pool.service, e⟩] }
  | begin {payload : String} (free : f.sweeping = false) (next : f.hub.next? = some payload) :
    Step f { f with sweeping := true, log := f.log ++ [.began payload f.hub.slots] }
  /-- Each write came to something. -/
  | finish {payload : String} (writes : List WriteResult) (busy : f.sweeping = true)
    (next : f.hub.next? = some payload) (each : f.hub.slots.length = writes.length) :
    Step f
      { pool.service := f.pool.service.finishSweep writes
        pool.tasks := f.pool.tasks
        sweeping := false
        log := f.log ++ [.ended payload (f.hub.slots.zip writes)] }
  | around {s : Service Memory} (aside : Around f.pool.service s) :
    Step f { f with pool.service := s }

/-- **The feed can be in this state**, having started without connections and without
incomes to show. -/
inductive Reachable : Feed → Prop
  | new {s : Service Memory} (store : s.store.Reachable) (latest : s.cache.latest = [])
    (hub : s.hub = .empty) : Reachable ⟨⟨s, []⟩, false, []⟩
  | step {f f' : Feed} (reach : f.Reachable) (step : f.Step f') : Reachable f'

/-! ## The log -/

section Log

variable {log : List Moment} {task : Nat}

theorem mem_turnsOf {t : Turn} : t ∈ turnsOf log task ↔ .turn t ∈ log ∧ t.task = task := by
  unfold turnsOf
  rw [List.mem_filter, List.mem_filterMap, decide_eq_true_eq]
  refine and_congr_left fun _ => ⟨?_, fun ht => ⟨_, ht, rfl⟩⟩
  rintro ⟨m, hm, same⟩
  cases m <;> cases same
  exact hm

theorem turnsOf_append (before after : List Moment) (task : Nat) :
    turnsOf (before ++ after) task = turnsOf before task ++ turnsOf after task := by
  unfold turnsOf
  rw [List.filterMap_append, List.filter_append]

/-- A turn of a task is one of its turns, behind those that come before it in the log. -/
theorem turnsOf_turn (before after : List Moment) (t : Turn) :
    turnsOf (before ++ .turn t :: after) t.task
      = turnsOf before t.task ++ t :: turnsOf after t.task := by
  have own : turnsOf [.turn t] t.task = [t] := by simp [turnsOf, Moment.turn?]
  rw [List.append_cons, turnsOf_append, turnsOf_append, own, List.append_assoc]
  rfl

/-- Each turn of a task has its place in the log. -/
theorem turnsOf_eq_append {before after : List Turn} {t : Turn}
    (h : turnsOf log task = before ++ t :: after) :
    ∃ x y, log = x ++ .turn t :: y ∧ turnsOf x task = before ∧ turnsOf y task = after := by
  induction log generalizing before with
  | nil => simp [turnsOf] at h
  | cons m rest ih =>
    have one := turnsOf_append [m] rest task
    rw [List.singleton_append] at one
    by_cases own : turnsOf [m] task = []
    · rw [one, own, List.nil_append] at h
      obtain ⟨x, y, rfl, first, second⟩ := ih h
      exact ⟨m :: x, y, rfl, by
        rw [← List.singleton_append, turnsOf_append, own, List.nil_append, first], second⟩
    · obtain ⟨u, hu⟩ := List.exists_mem_of_ne_nil _ own
      obtain ⟨same, rfl⟩ := mem_turnsOf.1 hu
      cases List.mem_singleton.1 same
      have single : turnsOf [.turn u] u.task = [u] := turnsOf_turn [] [] u
      rw [one, single] at h
      cases before with
      | nil =>
        obtain ⟨rfl, rfl⟩ := List.cons.inj h
        exact ⟨[], rest, rfl, rfl, rfl⟩
      | cons v before =>
        obtain ⟨rfl, later⟩ := List.cons.inj h
        obtain ⟨x, y, rfl, first, second⟩ := ih later
        exact ⟨.turn u :: x, y, rfl, by
          rw [← List.singleton_append, turnsOf_append, single, first]; rfl, second⟩

end Log

/-! ## What every feed keeps -/

/-- **The turns of a feed**, as the setting of a history. -/
def setting : Setting where
  Initial s := s.store.Reachable
  Begins := Begins
  Around s s' := s.Disturbed s'
  reachable_of_initial := fun _ initial => initial
  disturbed_of_around := fun _ _ aside => aside

/-- A step adds one moment to the log at most. -/
theorem Step.log {f f' : Feed} (step : f.Step f') :
    f'.log = f.log ∨ ∃ m, f'.log = f.log ++ [m] := by
  cases step with
  | start | around => exact .inl rfl
  | act | begin | finish => exact .inr ⟨_, rfl⟩

section Reachable

variable {f : Feed} (reach : f.Reachable)

include reach

/-- **The turns of a feed make a history.** -/
theorem Reachable.history : f.history.Reachable setting := by
  induction reach with
  | new store => exact .new store
  | @step f _ reach step ih =>
    cases step with
    | start begins => exact ih.step (.start begins)
    | @act n α began e next calls free =>
      have more := ih.step (.act calls)
      unfold Feed.history at more ⊢
      rw [List.filterMap_append]
      exact more
    | begin free next =>
      unfold Feed.history at ih ⊢
      rw [List.filterMap_append]
      simpa [Moment.turn?] using ih
    | finish writes busy next each =>
      obtain ⟨clients, same⟩ := Service.finishSweep_eq writes next
      have aside := ih.step (.around (s := f.pool.service.finishSweep writes)
        (.inl (congrArg (·.store) same)))
      unfold Feed.history at aside ⊢
      rw [List.filterMap_append]
      simpa [Moment.turn?] using aside
    | around aside => exact ih.step (.around aside.disturbed)

/-- **What turns and sweeps do to the hub** is possible for a hub at work. -/
theorem Reachable.runs : Hub.Runs (events f.log) ⟨f.hub, [], f.sweeping⟩ := by
  induction reach with
  | @new s _ _ hub =>
    show Hub.Runs [] ⟨s.hub, [], false⟩
    rw [hub]
    exact .new
  | @step f _ reach step ih =>
    cases step with
    | start => exact ih
    | @act n α began e next calls free =>
      show Hub.Runs (events (f.log ++ [_]))
        ⟨(f.pool.service.handle Memory.answer e).2.hub, [], f.sweeping⟩
      rw [events_concat, Effect.hub_handle]
      cases e with
      | subscribe client =>
        have numbered := ih.step (.number client)
        have held := numbered.step (.subscribe (free trivial) (show _ = [] ++ _ :: [] from rfl))
        rwa [List.append_assoc] at held
      | unsubscribe id => exact ih.step (.unsubscribe id (free trivial))
      | activeCount => exact ih.step (.count (free trivial))
      | broadcast payload => exact ih.step (.broadcast payload)
      | _ =>
        rw [show Moment.events _ = [] from rfl, List.append_nil]
        exact ih
    | begin free next =>
      show Hub.Runs (events (f.log ++ [_])) _
      rw [events_concat]
      exact ih.step (.begin free next)
    | finish writes busy next each =>
      obtain ⟨clients, same⟩ := Service.finishSweep_eq writes next
      show Hub.Runs (events (f.log ++ [_])) ⟨(f.pool.service.finishSweep writes).hub, [], false⟩
      rw [events_concat, same]
      exact ih.step (.finish writes busy next each)
    | @around s aside =>
      show Hub.Runs _ ⟨s.hub, [], f.sweeping⟩
      rw [aside.hub]
      exact ih

/-- Every moment of the log was a step, after the moments before it. -/
theorem Reachable.at {before after : List Moment} {m : Moment}
    (h : f.log = before ++ m :: after) :
    ∃ g g' : Feed, g.Reachable ∧ g.log = before ∧ g.Step g' ∧ g'.log = before ++ [m] := by
  induction reach generalizing after with
  | new => simp at h
  | @step f f' reach step ih =>
    obtain same | ⟨m', more⟩ := step.log
    · exact ih (same ▸ h)
    · cases after using List.reverseRecOn with
      | nil =>
        obtain ⟨rfl, same⟩ := List.append_inj' (more.symm.trans h) rfl
        exact ⟨f, f', reach, rfl, step, h⟩
      | append_singleton after last =>
        rw [more, ← List.cons_append, ← List.append_assoc] at h
        exact ih (List.append_inj' h rfl).1

/-- A task found the service at the time of its turn. -/
theorem Reachable.found {before after : List Moment} {t : Turn}
    (h : f.log = before ++ .turn t :: after) :
    ∃ g : Feed, g.Reachable ∧ g.log = before ∧ g.pool.service = t.found := by
  obtain ⟨g, g', reached, rfl, step, more⟩ := reach.at h
  refine ⟨g, reached, rfl, ?_⟩
  cases step with
  | act calls free =>
    cases (List.append_inj' more rfl).2
    rfl
  | begin | finish => cases (List.append_inj' more rfl).2
  | start | around => simp at more

/-- **A task serves a client**, or leaves the connections alone. -/
theorem Reachable.serves_or_apart (task : Nat) :
    (∃ client, f.Serves task client) ∨ ∀ t ∈ turnsOf f.log task, t.effect.Apart := by
  cases hn : f.pool.tasks[task]? with
  | none =>
    have none : turnsOf f.log task = [] :=
      reach.history.turnsOf_of_length_le (List.getElem?_eq_none_iff.1 hn)
    refine .inr fun t ht => ?_
    rw [none] at ht
    cases ht
  | some T =>
    obtain ⟨α, began, rest⟩ := T
    obtain ⟨begins, follows⟩ := reach.history.follows hn
    change began.Follows (turnsOf f.log task) rest at follows
    cases begins with
    | serve client messages => exact .inl ⟨client, messages, rest, hn⟩
    | apart apart => exact .inr (apart.follows follows).1

/-- **Who serves a client** follows the course of its connection. -/
theorem Reachable.course {task client : Nat} (serves : f.Serves task client)
    {before after : List Turn} {t : Turn} (h : turnsOf f.log task = before ++ t :: after) :
    Api.Connection.Course task client before t.effect := by
  obtain ⟨messages, rest, hn⟩ := serves
  have follows := (reach.history.follows hn).2
  change Program.Follows _ (turnsOf f.log task) rest at follows
  have own : ∀ u ∈ before, u.task = task := fun u hu =>
    (mem_turnsOf.1 (h ▸ List.mem_append_left _ hu)).2
  rw [h] at follows
  obtain ⟨next, first⟩ := follows.split
  exact Api.Connection.course_of_follows own first

/-- **The latest incomes are what was put there last**, as many as there is room for. -/
theorem Reachable.latest : f.pool.service.cache.latest
    = (remembered f.log).reverse.take f.pool.service.cache.capacity := by
  induction reach with
  | new _ latest _ =>
    rw [latest]
    exact List.take_nil.symm
  | @step f _ reach step ih =>
    cases step with
    | start => exact ih
    | @act n α began e next calls free =>
      let t : Turn := ⟨n, f.pool.service, e⟩
      show t.left.cache.latest
        = (remembered (f.log ++ [.turn t])).reverse.take t.left.cache.capacity
      rw [remembered_concat, show Moment.remembered (.turn t) = t.remembered from
        List.append_nil t.remembered]
      exact t.latest_left ih
    | begin =>
      show _ = (remembered (f.log ++ [_])).reverse.take _
      rw [remembered_concat, show Moment.remembered _ = [] from rfl, List.append_nil]
      exact ih
    | finish writes _ next =>
      obtain ⟨clients, same⟩ := Service.finishSweep_eq writes next
      show (f.pool.service.finishSweep writes).cache.latest
        = (remembered (f.log ++ [_])).reverse.take
          (f.pool.service.finishSweep writes).cache.capacity
      rw [remembered_concat, show Moment.remembered _ = [] from rfl, List.append_nil, same]
      exact ih
    | around aside =>
      show _ = (remembered f.log).reverse.take _
      rw [aside.latest, aside.capacity]
      exact ih

end Reachable

end Feed

end RewardLedger
