import Mathlib.Data.List.TakeWhile
import RewardLedger.Proofs.Feed.Basic

/-!
# What clients are told

A client is sent what the task that serves it writes, which is the snapshot and later nothing
but answers, and what the hub writes to its connection while it holds it. So a client that is
held was told last how many are online either in its snapshot or in the sweep that told a number
last (`Feed.Reachable.told_eq`).

Each such number was announced by a task that joined or left, which counted the connections at
one place of the log and queued the number at a later one (`Feed.Reachable.announces`). The
connections that are held now are those that were counted there, with those that were subscribed
and without those that were removed since (`Feed.Reachable.accounts`).

When the queue is drained, what was announced last was swept last. All clients were told it that
were held by then, and so was the one that joined last if the announcement is its own
(`Feed.Reachable.told_last`).
-/

namespace RewardLedger

open Api.Connection

/-- What a turn writes to a client. -/
def Turn.shown (t : Turn) : List String :=
  match t.effect with
  | .write _ payload => [payload]
  | _ => []

namespace Moment

/-- What a task writes to the client that it serves. -/
def shownBy (task : Nat) : Moment → List String
  | turn t => if t.task = task then t.shown else []
  | _ => []

/-- What is sent to a client, by the task that serves it and by the number of its
connection. -/
def sentTo (task id : Nat) (m : Moment) : List String :=
  m.shownBy task ++ m.events.flatMap (·.writtenTo id)

/-- What is put into the queue of the hub. -/
def broadcast? : Moment → Option String
  | turn ⟨_, _, .broadcast payload⟩ => some payload
  | _ => none

/-- The number of clients online that is put into the queue. -/
def announced? (m : Moment) : Option Nat := m.broadcast?.bind Frame.online?

/-- What came of the writes of a sweep that is over. -/
def results : Moment → List WriteResult
  | ended _ writes => writes.map (·.2)
  | _ => []

theorem announced?_broadcast (task : Nat) (found : Service Memory) (payload : String) :
    announced? (.turn ⟨task, found, .broadcast payload⟩) = Frame.online? payload := rfl

theorem announced?_ofUsersOnline (task count : Nat) (found : Service Memory) :
    announced? (.turn ⟨task, found, .broadcast (Frame.ofUsersOnline count).text⟩) = some count :=
  (announced?_broadcast ..).trans (Frame.online?_ofUsersOnline count)

/-- Whoever puts something into the queue broadcasts it. -/
theorem broadcast?_eq_some {m : Moment} {payload : String} (h : m.broadcast? = some payload) :
    ∃ task found, m = .turn ⟨task, found, .broadcast payload⟩ := by
  cases m with
  | turn t =>
    obtain ⟨task, found, e⟩ := t
    cases e <;> cases h
    exact ⟨task, found, rfl⟩
  | _ => cases h

end Moment

namespace Feed

/-- Everything that is sent to a client, oldest first. -/
def sentTo (f : Feed) (task id : Nat) : List String := f.log.flatMap (·.sentTo task id)

/-- **How many are online**, according to what a client was told last. -/
def told? (f : Feed) (task id : Nat) : Option Nat :=
  ((f.sentTo task id).filterMap Frame.online?).getLast?

/-- The hub holds the connection of the client that a task serves. -/
structure Holds (f : Feed) (task : Nat) (slot : Slot Nat) : Prop where
  held : slot ∈ f.hub.slots
  subscribed : ∃ found, .turn ⟨task, found, .subscribe slot.client⟩ ∈ f.log
    ∧ found.hub.nextId = slot.id

/-- Everything that was queued is delivered. -/
structure Drained (f : Feed) : Prop where
  queue : f.hub.queue = []
  free : f.sweeping = false

/-- Every write of a sweep that is over succeeded. -/
def AllTaken (log : List Moment) : Prop := ∀ w ∈ log.flatMap (·.results), w.Succeeded

/-- A task performs an effect at some place of a log. -/
def Does (log : List Moment) (task i : Nat) (e : Effect) : Prop :=
  ∃ found, log[i]? = some (.turn ⟨task, found, e⟩)

/-- Only one task has a turn at a time. -/
theorem Does.task_eq {log : List Moment} {a b i : Nat} {e e' : Effect} (first : Does log a i e)
    (second : Does log b i e') : a = b := by
  obtain ⟨found, place⟩ := first
  obtain ⟨found', place'⟩ := second
  cases place.symm.trans place'
  rfl

/-- **A number is announced**: a task counts the connections at one place, and queues a number
for all clients at a later one. -/
inductive Announces (log : List Moment) (task : Nat) : Nat → Nat → Nat → Nat → Prop
  /-- Whoever joins counts first of all, and adds its own client, which is still to be held. -/
  | joining {counted queued : Nat} {found : Service Memory} (inOrder : counted < queued)
    (count : log[counted]? = some (.turn ⟨task, found, .activeCount⟩))
    (first : turnsOf (log.take counted) task = [])
    (queue : Does log task queued
      (.broadcast (Frame.ofUsersOnline (found.hub.activeCount + 1)).text))
    (coming : ∀ i client, Does log task i (.subscribe client) → queued < i) :
    Announces log task counted queued 1 (found.hub.activeCount + 1)
  /-- Whoever leaves counts those that are left. -/
  | leaving {left counted queued id : Nat} {found : Service Memory} (gone : left < counted)
    (inOrder : counted < queued) (lets : Does log task left (.unsubscribe id))
    (count : log[counted]? = some (.turn ⟨task, found, .activeCount⟩))
    (queue : Does log task queued
      (.broadcast (Frame.ofUsersOnline found.hub.activeCount).text)) :
    Announces log task counted queued 0 found.hub.activeCount

namespace Announces

variable {log : List Moment} {task counted queued own number : Nat}
  (announces : Announces log task counted queued own number)

include announces

theorem inOrder : counted < queued := by
  cases announces <;> assumption

theorem queue : Does log task queued (.broadcast (Frame.ofUsersOnline number).text) := by
  cases announces <;> assumption

/-- The number is what was counted, and the client itself if it joins. -/
theorem count : ∃ found, log[counted]? = some (.turn ⟨task, found, .activeCount⟩)
    ∧ number = found.hub.activeCount + own := by
  cases announces with
  | joining _ count | leaving _ _ _ count => exact ⟨_, count, rfl⟩

end Announces

/-! ## Places in a log -/

section Place

variable {log : List Moment} {task i : Nat}

/-- What stands at a place is between what is before it and what is after it. -/
theorem split_at {α : Type} {l : List α} {a : α} {i : Nat} (h : l[i]? = some a) :
    l = l.take i ++ a :: l.drop (i + 1) := by
  obtain ⟨hlt, rfl⟩ := List.getElem?_eq_some_iff.1 h
  rw [List.getElem_cons_drop, List.take_append_drop]

/-- Whatever comes before a place has its own. -/
theorem exists_place_of_mem_take {α : Type} {l : List α} {a : α} {i : Nat} (h : a ∈ l.take i) :
    ∃ k, k < i ∧ l[k]? = some a := by
  obtain ⟨k, hk⟩ := List.getElem?_of_mem h
  have inside := Nat.lt_of_lt_of_le (List.getElem?_eq_some_iff.1 hk).1 (List.length_take_le _ _)
  exact ⟨k, inside, (List.getElem?_take_of_lt inside).symm.trans hk⟩

/-- What has its place before another stands before it. -/
theorem mem_take_of_place {α : Type} {l : List α} {a : α} {i k : Nat} (h : l[k]? = some a)
    (early : k < i) : a ∈ l.take i :=
  List.mem_of_getElem? (i := k) ((List.getElem?_take_of_lt early).trans h)

/-- The turns of a task up to one of them. -/
theorem turnsOf_at {t : Turn} (h : log[i]? = some (.turn t)) :
    turnsOf log t.task = turnsOf (log.take i) t.task ++ t :: turnsOf (log.drop (i + 1)) t.task := by
  conv_lhs => rw [split_at h]
  exact turnsOf_turn _ _ t

/-- A turn that a task has had before a moment has its own place, behind the turns before
it. -/
theorem exists_place (before : List Turn) {after : List Turn} {t : Turn}
    (h : turnsOf (log.take i) task = before ++ t :: after) :
    ∃ k, k < i ∧ log[k]? = some (.turn t) ∧ turnsOf (log.take k) task = before := by
  obtain ⟨x, y, split, first, -⟩ := turnsOf_eq_append h
  have whole : log = x ++ .turn t :: (y ++ log.drop i) := by
    rw [← List.cons_append, ← List.append_assoc, ← split, List.take_append_drop]
  have length := congrArg List.length split
  rw [List.length_append, List.length_take, List.length_cons] at length
  refine ⟨x.length, by omega, ?_, ?_⟩
  · rw [whole]
    exact List.getElem?_append_right (Nat.le_refl _) |>.trans (by simp)
  · conv_lhs => rw [whole]
    rw [List.take_left]
    exact first

/-- Whatever a task did before a moment has its place. -/
theorem does_of_mem {t : Turn} (h : t ∈ turnsOf (log.take i) task) :
    ∃ k, k < i ∧ Does log task k t.effect := by
  obtain ⟨before, after, split⟩ := List.append_of_mem h
  obtain ⟨k, hk, place, -⟩ := exists_place _ split
  obtain ⟨n, found, e⟩ := t
  obtain rfl : n = task := (mem_turnsOf.1 h).2
  exact ⟨k, hk, found, place⟩

/-- A task has its turns one after another. -/
theorem mem_turnsOf_take {t : Turn} {k : Nat} (h : log[k]? = some (.turn t)) (early : k < i) :
    t ∈ turnsOf (log.take i) t.task :=
  mem_turnsOf.2 ⟨mem_take_of_place h early, rfl⟩

/-- What stands behind a moment and is another one came later. -/
theorem getElem?_since {m m' : Moment} {k : Nat} (h : log[i]? = some m)
    (since : (log.drop i)[k]? = some m') (other : m' ≠ m) : i < i + k ∧ log[i + k]? = some m' := by
  rw [List.getElem?_drop] at since
  refine ⟨Nat.lt_of_le_of_ne (Nat.le_add_right i k) fun same => other ?_, since⟩
  rw [← same, h] at since
  exact (Option.some.inj since).symm

/-- The connections that were ever held are those that a turn had held. -/
theorem mem_subscriptions {slot : Slot Nat} : slot ∈ Hub.subscriptions (events log)
    ↔ ∃ task found, .turn ⟨task, found, .subscribe slot.client⟩ ∈ log
      ∧ found.hub.nextId = slot.id := by
  constructor
  · intro subscribed
    obtain ⟨e, he, subscribed⟩ := List.mem_filterMap.1 subscribed
    obtain ⟨m, hm, he⟩ := List.mem_flatMap.1 he
    cases e <;> cases subscribed
    cases m with
    | turn t =>
      obtain ⟨task, found, e⟩ := t
      cases e with
      | subscribe client =>
        simp only [Moment.events, List.mem_cons, reduceCtorEq, false_or, List.not_mem_nil, or_false,
          Hub.Event.subscribed.injEq] at he
        exact ⟨task, found, he ▸ hm, he ▸ rfl⟩
      | _ => simp [Moment.events] at he
    | _ => simp [Moment.events] at he
  · rintro ⟨task, found, hm, number⟩
    obtain ⟨id, client⟩ := slot
    subst number
    refine List.mem_filterMap.2 ⟨.subscribed ⟨found.hub.nextId, client⟩, ?_, rfl⟩
    exact List.mem_flatMap.2 ⟨_, hm, List.mem_cons_of_mem _ List.mem_cons_self⟩

/-- A connection is removed by a turn that lets it go while it is held, or by a sweep whose write
to it fails. -/
theorem exists_of_mem_removals {id : Nat} (removed : id ∈ Hub.removals (events log)) :
    (∃ task found, .turn ⟨task, found, .unsubscribe id⟩ ∈ log
        ∧ (found.hub.unsubscribe id).1 = true)
      ∨ ∃ payload writes, .ended payload writes ∈ log
        ∧ ∃ w ∈ writes, w.1.id = id ∧ ¬ w.2.Succeeded := by
  obtain ⟨e, he, removed⟩ := List.mem_flatMap.1 removed
  obtain ⟨m, hm, he⟩ := List.mem_flatMap.1 he
  cases m with
  | turn t =>
    obtain ⟨task, found, effect⟩ := t
    cases effect with
    | unsubscribe number =>
      cases List.mem_singleton.1 he
      cases held : (found.hub.unsubscribe number).1 with
      | true =>
        rw [held] at removed
        cases List.mem_singleton.1 removed
        exact .inl ⟨task, found, hm, held⟩
      | false =>
        rw [held] at removed
        cases removed
    | subscribe client =>
      obtain rfl | he := List.mem_cons.1 he
      · cases removed
      · cases List.mem_singleton.1 he
        cases removed
    | activeCount | broadcast payload =>
      cases List.mem_singleton.1 he
      cases removed
    | _ => cases he
  | began payload slots =>
    cases List.mem_singleton.1 he
    cases removed
  | ended payload writes =>
    cases List.mem_singleton.1 he
    obtain ⟨w, hw, same⟩ := List.mem_map.1 removed
    obtain ⟨hw, failed⟩ := List.mem_filter.1 hw
    exact .inr ⟨payload, writes, hm, w, hw, same, of_decide_eq_true failed⟩

end Place

section Reachable

variable {f : Feed} (reach : f.Reachable)

include reach

/-- Whoever serves a client comes to each effect along the course of the connection. -/
theorem Reachable.course_at {task client i : Nat} {e : Effect} (serves : f.Serves task client)
    (does : Does f.log task i e) : Course task client (turnsOf (f.log.take i) task) e := by
  obtain ⟨found, place⟩ := does
  exact reach.course serves (turnsOf_at place)

/-- **A client is held once.** -/
theorem Reachable.subscribe_unique {task client : Nat} (serves : f.Serves task client)
    {i k c d : Nat} (first : Does f.log task i (.subscribe c))
    (second : Does f.log task k (.subscribe d)) : i = k := by
  have not_before {i k c d : Nat} (first : Does f.log task i (.subscribe c))
      (second : Does f.log task k (.subscribe d)) : ¬ i < k := by
    intro early
    obtain ⟨found, place⟩ := first
    obtain ⟨-, j, coming⟩ := (reach.course_at serves second).subscribe_eq
    exact j.subscribe_of_mem_coming (coming ▸ mem_turnsOf_take place early) c rfl
  have := not_before first second
  have := not_before second first
  omega

/-- **A client is let go once.** -/
theorem Reachable.unsubscribe_unique {task client : Nat} (serves : f.Serves task client)
    {i k a b : Nat} (first : Does f.log task i (.unsubscribe a))
    (second : Does f.log task k (.unsubscribe b)) : i = k := by
  have not_before {i k a b : Nat} (first : Does f.log task i (.unsubscribe a))
      (second : Does f.log task k (.unsubscribe b)) : ¬ i < k := by
    intro early
    obtain ⟨found, place⟩ := first
    obtain ⟨j, answers, staying, -, pongs⟩ := (reach.course_at serves second).unsubscribe_eq
    exact j.unsubscribe_of_mem_staying pongs (staying ▸ mem_turnsOf_take place early) a rfl
  have := not_before first second
  have := not_before second first
  omega

/-- Whoever does not leave the connections alone serves a client. -/
theorem Reachable.serves_of_does {task i : Nat} {e : Effect} (does : Does f.log task i e)
    (near : ¬ e.Apart) : ∃ client, f.Serves task client := by
  obtain ⟨found, place⟩ := does
  obtain serves | apart := reach.serves_or_apart task
  · exact serves
  · exact absurd (apart _ (mem_turnsOf.2 ⟨List.mem_of_getElem? place, rfl⟩)) near

/-- **Whoever tells how many are online** serves a client, and counted before. -/
theorem Reachable.announces {q v : Nat} {m : Moment} (hq : f.log[q]? = some m)
    (hv : m.announced? = some v) :
    ∃ task client c own, f.Serves task client ∧ Announces f.log task c q own v := by
  obtain ⟨payload, queued, number⟩ := Option.bind_eq_some_iff.1 hv
  obtain ⟨task, found, rfl⟩ := Moment.broadcast?_eq_some queued
  have does : Does f.log task q (.broadcast payload) := ⟨found, hq⟩
  have near : ¬ Effect.Apart (.broadcast payload) := fun apart => by
    rw [show Frame.online? payload = none from apart] at number
    cases number
  obtain ⟨client, serves⟩ := reach.serves_of_does does near
  have course := reach.course_at serves does
  refine ⟨task, client, ?_⟩
  generalize hb : turnsOf (f.log.take q) task = before at course
  cases course with
  | announce j =>
    rw [Frame.online?_ofUsersOnline] at number
    cases number
    obtain ⟨c, hc, counted, first⟩ := exists_place [] hb
    refine ⟨c, 1, serves, .joining hc counted first does fun i c held => ?_⟩
    -- it was not held before, as all that it did until then is known
    refine Nat.lt_of_not_le fun early => ?_
    obtain ⟨found', place⟩ := held
    obtain same | early := Nat.eq_or_lt_of_le early
    · rw [← same, place] at hq
      cases hq
    · have mem := mem_turnsOf_take place early
      dsimp only at mem
      rw [hb] at mem
      exact j.subscribe_of_mem_coming (List.mem_of_mem_take mem) c rfl
  | @tell j answers pongs left recounted held =>
    rw [Frame.online?_ofUsersOnline] at number
    cases number
    rw [List.append_cons] at hb
    obtain ⟨c, hc, counted, first⟩ := exists_place _ hb
    obtain ⟨u, hu, lets⟩ := does_of_mem (t := ⟨task, left, .unsubscribe j.slot.id⟩)
      (first ▸ List.mem_append_right _ List.mem_cons_self)
    exact ⟨c, 0, serves, .leaving hu hc lets counted does⟩

/-- **The connections add up**: those that are held now and those that were removed since some
were counted are those that were counted and those that were subscribed since. -/
theorem Reachable.accounts {c task : Nat} {found : Service Memory}
    (h : f.log[c]? = some (.turn ⟨task, found, .activeCount⟩)) :
    f.hub.activeCount + (Hub.removals (events (f.log.drop c))).length
      = found.hub.activeCount + (Hub.subscriptions (events (f.log.drop c))).length := by
  have run := reach.runs
  have now := run.connections.conserved.length_eq
  have parts : events f.log = events (f.log.take c)
      ++ .counted found.hub.activeCount :: events (f.log.drop (c + 1)) := by
    conv_lhs => rw [split_at h, events_append]
    rfl
  have since : events (f.log.drop c)
      = .counted found.hub.activeCount :: events (f.log.drop (c + 1)) := by
    obtain ⟨hlt, same⟩ := List.getElem?_eq_some_iff.1 h
    rw [List.drop_eq_getElem_cons hlt, same]
    rfl
  have counted := run.delivers_exactly.counted _ _ _ parts
  rw [parts, ← since] at now
  unfold Hub.subscriptions Hub.removals at *
  simp only [List.filterMap_append, List.flatMap_append, List.length_append, List.length_map]
    at now counted
  show f.hub.slots.length + _ = _
  omega

end Reachable

/-! ## What a client is sent -/

section Sent

variable {log : List Moment} {task : Nat}

/-- What a task writes to its client, turn by turn. -/
theorem flatMap_shownBy (log : List Moment) (task : Nat) :
    log.flatMap (·.shownBy task) = (turnsOf log task).flatMap (·.shown) := by
  induction log with
  | nil => rfl
  | cons m log ih =>
    rw [← List.singleton_append, turnsOf_append, List.flatMap_append, List.flatMap_append, ih]
    congr 1
    rw [List.flatMap_singleton]
    cases m with
    | turn t => by_cases own : t.task = task <;> simp [Moment.shownBy, turnsOf, Moment.turn?, own]
    | _ => rfl

end Sent

section Held

variable {f : Feed} (reach : f.Reachable) {before after : List Moment} {task : Nat}
  {found : Service Memory} {slot : Slot Nat}
  (split : f.log = before ++ .turn ⟨task, found, .subscribe slot.client⟩ :: after)
  (number : found.hub.nextId = slot.id)

include split number

/-- What is observed of the hub, with a subscription in the middle. -/
theorem events_split : events f.log = (events before ++ [.numbered slot])
    ++ .subscribed slot :: events after := by
  obtain ⟨id, client⟩ := slot
  subst number
  rw [split, events_append, List.append_assoc]
  rfl

include reach

/-- **A client that is held** is sent what is swept from then on. -/
theorem Reachable.swept (held : slot ∈ f.hub.slots) :
    (∀ m ∈ before, m.events.flatMap (·.writtenTo slot.id) = [])
      ∧ after.flatMap (fun m => m.events.flatMap (·.writtenTo slot.id))
        = Hub.swept (events after) := by
  have parts := events_split split number
  have run := reach.runs
  rw [parts] at run
  obtain ⟨w₀, earlier⟩ := run.split
  have none := earlier.written_of_absent run.fresh
  -- it is held, so it was never removed
  have kept : ∀ e ∈ events after, slot.id ∉ e.removed := by
    intro e he removed
    have live := Hub.mem_live.1 (List.mem_map_of_mem (f := (·.id)) (run.perm_live.mem_iff.1 held))
    exact live.2 (List.mem_flatMap.2 ⟨e, List.mem_append_right _ (.tail _ he), removed⟩)
  have all : (events after).takeWhile (fun e => slot.id ∉ e.removed) = events after :=
    List.takeWhile_eq_self_iff.2 fun e he => decide_eq_true (kept e he)
  have written := run.written_eq
  rw [all] at written
  unfold Hub.written at none written
  rw [List.flatMap_append, none, List.nil_append, List.flatMap_cons] at written
  rw [List.flatMap_append] at none
  constructor
  · have early := (List.append_eq_nil_iff.1 none).1
    rw [events, List.flatMap_assoc] at early
    exact List.flatMap_eq_nil_iff.1 early
  · rw [← List.flatMap_assoc]
    exact written

omit number in
/-- After it joined a client is only answered by the task that serves it, which tells no
number. -/
theorem Reachable.answered {client : Nat} (serves : f.Serves task client) {t : Turn}
    (ht : t ∈ turnsOf after task) : t.shown.filterMap Frame.online? = [] := by
  obtain ⟨x, y, later⟩ := List.append_of_mem ht
  have place : turnsOf f.log task = (turnsOf before task
      ++ ⟨task, found, .subscribe slot.client⟩ :: x) ++ t :: y := by
    rw [split, turnsOf_turn before after ⟨task, found, .subscribe slot.client⟩, later,
      List.append_assoc, List.cons_append]
  have course := reach.course serves place
  obtain ⟨-, j, joined⟩ := (reach.course serves
    (place.trans (List.append_assoc ..))).subscribe_eq
  rw [joined] at course
  unfold Turn.shown
  generalize t.effect = e at course
  cases e with
  | write c payload =>
    obtain few | rfl := course.write
    · simp [Joining.coming] at few
    · show ["pong"].filterMap Frame.online? = []
      decide
  | _ => rfl

/-- **A client that is held was told** how many are online when it joined, and whatever was
announced in a sweep from then on. -/
theorem Reachable.told_eq {client : Nat} (serves : f.Serves task client)
    (held : slot ∈ f.hub.slots) :
    ∃ j : Joining client, turnsOf before task = j.coming task ∧ f.told? task slot.id
      = (j.online :: (Hub.swept (events after)).filterMap Frame.online?).getLast? := by
  obtain ⟨early, late⟩ := reach.swept split number held
  have place : turnsOf f.log task
      = turnsOf before task ++ ⟨task, found, .subscribe slot.client⟩ :: turnsOf after task := by
    rw [split]
    exact turnsOf_turn before after ⟨task, found, .subscribe slot.client⟩
  obtain ⟨-, j, joined⟩ := (reach.course serves place).subscribe_eq
  refine ⟨j, joined, ?_⟩
  have first : (before.flatMap (·.sentTo task slot.id)) = [j.snapshot.text] := by
    have own : before.flatMap (·.sentTo task slot.id) = before.flatMap (·.shownBy task) :=
      List.flatMap_congr fun m hm => by rw [Moment.sentTo, early m hm, List.append_nil]
    rw [own, flatMap_shownBy, joined]
    rfl
  have silent : Moment.sentTo task slot.id (.turn ⟨task, found, .subscribe slot.client⟩) = [] := by
    simp [Moment.sentTo, Moment.shownBy, Turn.shown, Moment.events, Hub.Event.writtenTo]
  have rest : (after.flatMap (·.sentTo task slot.id)).filterMap Frame.online?
      = (Hub.swept (events after)).filterMap Frame.online? := by
    have quiet : (after.flatMap (·.shownBy task)).filterMap Frame.online? = [] := by
      rw [flatMap_shownBy, List.filterMap_flatMap]
      exact List.flatMap_eq_nil_iff.2 fun t ht => reach.answered split serves ht
    rw [List.filterMap_flatMap] at quiet
    rw [← late, List.filterMap_flatMap, List.filterMap_flatMap]
    refine List.flatMap_congr fun m hm => ?_
    rw [Moment.sentTo, List.filterMap_append, List.flatMap_eq_nil_iff.1 quiet m hm,
      List.nil_append]
  have snapshot : [j.snapshot.text].filterMap Frame.online? = [j.online] := by
    rw [List.filterMap_cons_some (Frame.online?_text j.snapshot)]
    rfl
  unfold told? Feed.sentTo
  rw [split, List.flatMap_append, List.flatMap_cons, first, silent, List.nil_append,
    List.filterMap_append, rest, snapshot]
  rfl

end Held

/-! ## What is announced -/

theorem swept_append (before after : List Moment) :
    Hub.swept (events (before ++ after))
      = Hub.swept (events before) ++ Hub.swept (events after) := by
  rw [events_append, Hub.swept, Hub.takenUp, List.filterMap_append, List.filterMap_append]
  rfl

/-- What is queued, moment by moment. -/
theorem broadcasts_events (log : List Moment) :
    Hub.broadcasts (events log) = log.filterMap (·.broadcast?) := by
  have one (m : Moment) :
      (m.events.filterMap (·.queued?)).filterMap (·.payload?) = m.broadcast?.toList := by
    cases m with
    | turn t =>
      obtain ⟨task, found, e⟩ := t
      cases e <;> rfl
    | _ => rfl
  unfold Hub.broadcasts Hub.enqueued events
  rw [List.filterMap_flatMap, List.filterMap_flatMap, List.filterMap_eq_flatMap_toList]
  exact List.flatMap_congr fun m _ => one m

/-- The last that is announced stands behind all others. -/
theorem exists_last_announced {log : List Moment} {v : Nat}
    (h : (log.filterMap (·.announced?)).getLast? = some v) :
    ∃ (q : Nat) (m : Moment), log[q]? = some m ∧ m.announced? = some v
      ∧ ∀ k m', q < k → log[k]? = some m' → m'.announced? = none := by
  induction log using List.reverseRecOn with
  | nil => cases h
  | append_singleton log m ih =>
    rw [List.filterMap_append] at h
    cases last : m.announced? with
    | some n =>
      rw [List.filterMap_cons_some last, List.filterMap_nil, List.getLast?_concat] at h
      cases h
      refine ⟨log.length, m, List.getElem?_concat_length, last, fun k m' hk hm' => ?_⟩
      have := (List.getElem?_eq_some_iff.1 hm').1
      rw [List.length_append, List.length_singleton] at this
      omega
    | none =>
      rw [List.filterMap_cons_none last, List.filterMap_nil, List.append_nil] at h
      obtain ⟨q, m₁, hq, announced, others⟩ := ih h
      have hlt := (List.getElem?_eq_some_iff.1 hq).1
      refine ⟨q, m₁, (List.getElem?_append_left hlt).trans hq, announced, fun k m' hk hm' => ?_⟩
      by_cases inside : k < log.length
      · exact others k m' hk ((List.getElem?_append_left inside).symm.trans hm')
      · rw [List.getElem?_append_right (Nat.le_of_not_lt inside)] at hm'
        have := List.mem_of_getElem? hm'
        rw [List.mem_singleton.1 this]
        exact last

theorem getLast?_announced {log : List Moment} {q v : Nat} {m : Moment} (hq : log[q]? = some m)
    (announced : m.announced? = some v)
    (last : ∀ k m', q < k → log[k]? = some m' → m'.announced? = none) :
    (log.filterMap (·.announced?)).getLast? = some v := by
  have rest : (log.drop (q + 1)).filterMap (·.announced?) = [] := by
    refine List.filterMap_eq_nil_iff.2 fun m' hm' => ?_
    obtain ⟨k, hk⟩ := List.getElem?_of_mem hm'
    rw [List.getElem?_drop] at hk
    exact last _ m' (by omega) hk
  rw [split_at hq, List.filterMap_append, List.filterMap_cons_some announced, rest,
    List.getLast?_concat]

/-- What is announced is told by the payloads that are queued. -/
theorem announced_eq (log : List Moment) : log.filterMap (·.announced?)
    = (Hub.broadcasts (events log)).filterMap Frame.online? := by
  rw [broadcasts_events, List.filterMap_filterMap]
  rfl

section Announced

variable {f : Feed} (reach : f.Reachable) {task : Nat} {slot : Slot Nat}

include reach

/-- Whoever had a client held serves it. -/
theorem Reachable.serves_of_subscribed {found : Service Memory} {client : Nat}
    (subscribed : .turn ⟨task, found, .subscribe client⟩ ∈ f.log) :
    ∃ client, f.Serves task client := by
  obtain serves | apart := reach.serves_or_apart task
  · exact serves
  · exact (apart _ (mem_turnsOf.2 ⟨subscribed, rfl⟩)).elim

/-- **What a client was told last was announced**, by whoever it was. -/
theorem Reachable.told (holds : f.Holds task slot) :
    ∃ v announcer c q own, f.told? task slot.id = some v ∧ Announces f.log announcer c q own v := by
  obtain ⟨held, found, subscribed, number⟩ := holds
  obtain ⟨client, serves⟩ := reach.serves_of_subscribed subscribed
  obtain ⟨before, after, split⟩ := List.append_of_mem subscribed
  obtain ⟨j, joined, told⟩ := reach.told_eq split number serves held
  have known {q v : Nat} {m : Moment} (hq : f.log[q]? = some m) (hv : m.announced? = some v)
      (last : f.told? task slot.id = some v) : ∃ v announcer c q own,
        f.told? task slot.id = some v ∧ Announces f.log announcer c q own v := by
    obtain ⟨announcer, _, c, own, -, announces⟩ := reach.announces hq hv
    exact ⟨v, announcer, c, q, own, last, announces⟩
  cases hS : ((Hub.swept (events after)).filterMap Frame.online?).getLast? with
  | none =>
    rw [List.getLast?_eq_none_iff.1 hS] at told
    have early : before = f.log.take before.length := by rw [split, List.take_left]
    rw [early] at joined
    obtain ⟨q, -, hq, -⟩ := exists_place ((j.coming task).take 3) joined
    exact known hq (Moment.announced?_ofUsersOnline task j.online j.announced) told
  | some v =>
    obtain ⟨payload, swept, number⟩ := List.mem_filterMap.1 (List.mem_of_getLast? hS)
    have queued : payload ∈ Hub.broadcasts (events f.log) := by
      refine (reach.runs.takenUp_prefix.filterMap _).subset ?_
      show payload ∈ Hub.swept (events f.log)
      rw [split, List.append_cons, swept_append]
      exact List.mem_append_right _ swept
    rw [broadcasts_events] at queued
    obtain ⟨m, hm, queued⟩ := List.mem_filterMap.1 queued
    obtain ⟨q, hq⟩ := List.getElem?_of_mem hm
    refine known hq (Option.bind_eq_some_iff.2 ⟨payload, queued, number⟩) ?_
    rw [told, List.getLast?_cons, hS]
    rfl

/-- Nothing stops the delivery. -/
theorem Reachable.working : f.hub.stopped = false := by
  induction reach with
  | @new s _ _ hub =>
    show s.hub.stopped = false
    rw [hub]
    rfl
  | @step f _ reach step ih =>
    cases step with
    | act => exact (Effect.stopped_handle _ _).trans ih
    | finish writes _ next =>
      obtain ⟨clients, same⟩ := Service.finishSweep_eq writes next
      show (f.pool.service.finishSweep writes).hub.stopped = false
      rw [same]
      exact ih
    | @around s aside =>
      show s.hub.stopped = false
      rw [aside.hub]
      exact ih
    | start | begin => exact ih

/-- **When the queue is drained**, all that was queued was swept. -/
theorem Reachable.swept_eq (drained : f.Drained) :
    Hub.swept (events f.log) = Hub.broadcasts (events f.log) := by
  cases reach.runs.waiting with
  | idle _ _ fifo =>
    dsimp only at fifo
    rw [drained.queue, List.append_nil] at fifo
    rw [Hub.broadcasts, fifo]
    rfl
  | busy _ busy => exact absurd busy (ne_true_of_eq_false drained.free)
  | stopped off => exact absurd off (ne_true_of_eq_false reach.working)

/-- What was queued after some moment was not swept before it. -/
theorem Reachable.queued_since {before after : List Moment} {m : Moment}
    (split : f.log = before ++ m :: after)
    (whole : Hub.swept (events f.log) = Hub.broadcasts (events f.log)) :
    after.filterMap (·.broadcast?) <:+ Hub.swept (events after) := by
  obtain ⟨g, g', reached, -, step, more⟩ := reach.at split
  have earlier := (reached.step step).runs.takenUp_prefix.filterMap (·.payload?)
  rw [more] at earlier
  obtain ⟨left, parts⟩ := earlier
  rw [split, List.append_cons, swept_append, broadcasts_events, List.filterMap_append,
    ← broadcasts_events] at whole
  refine ⟨left, ?_⟩
  change Hub.swept (events (before ++ [m])) ++ left
    = Hub.broadcasts (events (before ++ [m])) at parts
  rw [← parts, List.append_assoc] at whole
  exact (List.append_cancel_left whole).symm

/-- Whatever was queued later than some moment was swept later. -/
theorem Reachable.swept_of_queued {before after : List Moment} {m : Moment} {q b : Nat}
    {found : Service Memory} {payload : String} (split : f.log = before ++ m :: after)
    (whole : Hub.swept (events f.log) = Hub.broadcasts (events f.log)) (late : before.length < q)
    (hq : f.log[q]? = some (.turn ⟨b, found, .broadcast payload⟩)) :
    payload ∈ Hub.swept (events after) := by
  have behind : .turn ⟨b, found, .broadcast payload⟩ ∈ after := by
    rw [split, List.append_cons, List.getElem?_append_right
      (by rwa [List.length_append, List.length_singleton])] at hq
    exact List.mem_of_getElem? hq
  exact (reach.queued_since split whole).subset (List.mem_filterMap.2 ⟨_, behind, rfl⟩)

/-- **All clients were told the number that was announced last**, if since it was counted
nobody else joined. -/
theorem Reachable.told_last (drained : f.Drained) {announcer c q own v : Nat}
    (announces : Announces f.log announcer c q own v)
    (last : ∀ k m, q < k → f.log[k]? = some m → m.announced? = none)
    (alone : ∀ s t client, c < s → f.log[s]? = some (.turn t) → t.effect = .subscribe client →
      t.task = announcer)
    (holds : f.Holds task slot) : f.told? task slot.id = some v := by
  obtain ⟨held, found, subscribed, number⟩ := holds
  obtain ⟨client, serves⟩ := reach.serves_of_subscribed subscribed
  obtain ⟨before, after, split⟩ := List.append_of_mem subscribed
  obtain ⟨j, joined, told⟩ := reach.told_eq split number serves held
  obtain ⟨found', hq⟩ := announces.queue
  have announced := Moment.announced?_ofUsersOnline announcer v found'
  have whole := reach.swept_eq drained
  have final : (f.log.filterMap (·.announced?)).getLast? = some v :=
    getLast?_announced hq announced last
  rw [announced_eq, ← whole, split, List.append_cons, swept_append, List.filterMap_append,
    List.getLast?_append] at final
  rw [told, List.getLast?_cons]
  cases hS : ((Hub.swept (events after)).filterMap Frame.online?).getLast? with
  | some n =>
    -- what was swept last was announced last
    rw [hS] at final
    exact final
  | none =>
    have early : f.log.take before.length = before := by rw [split, List.take_left]
    have place : f.log[before.length]? = some (.turn ⟨task, found, .subscribe slot.client⟩) := by
      rw [split, List.getElem?_append_right (Nat.le_refl _), Nat.sub_self]
      rfl
    have apart : before.length ≠ q := fun same => by
      rw [same, hq] at place
      cases place
    have before_joined : q < before.length := by
      refine Nat.lt_of_le_of_ne (Nat.le_of_not_lt fun late => ?_) apart.symm
      -- what was queued since was swept since, so it would have been told
      have swept := reach.swept_of_queued split whole late hq
      have told := List.mem_filterMap.2 ⟨_, swept, Frame.online?_ofUsersOnline v⟩
      rw [List.getLast?_eq_none_iff.1 hS] at told
      cases told
    -- nobody else joined since, so the client was shown the number by its own task
    obtain rfl : task = announcer :=
      alone before.length _ slot.client (Nat.lt_trans announces.inOrder before_joined) place rfl
    have own := mem_turnsOf_take hq before_joined
    rw [early] at own
    dsimp only at own
    rw [joined] at own
    have same := congrArg Frame.online? (j.payload_of_mem_coming own)
    rw [Frame.online?_ofUsersOnline, Frame.online?_ofUsersOnline] at same
    exact same.symm

end Announced

end Feed

end RewardLedger
