import RewardLedger.Proofs.Feed.Told

/-!
# What a joining client misses

A client that joins is shown the latest incomes, as its task read them some turns before, and is
written what is swept once it is held. A credit is put into the latest incomes first, is queued
then, and swept later. So it takes two comparisons to see whether the client gets to know of it.
The snapshot lists the credit if it was put there before the incomes were read. And the sweep
writes it to the client if it begins when the client is held. Between reading and holding there
are two more turns of the task, and if a credit is remembered, queued and swept within them the
client gets neither.

One payload may be queued more than once, so the sweep that delivers what was queued at some
place is told by counting: the queue is served in order, so it is the one before which as many
sweeps began as payloads were queued before that place.
-/

namespace RewardLedger

open Api.Connection

/-- The payload whose sweep begins. -/
def Moment.swept? : Moment → Option String
  | began payload _ => some payload
  | _ => none

/-- Only one effect puts something into the latest incomes. -/
theorem Moment.mem_remembered {m : Moment} {n : IncomeNotice} :
    n ∈ m.remembered ↔ ∃ task found, m = .turn ⟨task, found, .cache (.remember n)⟩ := by
  constructor
  · intro listed
    cases m with
    | turn t =>
      obtain ⟨task, found, e⟩ := t
      cases e with
      | cache op =>
        cases op with
        | remember n' =>
          cases List.mem_singleton.1 listed
          exact ⟨task, found, rfl⟩
        | _ => cases listed
      | _ => cases listed
    | _ => cases listed
  · rintro ⟨task, found, rfl⟩
    exact List.mem_singleton.2 rfl

/-! ## Counting in a list -/

section Count

variable {α β : Type} {l : List α} {g : α → Option β}

/-- What is chosen at a place stands behind what was chosen before. -/
theorem getElem?_filterMap_of_place {i : Nat} {a : α} {b : β} (h : l[i]? = some a)
    (chosen : g a = some b) : (l.filterMap g)[((l.take i).filterMap g).length]? = some b := by
  have whole : l.filterMap g = (l.take i).filterMap g ++ b :: (l.drop (i + 1)).filterMap g := by
    conv_lhs => rw [Feed.split_at h]
    rw [List.filterMap_append, List.filterMap_cons_some chosen]
  rw [whole, List.getElem?_append_right (Nat.le_refl _), Nat.sub_self]
  rfl

/-- Whatever is chosen has a place. -/
theorem exists_place_of_lt {n : Nat} (h : n < (l.filterMap g).length) :
    ∃ i a, l[i]? = some a ∧ (g a).isSome ∧ ((l.take i).filterMap g).length = n := by
  induction l using List.reverseRecOn with
  | nil => cases h
  | append_singleton l a ih =>
    by_cases inside : n < (l.filterMap g).length
    · obtain ⟨i, b, hi, chosen, before⟩ := ih inside
      have hlt := (List.getElem?_eq_some_iff.1 hi).1
      refine ⟨i, b, (List.getElem?_append_left hlt).trans hi, chosen, ?_⟩
      rwa [List.take_append_of_le_length (Nat.le_of_lt hlt)]
    · rw [List.filterMap_append, List.length_append] at h
      refine ⟨l.length, a, List.getElem?_concat_length, ?_, ?_⟩
      · cases chosen : g a with
        | some b => rfl
        | none =>
          rw [List.filterMap_cons_none chosen] at h
          exact absurd h inside
      · rw [List.take_left]
        have := List.length_filterMap_le g [a]
        rw [List.length_singleton] at this
        omega

end Count

namespace Feed

/-- What is swept, moment by moment. -/
theorem swept_events (log : List Moment) : Hub.swept (events log) = log.filterMap (·.swept?) := by
  have one (m : Moment) :
      (m.events.filterMap (·.taken?)).filterMap (·.payload?) = m.swept?.toList := by
    cases m with
    | turn t =>
      obtain ⟨task, found, e⟩ := t
      cases e <;> rfl
    | _ => rfl
  unfold Hub.swept Hub.takenUp events
  rw [List.filterMap_flatMap, List.filterMap_flatMap, List.filterMap_eq_flatMap_toList]
  exact List.flatMap_congr fun m _ => one m

/-! ## Joining and publishing -/

section Log

variable (log : List Moment)

/-- **A client joins**: the task that serves it reads the latest incomes at one place of the log,
and has the client held at another. -/
structure Joins (task : Nat) (slot : Slot Nat) (looked held : Nat) : Prop where
  looks : Does log task looked (.cache .latest)
  holds : ∃ found, log[held]? = some (.turn ⟨task, found, .subscribe slot.client⟩)
    ∧ found.hub.nextId = slot.id

/-- **A credit is published**: a task puts it into the latest incomes at one place of the log, and
queues it for all clients at a later one. -/
structure Publishes (n : IncomeNotice) (remembered queued : Nat) : Prop where
  inOrder : remembered < queued
  publisher : ∃ task, Does log task remembered (.cache (.remember n))
    ∧ Does log task queued (.broadcast n.payload)

/-- **The sweep that begins at a place delivers what was queued at another**, since as many sweeps
began before it as payloads were queued before that. -/
structure Sweeps (queued began : Nat) : Prop where
  begins : ∃ payload slots, log[began]? = some (.began payload slots)
  inTurn : ((log.take began).filterMap (·.swept?)).length
    = ((log.take queued).filterMap (·.broadcast?)).length

/-- Every write of a sweep to the connection of a number succeeded. -/
def Takes (id : Nat) : Prop :=
  ∀ payload writes, .ended payload writes ∈ log → ∀ w ∈ writes, w.1.id = id → w.2.Succeeded

/-- **A client gets to know of a credit**, whose sweep begins at some place. -/
inductive Reaches (task : Nat) (slot : Slot Nat) (n : IncomeNotice) (began : Nat) : Prop
  /-- It is shown to the client when it joins, and the client took that. -/
  | shown (j : Joining slot.client) (joined : j.coming task <+: turnsOf log task)
    (listed : n ∈ j.looked.cache.latest)
  /-- The sweep writes it to the client. -/
  | delivered {slots : List (Slot Nat)} (sweep : log[began]? = some (.began n.payload slots))
    (held : slot ∈ slots)

end Log

section Reachable

variable {f : Feed} (reach : f.Reachable)

include reach

/-- **A connection is known by its number**: it is given to one turn only. -/
theorem Reachable.number_unique {a b c d i k : Nat} {found found' : Service Memory}
    (first : f.log[i]? = some (.turn ⟨a, found, .subscribe c⟩))
    (second : f.log[k]? = some (.turn ⟨b, found', .subscribe d⟩))
    (same : found.hub.nextId = found'.hub.nextId) : i = k := by
  have below {a b c d i k : Nat} {found found' : Service Memory}
      (first : f.log[i]? = some (.turn ⟨a, found, .subscribe c⟩))
      (second : f.log[k]? = some (.turn ⟨b, found', .subscribe d⟩)) (early : i < k) :
      found.hub.nextId < found'.hub.nextId := by
    obtain ⟨g, reached, hg, rfl⟩ := reach.found (split_at second)
    refine reached.runs.connections.below ⟨found.hub.nextId, c⟩ (List.mem_append_left _ ?_)
    exact mem_subscriptions.2 ⟨a, found, hg ▸ mem_take_of_place first early, rfl⟩
  obtain early | equal | late := Nat.lt_trichotomy i k
  · exact absurd same (Nat.ne_of_lt (below first second early))
  · exact equal
  · exact absurd same (Nat.ne_of_gt (below second first late))

/-- The room for the latest incomes stays the same. -/
theorem Reachable.capacity {t : Turn} (ht : .turn t ∈ f.log) :
    t.found.cache.capacity = f.pool.service.cache.capacity := by
  induction reach with
  | new => cases ht
  | @step f _ reach step ih =>
    cases step with
    | start => exact ih ht
    | @act n α began e next calls free =>
      have same : (f.pool.service.handle Memory.answer e).2.cache.capacity
          = f.pool.service.cache.capacity := by
        rw [Effect.cache_handle]
        cases e with
        | cache op => exact RateCache.capacity_answer _ op
        | _ => rfl
      obtain ht | ht := List.mem_append.1 ht
      · exact (ih ht).trans same.symm
      · cases List.mem_singleton.1 ht
        exact same.symm
    | begin =>
      obtain ht | ht := List.mem_append.1 ht
      · exact ih ht
      · cases List.mem_singleton.1 ht
    | finish writes _ next =>
      obtain ⟨clients, same⟩ := Service.finishSweep_eq writes next
      obtain ht | ht := List.mem_append.1 ht
      · exact (ih ht).trans (congrArg (·.cache.capacity) same).symm
      · cases List.mem_singleton.1 ht
    | around aside => exact (ih ht).trans aside.capacity.symm

/-! ## Sweeps -/

/-- What is swept is what was queued, in that order. -/
theorem Reachable.swept_prefix : f.log.filterMap (·.swept?) <+: f.log.filterMap (·.broadcast?) := by
  have taken := reach.runs.takenUp_prefix.filterMap (·.payload?)
  change Hub.swept (events f.log) <+: Hub.broadcasts (events f.log) at taken
  rwa [swept_events, broadcasts_events] at taken

/-- **A sweep writes the payload that it delivers.** -/
theorem Reachable.payload_eq {publisher queued began : Nat} {payload payload' : String}
    {slots : List (Slot Nat)} (queues : Does f.log publisher queued (.broadcast payload))
    (sweeps : Sweeps f.log queued began)
    (begins : f.log[began]? = some (.began payload' slots)) : payload' = payload := by
  obtain ⟨found, place⟩ := queues
  have put := getElem?_filterMap_of_place (g := (·.broadcast?)) place rfl
  have taken := getElem?_filterMap_of_place (g := (·.swept?)) begins rfl
  rw [sweeps.inTurn] at taken
  obtain ⟨rest, parts⟩ := reach.swept_prefix
  have inside := (List.getElem?_eq_some_iff.1 taken).1
  rw [← parts, List.getElem?_append_left inside, taken] at put
  exact Option.some.inj put

/-- A sweep writes to the connections that are held when it begins. -/
theorem Reachable.receivers {k : Nat} {payload : String} {slots : List (Slot Nat)}
    (begins : f.log[k]? = some (.began payload slots)) :
    slots.Perm (Hub.live (events (f.log.take k))) := by
  have parts : events f.log = events (f.log.take k)
      ++ .began payload slots :: events (f.log.drop (k + 1)) := by
    conv_lhs => rw [split_at begins, events_append]
    rfl
  exact reach.runs.delivers_exactly.receivers _ _ _ _ parts

/-- **When the queue is drained**, a sweep began for everything that was queued. -/
theorem Reachable.exists_sweeps (drained : f.Drained) {publisher queued : Nat} {payload : String}
    (queues : Does f.log publisher queued (.broadcast payload)) :
    ∃ began, Sweeps f.log queued began := by
  obtain ⟨found, place⟩ := queues
  have put := getElem?_filterMap_of_place (g := (·.broadcast?)) place rfl
  have inside := (List.getElem?_eq_some_iff.1 put).1
  have whole := reach.swept_eq drained
  rw [swept_events, broadcasts_events] at whole
  rw [← whole] at inside
  obtain ⟨began, m, begins, swept, before⟩ := exists_place_of_lt inside
  cases m with
  | began payload slots => exact ⟨began, ⟨payload, slots, begins⟩, before⟩
  | _ => cases swept

/-- **Every call that credited published** the income that it returned. -/
theorem Reachable.publishes {task : Nat} {began : Program Effect Effect.Reply (Outcome Income)}
    {income : Income} (call : Crediting.Call began)
    (returned : f.pool.tasks[task]? = some ⟨_, began, .done (.ok income)⟩) :
    ∃ (receipt : Receipt) (i k : Nat), receipt.income = income
      ∧ Publishes f.log (.ofReceipt receipt) i k := by
  have follows := (reach.history.follows returned).2
  change began.Follows (turnsOf f.log task) (.done (.ok income)) at follows
  obtain ⟨receipt, before, a, b, found, found', same, turns⟩ := call.publishes follows
  have own : a = task ∧ b = task := by
    constructor
    · exact (mem_turnsOf.1 (turns ▸ List.mem_append_right before List.mem_cons_self)).2
    · exact (mem_turnsOf.1 (turns ▸ List.mem_append_right before
        (List.mem_cons_of_mem _ List.mem_cons_self))).2
  obtain ⟨rfl, rfl⟩ := own
  rw [List.append_cons, ← List.take_length (l := f.log)] at turns
  obtain ⟨k, -, queues, before⟩ := exists_place _ turns
  obtain ⟨i, early, remembers, -⟩ := exists_place _ before
  exact ⟨receipt, i, k, same, early, _, ⟨found, remembers⟩, found', queues⟩

/-! ## Joining -/

section Joins

variable {task looked held : Nat} {slot : Slot Nat} (joins : Joins f.log task slot looked held)

include joins

theorem Reachable.serves_of_joins : f.Serves task slot.client := by
  obtain ⟨found, place, -⟩ := joins.holds
  obtain ⟨client, serves⟩ := reach.serves_of_does ⟨found, place⟩ not_false
  obtain ⟨rfl, -⟩ := (reach.course_at serves ⟨found, place⟩).subscribe_eq
  exact serves

/-- Whoever joined was shown what its task read. -/
theorem Reachable.looked_eq {j : Joining slot.client}
    (joined : j.coming task <+: turnsOf f.log task) :
    f.log[looked]? = some (.turn ⟨task, j.looked, .cache .latest⟩) := by
  obtain ⟨found, place⟩ := joins.looks
  have whole := turnsOf_at place
  have course := reach.course_at (reach.serves_of_joins joins) ⟨found, place⟩
  dsimp only at whole
  generalize turnsOf (f.log.take looked) task = before at whole course
  cases course with
  | look counted =>
    obtain ⟨rest, parts⟩ := joined
    rw [whole] at parts
    injection parts with _ parts
    injection parts with same _
    rw [same]
    exact place

/-- Whoever is held has joined. -/
theorem Reachable.exists_joined :
    ∃ j : Joining slot.client, j.coming task <+: turnsOf f.log task := by
  obtain ⟨found, place, -⟩ := joins.holds
  have course := reach.course_at (reach.serves_of_joins joins) ⟨found, place⟩
  obtain ⟨-, j, coming⟩ := course.subscribe_eq
  refine ⟨j, coming ▸ ?_⟩
  rw [turnsOf_at place]
  exact List.prefix_append _ _

/-- **A client is let go by the task that serves it**, and by nobody else. -/
theorem Reachable.unsubscribed_by {b u : Nat} (lets : Does f.log b u (.unsubscribe slot.id)) :
    b = task := by
  obtain ⟨found, place, number⟩ := joins.holds
  obtain ⟨client, serves⟩ := reach.serves_of_does lets not_false
  obtain ⟨j, answers, staying, id, -⟩ := (reach.course_at serves lets).unsubscribe_eq
  obtain ⟨k, -, held, -⟩ := exists_place _ staying
  obtain rfl := reach.number_unique held place (id.symm.trans number.symm)
  exact Does.task_eq ⟨_, held⟩ ⟨_, place⟩

/-- A client is held from its subscription on, up to where it is let go, if it takes everything
that is written to it. -/
theorem Reachable.live_of_joins (takes : Takes f.log slot.id) {k : Nat} (late : held < k)
    (stays : ∀ u, Does f.log task u (.unsubscribe slot.id) → k ≤ u) :
    slot ∈ Hub.live (events (f.log.take k)) := by
  obtain ⟨found, place, number⟩ := joins.holds
  have before := mem_take_of_place place late
  refine List.mem_filter.2 ⟨mem_subscriptions.2 ⟨task, found, before, number⟩, ?_⟩
  refine decide_eq_true fun removed => ?_
  obtain ⟨b, found, lets, -⟩ | ⟨payload, writes, ended, w, hw, same, failed⟩ :=
    exists_of_mem_removals removed
  · obtain ⟨u, inside, hu⟩ := exists_place_of_mem_take lets
    obtain rfl := reach.unsubscribed_by joins ⟨found, hu⟩
    exact absurd (stays u ⟨found, hu⟩) (Nat.not_le_of_lt inside)
  · exact failed (takes payload writes (List.mem_of_mem_take ended) w hw same)

/-- Nobody is held before. -/
theorem Reachable.not_live_of_joins {k : Nat} (early : k ≤ held) :
    slot ∉ Hub.live (events (f.log.take k)) := by
  intro live
  obtain ⟨found, place, number⟩ := joins.holds
  obtain ⟨b, found', before, number'⟩ := mem_subscriptions.1 (List.mem_filter.1 live).1
  obtain ⟨i, inside, hi⟩ := exists_place_of_mem_take before
  have := reach.number_unique hi place (number'.trans number.symm)
  omega

/-- **The snapshot lists what was put into the latest incomes** before they were read, if there
is room for all of it. -/
theorem Reachable.mem_snapshot
    (room : (remembered f.log).length ≤ f.pool.service.cache.capacity) {j : Joining slot.client}
    (joined : j.coming task <+: turnsOf f.log task) {n : IncomeNotice} :
    n ∈ j.looked.cache.latest
      ↔ ∃ b i, i < looked ∧ Does f.log b i (.cache (.remember n)) := by
  have place := reach.looked_eq joins joined
  obtain ⟨g, reached, hg, found⟩ := reach.found (split_at place)
  dsimp only at found
  have latest := reached.latest
  rw [hg, found, reach.capacity (List.mem_of_getElem? place), List.take_of_length_le] at latest
  swap
  · have parts := congrArg (List.length ∘ remembered) (List.take_append_drop looked f.log)
    simp only [Function.comp_apply, remembered_append, List.length_append] at parts
    rw [List.length_reverse]
    omega
  rw [latest, List.mem_reverse]
  constructor
  · intro listed
    obtain ⟨m, hm, listed⟩ := List.mem_flatMap.1 listed
    obtain ⟨i, early, hi⟩ := exists_place_of_mem_take hm
    obtain ⟨b, found, rfl⟩ := Moment.mem_remembered.1 listed
    exact ⟨b, i, early, found, hi⟩
  · rintro ⟨b, i, early, found, hi⟩
    exact List.mem_flatMap.2
      ⟨_, mem_take_of_place hi early, Moment.mem_remembered.2 ⟨b, found, rfl⟩⟩

end Joins

end Reachable

/-- **A client that joins finds the credits**, but for those that fall in between. -/
structure FindsCredits (f : Feed) (task : Nat) (slot : Slot Nat) (looked held : Nat) : Prop where
  /-- Whoever credited an income published it. -/
  published : ∀ (publisher : Nat) (began : Program Effect Effect.Reply (Outcome Income))
    (income : Income), Crediting.Call began →
    f.pool.tasks[publisher]? = some ⟨_, began, .done (.ok income)⟩ →
    ∃ (receipt : Receipt) (remembered queued : Nat), receipt.income = income
      ∧ Publishes f.log (.ofReceipt receipt) remembered queued
  /-- When everything is delivered, every credit that was published was swept. -/
  swept : f.Drained → ∀ n remembered queued, Publishes f.log n remembered queued →
    ∃ began, Sweeps f.log queued began
  /-- A credit reaches the client if its sweep begins before the client leaves, unless it was
  remembered after the client's task read the latest incomes, and its sweep began before the
  client was held. -/
  reaches : ∀ n remembered queued began, Publishes f.log n remembered queued →
    Sweeps f.log queued began → (∀ u, Does f.log task u (.unsubscribe slot.id) → began ≤ u) →
    ¬ (looked < remembered ∧ began < held) → Reaches f.log task slot n began
  /-- A credit of that kind does not reach the client, unless another one is just like it. -/
  misses : ∀ n remembered queued began, Publishes f.log n remembered queued →
    Sweeps f.log queued began → looked < remembered → began < held →
    (∀ b i, Does f.log b i (.cache (.remember n)) → i = remembered) →
    ¬ Reaches f.log task slot n began

/-- **A client that joins finds the credits.** Whatever the order in which the turns of its task,
those of the calls that publish credits, and the sweeps take effect: if there is room for all
credits and the client takes everything that is written to it, it gets to know of each credit
whose sweep begins before it leaves, from the snapshot or from the sweep, unless the credit was
remembered after the latest incomes were read for the snapshot and its sweep began before the
client was held. Of such a credit the client is not told. -/
theorem finds_credits {f : Feed} (reach : f.Reachable) {task looked held : Nat} {slot : Slot Nat}
    (joins : Joins f.log task slot looked held) (takes : Takes f.log slot.id)
    (room : (remembered f.log).length ≤ f.pool.service.cache.capacity) :
    f.FindsCredits task slot looked held where
  published _ _ _ call returned := reach.publishes call returned
  swept drained n _ queued published := by
    obtain ⟨publisher, -, queues⟩ := published.publisher
    exact reach.exists_sweeps drained queues
  reaches n i queued began published sweeps stays between := by
    obtain ⟨publisher, remembers, queues⟩ := published.publisher
    obtain ⟨payload, slots, begins⟩ := sweeps.begins
    obtain rfl := reach.payload_eq queues sweeps begins
    obtain ⟨found, place, -⟩ := joins.holds
    by_cases early : i < looked
    · obtain ⟨j, joined⟩ := reach.exists_joined joins
      exact .shown j joined
        ((reach.mem_snapshot joins room joined).2 ⟨publisher, i, early, remembers⟩)
    · have late : held < began := by
        obtain ⟨read, looks⟩ := joins.looks
        obtain ⟨found', remembers⟩ := remembers
        have apart : looked ≠ i := fun same => by
          rw [same, remembers] at looks
          cases looks
        have apart' : began ≠ held := fun same => by
          rw [same, place] at begins
          cases begins
        omega
      refine .delivered begins ?_
      have live := reach.live_of_joins joins takes late stays
      exact (reach.receivers begins).mem_iff.2 live
  misses n i queued began published sweeps late early only := by
    rintro (⟨j, joined, listed⟩ | ⟨begins, receives⟩)
    · obtain ⟨b, k, before, remembers⟩ := (reach.mem_snapshot joins room joined).1 listed
      have := only b k remembers
      omega
    · refine reach.not_live_of_joins joins (Nat.le_of_lt early) ?_
      exact (reach.receivers begins).mem_iff.1 receives

/-! ## One client and one credit -/

/-- If every write succeeded, so did those to one connection. -/
theorem AllTaken.takes {log : List Moment} (taken : AllTaken log) (id : Nat) : Takes log id :=
  fun _ _ ended w hw _ => taken w.2 (List.mem_flatMap.2 ⟨_, ended, List.mem_map_of_mem hw⟩)

/-- A client comes, with a task to serve it, and a partner reports an event. -/
theorem reachable_coming : Reachable
    ⟨⟨{ Service.new (Memory.after .empty [.request (.createUser ⟨"a@x", "addr", none, 300⟩ ⟨0, 0⟩)])
        10 ⟨0, 0⟩ with clients := [.new .prompt] },
      [⟨_, (serve 0 []).run, (serve 0 []).run⟩,
        ⟨_, (Crediting.creditPartner .offertoro "k" 1 100).run,
          (Crediting.creditPartner .offertoro "k" 1 100).run⟩]⟩, false, []⟩ := by
  have store := Memory.Reachable.after .empty
    [.request (.createUser ⟨"a@x", "addr", none, 300⟩ ⟨0, 0⟩)]
  have started := Reachable.new
    (s := { Service.new _ 10 ⟨0, 0⟩ with clients := [.new .prompt] }) store rfl rfl
  exact (started.step (.start (.serve 0 []))).step
    (.start (.apart (Crediting.Call.creditPartner .offertoro "k" 1 100).apart))

/-- **A client joins and leaves, and a credit is published and swept**, all at known places. There
is room for the credit, and every write succeeds. -/
structure Meets (f : Feed) (looked held remembered queued began left : Nat) : Prop where
  reach : f.Reachable
  joins : Joins f.log 0 ⟨1, 0⟩ looked held
  taken : AllTaken f.log
  room : (Feed.remembered f.log).length ≤ f.pool.service.cache.capacity
  publishes : Publishes f.log ⟨"addr", 100, .offertoro, ⟨0, 0⟩⟩ remembered queued
  sweeps : Sweeps f.log queued began
  leaves : Does f.log 0 left (.unsubscribe 1)

/-- What happened before the client left happened before each turn that lets it go. -/
theorem Meets.early {f : Feed} {looked held remembered queued began left k u : Nat}
    (meets : f.Meets looked held remembered queued began left) (early : k < left)
    (lets : Does f.log 0 u (.unsubscribe 1)) : k < u := by
  have serves := meets.reach.serves_of_joins meets.joins
  obtain rfl := meets.reach.unsubscribe_unique serves lets meets.leaves
  exact early

/-- Nothing reaches a client that is shown nothing by a sweep that writes to nobody. -/
theorem Meets.not_reaches {f : Feed} {looked held remembered queued began left : Nat}
    (meets : f.Meets looked held remembered queued began left) {found : Service Memory}
    (read : f.log[looked]? = some (.turn ⟨0, found, .cache .latest⟩))
    (nothing : found.cache.latest = []) {payload : String}
    (nobody : f.log[began]? = some (.began payload [])) :
    ¬ Reaches f.log 0 ⟨1, 0⟩ ⟨"addr", 100, .offertoro, ⟨0, 0⟩⟩ began := by
  rintro (⟨j, joined, listed⟩ | ⟨sweep, receives⟩)
  · have same := meets.reach.looked_eq meets.joins joined
    rw [read] at same
    cases same
    rw [nothing] at listed
    cases listed
  · rw [nobody] at sweep
    cases sweep
    cases receives

/-- The credit is swept while the client is held. -/
theorem meets_while_held : ∃ f : Feed, f.Meets 1 9 5 6 10 12 := by
  have looked := (reachable_coming.step (.act (n := 0) rfl fun _ => rfl)).step
    (.act (n := 0) rfl fun _ => rfl)
  -- the credit is remembered and queued
  have credited := ((looked.step (.act (n := 1) rfl fun _ => rfl)).step
    (.act (n := 1) rfl fun _ => rfl)).step (.act (n := 1) rfl fun _ => rfl)
  have queued := (credited.step (.act (n := 1) rfl fun _ => rfl)).step
    (.act (n := 1) rfl fun _ => rfl)
  have held := ((queued.step (.act (n := 0) rfl fun _ => rfl)).step
    (.act (n := 0) rfl fun _ => rfl)).step (.act (n := 0) rfl fun _ => rfl)
  have swept := (held.step (.begin rfl rfl)).step (.finish [.taken] rfl rfl rfl)
  have left := swept.step (.act (n := 0) rfl fun _ => rfl)
  refine ⟨_, left, ⟨⟨_, rfl⟩, _, rfl, rfl⟩, ?_, ?_, ⟨by decide, 1, ⟨_, rfl⟩, _, rfl⟩,
    ⟨⟨_, _, rfl⟩, rfl⟩, ⟨_, rfl⟩⟩
  · show ∀ v ∈ [.taken], WriteResult.Succeeded v
    decide
  · show 1 ≤ 10
    decide

/-- The credit is remembered and swept before the client is held, and after its task read the
latest incomes. -/
theorem meets_in_between : ∃ f : Feed, f.Meets 1 11 5 6 7 14
    ∧ (∃ found, f.log[1]? = some (.turn ⟨0, found, .cache .latest⟩) ∧ found.cache.latest = [])
    ∧ ∃ payload, f.log[7]? = some (.began payload []) := by
  have looked := (reachable_coming.step (.act (n := 0) rfl fun _ => rfl)).step
    (.act (n := 0) rfl fun _ => rfl)
  have credited := ((looked.step (.act (n := 1) rfl fun _ => rfl)).step
    (.act (n := 1) rfl fun _ => rfl)).step (.act (n := 1) rfl fun _ => rfl)
  have queued := (credited.step (.act (n := 1) rfl fun _ => rfl)).step
    (.act (n := 1) rfl fun _ => rfl)
  have swept := (queued.step (.begin rfl rfl)).step (.finish [] rfl rfl rfl)
  have held := ((swept.step (.act (n := 0) rfl fun _ => rfl)).step
    (.act (n := 0) rfl fun _ => rfl)).step (.act (n := 0) rfl fun _ => rfl)
  have told := (held.step (.begin rfl rfl)).step (.finish [.taken] rfl rfl rfl)
  have left := told.step (.act (n := 0) rfl fun _ => rfl)
  refine ⟨_, ⟨left, ⟨⟨_, rfl⟩, _, rfl, rfl⟩, ?_, ?_, ⟨by decide, 1, ⟨_, rfl⟩, _, rfl⟩,
    ⟨⟨_, _, rfl⟩, rfl⟩, ⟨_, rfl⟩⟩, ⟨_, rfl, rfl⟩, _, rfl⟩
  · show ∀ v ∈ [.taken], WriteResult.Succeeded v
    decide
  · show 1 ≤ 10
    decide

/-- The client is let go after the credit was queued, and before it is swept. -/
theorem meets_on_leaving : ∃ f : Feed, f.Meets 1 4 10 11 13 12
    ∧ (∃ found, f.log[1]? = some (.turn ⟨0, found, .cache .latest⟩) ∧ found.cache.latest = [])
    ∧ ∃ payload, f.log[13]? = some (.began payload []) := by
  have shown := ((reachable_coming.step (.act (n := 0) rfl fun _ => rfl)).step
    (.act (n := 0) rfl fun _ => rfl)).step (.act (n := 0) rfl fun _ => rfl)
  have held := (shown.step (.act (n := 0) rfl fun _ => rfl)).step (.act (n := 0) rfl fun _ => rfl)
  have told := (held.step (.begin rfl rfl)).step (.finish [.taken] rfl rfl rfl)
  have credited := ((told.step (.act (n := 1) rfl fun _ => rfl)).step
    (.act (n := 1) rfl fun _ => rfl)).step (.act (n := 1) rfl fun _ => rfl)
  have queued := (credited.step (.act (n := 1) rfl fun _ => rfl)).step
    (.act (n := 1) rfl fun _ => rfl)
  have left := queued.step (.act (n := 0) rfl fun _ => rfl)
  have swept := (left.step (.begin rfl rfl)).step (.finish [] rfl rfl rfl)
  refine ⟨_, ⟨swept, ⟨⟨_, rfl⟩, _, rfl, rfl⟩, ?_, ?_, ⟨by decide, 1, ⟨_, rfl⟩, _, rfl⟩,
    ⟨⟨_, _, rfl⟩, rfl⟩, ⟨_, rfl⟩⟩, ⟨_, rfl, rfl⟩, _, rfl⟩
  · show ∀ v ∈ [.taken], WriteResult.Succeeded v
    decide
  · show 1 ≤ 10
    decide

/-- A client that is held when a credit is swept finds it, though it was remembered after its
task read the latest incomes. -/
theorem finds_credits_while_held : ∃ f : Feed, f.Reachable ∧ Joins f.log 0 ⟨1, 0⟩ 1 9
    ∧ Takes f.log 1 ∧ (remembered f.log).length ≤ f.pool.service.cache.capacity
    ∧ Publishes f.log ⟨"addr", 100, .offertoro, ⟨0, 0⟩⟩ 5 6 ∧ Sweeps f.log 6 10
    ∧ f.FindsCredits 0 ⟨1, 0⟩ 1 9
    ∧ Reaches f.log 0 ⟨1, 0⟩ ⟨"addr", 100, .offertoro, ⟨0, 0⟩⟩ 10 := by
  obtain ⟨f, meets⟩ := meets_while_held
  have finds := finds_credits meets.reach meets.joins (meets.taken.takes 1) meets.room
  refine ⟨f, meets.reach, meets.joins, meets.taken.takes 1, meets.room, meets.publishes,
    meets.sweeps, finds, ?_⟩
  exact finds.reaches _ 5 6 10 meets.publishes meets.sweeps
    (fun u lets => Nat.le_of_lt (meets.early (by decide) lets)) (by decide)

/-- **Neither condition can be left out.** A credit that is remembered, queued and swept after the
latest incomes were read and before the client is held does not reach it, though it stays much
longer. And one that is queued while the client is held does not reach it if the client leaves
before the sweep begins. -/
theorem not_every_credit_found :
    (¬ ∀ (f : Feed) (task : Nat) (slot : Slot Nat) (looked held : Nat), f.Reachable →
      Joins f.log task slot looked held → Takes f.log slot.id →
      (remembered f.log).length ≤ f.pool.service.cache.capacity →
      ∀ n remembered queued began, Publishes f.log n remembered queued →
        Sweeps f.log queued began → (∀ u, Does f.log task u (.unsubscribe slot.id) → began < u) →
        Reaches f.log task slot n began)
    ∧ ¬ ∀ (f : Feed) (task : Nat) (slot : Slot Nat) (looked held : Nat), f.Reachable →
      Joins f.log task slot looked held → Takes f.log slot.id →
      (remembered f.log).length ≤ f.pool.service.cache.capacity →
      ∀ n remembered queued began, Publishes f.log n remembered queued →
        Sweeps f.log queued began → (∀ u, Does f.log task u (.unsubscribe slot.id) → queued < u) →
        ¬ (looked < remembered ∧ began < held) → Reaches f.log task slot n began := by
  constructor
  · intro found
    obtain ⟨f, meets, ⟨_, read, nothing⟩, _, nobody⟩ := meets_in_between
    refine meets.not_reaches read nothing nobody ?_
    exact found f 0 ⟨1, 0⟩ 1 11 meets.reach meets.joins (meets.taken.takes 1) meets.room _ 5 6 7
      meets.publishes meets.sweeps fun u lets => meets.early (by decide) lets
  · intro found
    obtain ⟨f, meets, ⟨_, read, nothing⟩, _, nobody⟩ := meets_on_leaving
    refine meets.not_reaches read nothing nobody ?_
    exact found f 0 ⟨1, 0⟩ 1 4 meets.reach meets.joins (meets.taken.takes 1) meets.room _ 10 11 13
      meets.publishes meets.sweeps (fun u lets => meets.early (by decide) lets) (by decide)

end Feed

end RewardLedger
