import RewardLedger.Proofs.Hub.Account

/-!
# Deliveries are exact

A payload is written to the connections that are held when its sweep begins, and
those are the ones that were subscribed and not removed before. So what is written
to one connection is a piece of what is swept, from its subscription on until it is
removed, and what is swept is what was broadcast. The places of the connections
never come into it, although each eviction changes them.

A flush waits in the same queue as the payloads. When it is answered, the delivery
has taken up what was queued before it and nothing else, since its ticket stands in
the queue only once.
-/

namespace RewardLedger.Hub

variable {κ : Type} {es : List (Event κ)}

/-! ## What is written to a connection -/

/-- A connection is held if it was subscribed and not removed. -/
theorem mem_live {id : Nat} :
    id ∈ (live es).map (·.id) ↔ id ∈ (subscriptions es).map (·.id) ∧ id ∉ removals es := by
  simp only [live, List.mem_map, List.mem_filter, decide_eq_true_eq]
  constructor
  · rintro ⟨s, ⟨hs, kept⟩, rfl⟩
    exact ⟨⟨s, hs, rfl⟩, kept⟩
  · rintro ⟨⟨s, hs, rfl⟩, kept⟩
    exact ⟨s, ⟨hs, kept⟩, rfl⟩

theorem swept_cons (e : Event κ) (es : List (Event κ)) :
    swept (e :: es) = (e.taken?.bind (·.payload?)).toList ++ swept es := by
  unfold swept takenUp
  rw [List.filterMap_cons]
  cases e.taken? with
  | none => rfl
  | some c => cases c <;> rfl

/-- What is taken up removes no connection. -/
theorem Event.taken?_of_removed {e : Event κ} {id : Nat} (removed : id ∈ e.removed) :
    e.taken? = none := by
  cases e with
  | unsubscribed => rfl
  | ended => rfl
  | _ => cases removed

/-- A connection to which everything is written that is taken up, until it is
removed, gets what is swept until then. -/
theorem written_of_each {id : Nat}
    (each : ∀ before e after, es = before ++ e :: after →
      e.writtenTo id = if ∀ e' ∈ before, id ∉ e'.removed
        then (e.taken?.bind (·.payload?)).toList else []) :
    written es id = swept (es.takeWhile fun e => id ∉ e.removed) := by
  induction es with
  | nil => rfl
  | cons e rest ih =>
    have first := each [] e rest rfl
    rw [if_pos nofun] at first
    show e.writtenTo id ++ written rest id = _
    by_cases removed : id ∈ e.removed
    · -- nothing is written any more, neither now nor later
      have later : written rest id = [] := by
        refine List.flatMap_eq_nil_iff.2 fun e' he' => ?_
        obtain ⟨before, after, rfl⟩ := List.append_of_mem he'
        rw [each (e :: before) e' after rfl]
        exact if_neg fun kept => kept e List.mem_cons_self removed
      rw [List.takeWhile_cons_of_neg (by simpa using removed), later, first,
        Event.taken?_of_removed removed]
      rfl
    · have rest' := ih fun before e' after split => by
        rw [each (e :: before) e' after (by rw [split, List.cons_append])]
        simp [removed]
      rw [List.takeWhile_cons_of_pos (by simpa using removed), rest', first, swept_cons]

section Runs

variable {w w' : Work κ} {e : Event κ}

/-- **A payload is written to a connection**, once, if the connection is held when
the sweep begins. -/
theorem Runs.writtenTo_eq (run : Runs es w) (step : w.Step e w') (id : Nat) :
    e.writtenTo id = if id ∈ (live es).map (·.id)
      then (e.taken?.bind (·.payload?)).toList else [] := by
  cases step with
  | @begin payload =>
    show (w.hub.slots.filter fun s => s.id = id).map (fun _ => payload) = _
    have once : (w.hub.slots.map (·.id)).Nodup := run.nodup_removals.of_append_left
    have number : (w.hub.slots.filter fun s => s.id = id).length
        = (w.hub.slots.map (·.id)).count id := by
      rw [← List.countP_eq_length_filter, List.count, List.countP_map]
      exact List.countP_congr fun s _ => by simp
    rw [List.map_const', number, once.count,
      if_congr (run.perm_live.map (·.id)).mem_iff rfl rfl]
    split <;> rfl
  | _ => exact (ite_self []).symm

/-- Nothing is written to a number that no connection has. -/
theorem Runs.written_of_absent (run : Runs es w) {id : Nat}
    (absent : id ∉ (subscriptions es).map (·.id)) : written es id = [] := by
  refine List.flatMap_eq_nil_iff.2 fun e he => ?_
  obtain ⟨before, after, rfl⟩ := List.append_of_mem he
  obtain ⟨w₁, w₂, run₁, step⟩ := run.at
  rw [run₁.writtenTo_eq step]
  refine if_neg fun held => absent ?_
  rw [subscriptions, List.filterMap_append, List.map_append]
  exact List.mem_append_left _ (mem_live.1 held).1

/-- A number that is subscribed was not subscribed before. -/
theorem Runs.fresh {before after : List (Event κ)} {slot : Slot κ}
    (run : Runs (before ++ .subscribed slot :: after) w) :
    slot.id ∉ (subscriptions before).map (·.id) := by
  have once := run.nodup_subscriptions
  rw [List.append_cons, subscriptions, List.filterMap_append, List.map_append] at once
  have first := once.of_append_left
  rw [← subscriptions, subscriptions_concat, List.map_append] at first
  exact fun known => (List.nodup_append.1 first).2.2 _ known _ List.mem_cons_self rfl

/-- **A connection is written what is swept from its subscription on**, until it is
removed. -/
theorem Runs.written_eq {before after : List (Event κ)} {slot : Slot κ}
    (run : Runs (before ++ .subscribed slot :: after) w) :
    written (before ++ .subscribed slot :: after) slot.id
      = swept (after.takeWhile fun e => slot.id ∉ e.removed) := by
  have fresh := run.fresh
  obtain ⟨w₀, run₀⟩ := run.split
  have held (x : List (Event κ)) :
      slot.id ∈ (live (before ++ .subscribed slot :: x)).map (·.id)
        ↔ ∀ e ∈ x, slot.id ∉ e.removed := by
    have never : slot.id ∉ removals before := fun h => fresh (run₀.subscribed_of_removed h)
    have removed : removals (before ++ .subscribed slot :: x) = removals before ++ removals x := by
      rw [removals, List.flatMap_append, List.flatMap_cons]
      rfl
    have known : slot.id ∈ (subscriptions (before ++ .subscribed slot :: x)).map (·.id) := by
      simp [subscriptions, Event.subscription?]
    have later : slot.id ∈ removals x ↔ ∃ e ∈ x, slot.id ∈ e.removed := List.mem_flatMap
    rw [mem_live, removed, List.mem_append, later]
    simp [known, never]
  rw [← written_of_each]
  · show List.flatMap _ _ = List.flatMap _ after
    rw [List.flatMap_append, List.flatMap_cons]
    show written before slot.id ++ ([] ++ _) = _
    rw [run₀.written_of_absent fresh]
    rfl
  · intro x e y split
    rw [split, ← List.cons_append, ← List.append_assoc] at run
    obtain ⟨w₁, w₂, run₁, step⟩ := run.at
    rw [run₁.writtenTo_eq step]
    exact if_congr (held x) rfl rfl

end Runs

/-! ## Exact deliveries -/

/-- **A hub delivers exactly**, seen from what was observed of it. -/
structure DeliversExactly (es : List (Event κ)) (w : Work κ) : Prop where
  /-- What is swept was broadcast, in that order. -/
  order : swept es <+: broadcasts es
  /-- A connection is written what is swept while it is held. -/
  written : ∀ before slot after, es = before ++ .subscribed slot :: after →
    written es slot.id = swept (after.takeWhile fun e => slot.id ∉ e.removed)
  /-- Nothing else is written, and each payload goes to the connections held. -/
  receivers : ∀ before payload slots after, es = before ++ .began payload slots :: after →
    slots.Perm (live before)
  /-- A sweep ends with what came of each of its writes. Nothing happens to the
  connections in between. -/
  ended : ∀ before payload writes after, es = before ++ .ended payload writes :: after →
    ∃ earlier meanwhile, before = earlier ++ .began payload (writes.map (·.1)) :: meanwhile
      ∧ ∀ e ∈ meanwhile, e.Aside
  /-- A write that does not succeed is the last one to its connection. -/
  failed : ∀ before payload writes after, es = before ++ .ended payload writes :: after →
    ∀ v ∈ writes, ¬ v.2.Succeeded → v.1 ∉ live (before ++ [.ended payload writes])
      ∧ Hub.written after v.1.id = []
  /-- The other connections are held as before. -/
  spared : ∀ before payload writes after, es = before ++ .ended payload writes :: after →
    ∀ v ∈ writes, v.2.Succeeded → v.1 ∈ live (before ++ [.ended payload writes])
  /-- No connection is removed twice. -/
  removed : (removals es).Nodup
  unsubscribed : ∀ before id held after, es = before ++ .unsubscribed id held :: after →
    (held = true ↔ id ∈ (live before).map (·.id))
  held : w.hub.slots.Perm (live es)
  counted : ∀ before n after, es = before ++ .counted n :: after →
    n + (removals before).length = (subscriptions before).length
  /-- A flush is answered when exactly what was broadcast before it is
  delivered. -/
  flushed : ∀ before ticket between after,
    es = before ++ .flushed ticket :: (between ++ .answered ticket :: after) →
      delivered (before ++ .flushed ticket :: between) = broadcasts before

namespace Runs

variable {w : Work κ}

/-- What the delivery takes up is what was queued, in that order. -/
theorem takenUp_prefix (run : Runs es w) : takenUp es <+: enqueued es := by
  cases run.waiting with
  | idle _ _ fifo => exact fifo ▸ List.prefix_append _ _
  | busy _ _ _ fifo => exact fifo ▸ List.prefix_append _ _
  | stopped _ _ _ fifo => exact fifo

/-- A connection that was removed is written nothing any more. -/
theorem written_of_removed {before after : List (Event κ)} (run : Runs (before ++ after) w)
    {id : Nat} (removed : id ∈ removals before) : Hub.written after id = [] := by
  refine List.flatMap_eq_nil_iff.2 fun e he => ?_
  obtain ⟨x, y, rfl⟩ := List.append_of_mem he
  rw [← List.append_assoc] at run
  obtain ⟨w₁, w₂, run₁, step⟩ := run.at
  rw [run₁.writtenTo_eq step]
  refine if_neg fun held => (mem_live.1 held).2 ?_
  rw [removals, List.flatMap_append]
  exact List.mem_append_left _ removed

/-- A sweep ends that began before, with nothing but what is aside in between. -/
theorem ended {before after : List (Event κ)} {payload : String}
    {writes : List (Slot κ × WriteResult)}
    (run : Runs (before ++ .ended payload writes :: after) w) :
    ∃ earlier meanwhile, before = earlier ++ .began payload (writes.map (·.1)) :: meanwhile
      ∧ ∀ e ∈ meanwhile, e.Aside := by
  obtain ⟨w₁, w₂, run₁, step⟩ := run.at
  cases step with
  | finish results busy next each =>
    obtain ⟨rest, first⟩ := Waiting.queue_of_next? next
    cases run₁.waiting with
    | idle _ free => exact absurd busy (ne_true_of_eq_false free)
    | stopped _ free => exact absurd busy (ne_true_of_eq_false free)
    | busy _ _ queue _ _ since aside =>
      rw [first] at queue
      cases queue
      rw [List.map_fst_zip (Nat.le_of_eq each)]
      exact ⟨_, _, since, aside⟩

/-- Those whose write succeeded are held after the sweep. -/
theorem spared {before after : List (Event κ)} {payload : String}
    {writes : List (Slot κ × WriteResult)}
    (run : Runs (before ++ .ended payload writes :: after) w) :
    ∀ v ∈ writes, v.2.Succeeded → v.1 ∈ live (before ++ [.ended payload writes]) := by
  obtain ⟨w₁, w₂, run₁, step⟩ := run.at
  have run₂ := run₁.step step
  intro v hv succeeded
  refine run₂.perm_live.mem_iff.1 ?_
  cases step with
  | finish results busy next each =>
    refine (evict_perm w₁.hub.slots results each).mem_iff.2 (List.mem_map_of_mem ?_)
    exact List.mem_filter.2 ⟨hv, decide_eq_true succeeded⟩

/-- **A flush is answered in its turn**: what was queued before it is what the
delivery has taken up by then. -/
theorem flushed {before between after : List (Event κ)} {ticket : Nat}
    (run : Runs (before ++ .flushed ticket :: (between ++ .answered ticket :: after)) w) :
    delivered (before ++ .flushed ticket :: between) = broadcasts before := by
  rw [← List.cons_append, ← List.append_assoc] at run
  obtain ⟨w₁, w₂, run₁, step⟩ := run.at
  cases step with
  | answer free next =>
    obtain ⟨rest, first⟩ := List.head?_eq_some_iff.1 next
    cases run₁.waiting with
    | busy _ busy => exact absurd busy (ne_true_of_eq_false free)
    | stopped _ _ queue =>
      rw [first] at queue
      cases queue
    | idle _ _ fifo complete =>
      -- the flush stands in the queue once, so the two ways to split the queue agree
      have once := run₁.count_flush ticket
      have asked : enqueued (before ++ .flushed ticket :: between)
          = enqueued before ++ .flush ticket :: enqueued between := by
        simp [enqueued, Event.queued?]
      rw [first, asked] at fifo
      have most : (enqueued before ++ .flush ticket :: enqueued between).count
          (.flush ticket) ≤ 1 := asked ▸ Nat.le_trans once (by split <;> decide)
      rw [fifo, List.count_append, List.count_cons_self] at most
      have notTaken : Command.flush ticket ∉ takenUp (before ++ .flushed ticket :: between) :=
        List.count_eq_zero.1 (by omega)
      have notLater : Command.flush ticket ∉ rest := List.count_eq_zero.1 (by omega)
      obtain ⟨same, -, -⟩ := (List.append_cons_inj_of_notMem notTaken notLater).1 fifo.symm
      rw [complete, swept, same]
      rfl

/-- **Deliveries are exact.** In every run of a hub, in whatever order its calls take
effect between and during the sweeps, and whatever comes of the writes: a connection
is written exactly what is swept from its subscription on until it is removed, each
payload once and in the order of the broadcasts. A write that does not succeed is
the last one to its connection, which is removed at the end of that sweep, while the
others are held as before. No connection is removed twice, and letting go of one
succeeds exactly if it is held. The connections counted are those subscribed less
those removed. And when a flush is answered, exactly what was broadcast before it
has been delivered. -/
theorem delivers_exactly (run : Runs es w) : DeliversExactly es w where
  order := run.takenUp_prefix.filterMap _
  written := by
    rintro before slot after rfl
    exact run.written_eq
  receivers := by
    rintro before payload slots after rfl
    obtain ⟨w₁, w₂, run₁, step⟩ := run.at
    cases step with
    | begin => exact run₁.perm_live
  ended := by
    rintro before payload writes after rfl
    exact run.ended
  failed := by
    rintro before payload writes after rfl v hv unsuccessful
    have removed : v.1.id ∈ removals (before ++ [.ended payload writes]) := by
      rw [removals_concat]
      refine List.mem_append_right _ (List.mem_map.2 ⟨v, ?_, rfl⟩)
      exact List.mem_filter.2 ⟨hv, decide_eq_true unsuccessful⟩
    refine ⟨fun held => (mem_live.1 (List.mem_map_of_mem held)).2 removed, ?_⟩
    rw [List.append_cons] at run
    exact run.written_of_removed removed
  spared := by
    rintro before payload writes after rfl
    exact run.spared
  removed := run.nodup_removals.of_append_right
  unsubscribed := by
    rintro before id held after rfl
    obtain ⟨w₁, w₂, run₁, step⟩ := run.at
    rw [← (run₁.perm_live.map (·.id)).mem_iff, List.mem_map]
    cases step with
    | unsubscribe _ free =>
      obtain ⟨same, others⟩ | ⟨slot, slots, same, number, held⟩ := w₁.hub.unsubscribe_cases id
      · rw [same]
        exact ⟨nofun, fun ⟨s, hs, number⟩ => absurd number (others s hs)⟩
      · rw [same]
        exact ⟨fun _ => ⟨slot, held.mem_iff.2 List.mem_cons_self, number⟩, fun _ => rfl⟩
  held := run.perm_live
  counted := by
    rintro before n after rfl
    obtain ⟨w₁, w₂, run₁, step⟩ := run.at
    cases step with
    | count =>
      have balance := run₁.connections.conserved.length_eq
      rw [List.length_append, List.length_map, List.length_map] at balance
      exact balance.symm
  flushed := by
    rintro before ticket between after rfl
    exact run.flushed

/-- The write to the first of two connections fails, and the second one takes its
place. A payload is broadcast during the sweep, after a flush. -/
theorem delivers_exactly_after_eviction :
    ∃ (es : List (Event String)) (w : Work String), Runs es w
      ∧ Hub.written es 1 = ["x"] ∧ Hub.written es 2 = ["x", "y"]
      ∧ es.getLast? = some (.counted 1) ∧ DeliversExactly es w := by
  have first := (Runs.new.step (.number "a")).step
    (.subscribe rfl (show _ = [] ++ ⟨1, "a"⟩ :: [] from rfl))
  have both := (first.step (.number "b")).step
    (.subscribe rfl (show _ = [] ++ ⟨2, "b"⟩ :: [] from rfl))
  have queued := (both.step (.broadcast "x")).step .flush
  have swept := ((queued.step (.begin rfl rfl)).step (.broadcast "y")).step
    (.finish [.failed, .taken] rfl rfl rfl)
  have answered := swept.step (.answer rfl rfl)
  have again := (answered.step (.begin rfl rfl)).step (.finish [.taken] rfl rfl rfl)
  have counted := (again.step (.unsubscribe 1 rfl)).step (.count rfl)
  exact ⟨_, _, counted, rfl, rfl, rfl, delivers_exactly counted⟩

end Runs

end RewardLedger.Hub
