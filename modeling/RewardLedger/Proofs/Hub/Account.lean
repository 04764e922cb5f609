import Mathlib.Data.List.Nodup
import RewardLedger.Proofs.Hub.Eviction
import RewardLedger.Proofs.Hub.Work

/-!
# A hub agrees with its events

What is observed of a hub is enough to know what it holds. This is shown for its
connections and for its queue apart, and both are invariants that every step keeps.
No connection is lost: those that were subscribed are those that are held and those
that were removed (`Connections.conserved`), so which of them are held is known up
to their order. And nothing in the queue is lost: what was put into it is what the
delivery took up, and after that what waits (`Waiting`). In the middle of a sweep its
payload is still the first in the queue, and counts as taken up already.
-/

namespace RewardLedger.Hub

variable {κ : Type} {es : List (Event κ)}

/-! ## The connections -/

/-- Letting go of a connection takes it out, if it is held. -/
theorem unsubscribe_cases (h : Hub κ) (id : Nat) :
    (h.unsubscribe id = (false, h) ∧ ∀ s ∈ h.slots, s.id ≠ id)
      ∨ ∃ slot slots, h.unsubscribe id = (true, { h with slots }) ∧ slot.id = id
        ∧ h.slots.Perm (slot :: slots) := by
  unfold unsubscribe
  cases found : h.slots.findIdx? (fun s => s.id = id) with
  | none =>
    refine .inl ⟨rfl, fun s hs => ?_⟩
    have other := List.findIdx?_eq_none_iff.1 found s hs
    exact of_decide_eq_false other
  | some place =>
    obtain ⟨hplace, same, -⟩ := List.findIdx?_eq_some_iff_getElem.1 found
    refine .inr ⟨h.slots[place], swapRemove h.slots place, rfl, of_decide_eq_true same, ?_⟩
    have split : h.slots = h.slots.take place ++ h.slots[place] :: h.slots.drop (place + 1) := by
      rw [List.getElem_cons_drop, List.take_append_drop]
    have taken := swapRemove_perm (h.slots.take place) h.slots[place] (h.slots.drop (place + 1))
    rw [← split, List.length_take, Nat.min_eq_left (Nat.le_of_lt hplace)] at taken
    conv_lhs => rw [split]
    exact List.perm_middle.trans (taken.symm.cons _)

/-- **The hub agrees with its events about the connections.** -/
structure Connections (es : List (Event κ)) (w : Work κ) : Prop where
  /-- No number is given twice. -/
  numbered : ((subscriptions es ++ w.coming).map (·.id)).Nodup
  below : ∀ s ∈ subscriptions es ++ w.coming, s.id < w.hub.nextId
  conserved : ((subscriptions es).map (·.id)).Perm (w.hub.slots.map (·.id) ++ removals es)
  known : ∀ s ∈ w.hub.slots, s ∈ subscriptions es

namespace Connections

variable {w w' : Work κ} {e : Event κ}

/-- An event that has nothing to do with connections changes nothing about
them. -/
theorem of_same (h : Connections es w) (subscription : e.subscription? = none)
    (removed : e.removed = []) (slots : w'.hub.slots = w.hub.slots)
    (coming : w'.coming = w.coming) (nextId : w'.hub.nextId = w.hub.nextId) :
    Connections (es ++ [e]) w' := by
  constructor <;> rw [subscriptions_concat, subscription, Option.toList_none, List.append_nil]
  · rw [coming]
    exact h.numbered
  · rw [coming, nextId]
    exact h.below
  · rw [removals_concat, removed, List.append_nil, slots]
    exact h.conserved
  · rw [slots]
    exact h.known

/-- Some connections may be removed, if their numbers are observed. -/
theorem remove (h : Connections es w) (subscription : e.subscription? = none)
    (coming : w'.coming = w.coming) (nextId : w'.hub.nextId = w.hub.nextId) {gone : List (Slot κ)}
    (parts : w.hub.slots.Perm (w'.hub.slots ++ gone)) (removed : e.removed = gone.map (·.id)) :
    Connections (es ++ [e]) w' := by
  constructor <;> rw [subscriptions_concat, subscription, Option.toList_none, List.append_nil]
  · rw [coming]
    exact h.numbered
  · rw [coming, nextId]
    exact h.below
  · have moved := (parts.map (·.id)).append_right (removals es)
    rw [List.map_append, List.append_assoc] at moved
    rw [removals_concat, removed]
    exact h.conserved.trans (moved.trans (List.perm_append_comm.append_left _))
  · exact fun s hs => h.known s (parts.mem_iff.2 (List.mem_append_left _ hs))

/-- The next number is given to a connection that is to come. -/
theorem number (h : Connections es w) (client : κ) :
    Connections (es ++ [.numbered ⟨w.hub.reserve.1, client⟩])
      { w with hub := w.hub.reserve.2, coming := ⟨w.hub.reserve.1, client⟩ :: w.coming } := by
  let slot : Slot κ := ⟨w.hub.reserve.1, client⟩
  have fresh : slot.id ∉ (subscriptions es ++ w.coming).map (·.id) := by
    intro known
    obtain ⟨s, hs, same⟩ := List.mem_map.1 known
    exact absurd (h.below s hs) (same ▸ Nat.lt_irrefl _)
  have more : (subscriptions es ++ slot :: w.coming).Perm
      (slot :: (subscriptions es ++ w.coming)) := List.perm_middle
  constructor <;> simp only [subscriptions_concat, Event.subscription?, Option.toList_none,
    List.append_nil]
  · exact ((more.map (·.id)).nodup_iff).2 (List.nodup_cons.2 ⟨fresh, h.numbered⟩)
  · intro s hs
    rcases List.mem_cons.1 (more.mem_iff.1 hs) with rfl | hs
    · exact Nat.lt_succ_self _
    · exact Nat.lt_succ_of_lt (h.below s hs)
  · simp only [removals_concat, Event.removed, List.append_nil]
    exact h.conserved
  · exact h.known

/-- One of those that are to come is held. -/
theorem subscribe (h : Connections es w) {before after : List (Slot κ)} {slot : Slot κ}
    (waits : w.coming = before ++ slot :: after) :
    Connections (es ++ [.subscribed slot])
      { w with hub := w.hub.hold slot, coming := before ++ after } := by
  -- those who are known are the same as before, and one of them is held now
  have same : ((subscriptions es ++ [slot]) ++ (before ++ after)).Perm
      (subscriptions es ++ w.coming) := by
    rw [waits, List.append_assoc]
    show (subscriptions es ++ slot :: (before ++ after)).Perm _
    exact List.perm_middle.symm.append_left _
  constructor <;> simp only [subscriptions_concat, Event.subscription?, Option.toList_some]
  · exact ((same.map (·.id)).nodup_iff).2 h.numbered
  · exact fun s hs => h.below s (same.mem_iff.1 hs)
  · simp only [removals_concat, Event.removed, List.append_nil, hold, List.map_append,
      List.append_assoc]
    refine (h.conserved.append_right _).trans ?_
    rw [List.append_assoc]
    exact List.perm_append_comm.append_left _
  · exact fun s hs => (List.mem_append.1 hs).elim
      (fun hs => List.mem_append_left _ (h.known s hs)) (List.mem_append_right _)

/-- **Every step keeps the account of the connections.** -/
theorem step (h : Connections es w) (step : w.Step e w') : Connections (es ++ [e]) w' := by
  cases step with
  | number client => exact h.number client
  | subscribe free waits => exact h.subscribe waits
  | unsubscribe id free =>
    obtain ⟨same, -⟩ | ⟨slot, slots, same, rfl, held⟩ := w.hub.unsubscribe_cases id
    · rw [same]
      exact h.of_same rfl rfl rfl rfl rfl
    · rw [same]
      exact h.remove rfl rfl rfl (held.trans (List.perm_append_singleton slot slots).symm) rfl
  | finish writes busy next each =>
    refine h.remove rfl rfl rfl (evict_perm_append w.hub.slots writes each) ?_
    rw [List.map_map]
    rfl
  | broadcast payload =>
    exact h.of_same rfl rfl (w.hub.slots_enqueue _) rfl (w.hub.nextId_enqueue _)
  | flush => exact h.of_same rfl rfl (w.hub.slots_enqueue _) rfl (w.hub.nextId_enqueue _)
  | answer => exact h.of_same rfl rfl w.hub.slots_answer rfl w.hub.nextId_answer
  | count => exact h.of_same rfl rfl rfl rfl rfl
  | begin => exact h.of_same rfl rfl rfl rfl rfl
  | stop => exact h.of_same rfl rfl rfl rfl rfl

end Connections

/-! ## The queue -/

/-- Events that take nothing up and deliver nothing leave what was swept. -/
theorem swept_concat (es : List (Event κ)) (e : Event κ) :
    swept (es ++ [e]) = swept es ++ (e.taken?.bind (·.payload?)).toList := by
  rw [swept, takenUp_concat, List.filterMap_append]
  cases e.taken? with
  | none => rfl
  | some c => cases c <;> rfl

/-- **The hub agrees with its events about the queue**, when it has nothing to do,
in the middle of a sweep, and after it stopped. -/
inductive Waiting (es : List (Event κ)) (w : Work κ) : Prop
  | idle (on : w.hub.stopped = false) (free : w.sweeping = false)
    (fifo : enqueued es = takenUp es ++ w.hub.queue) (complete : delivered es = swept es)
  | busy {payload : String} {rest : List Command} {before after : List (Event κ)}
    (on : w.hub.stopped = false) (busy : w.sweeping = true)
    (queue : w.hub.queue = .deliver payload :: rest) (fifo : enqueued es = takenUp es ++ rest)
    (complete : swept es = delivered es ++ [payload])
    (since : es = before ++ .began payload w.hub.slots :: after)
    (aside : ∀ e ∈ after, e.Aside)
  | stopped (off : w.hub.stopped = true) (free : w.sweeping = false)
    (queue : w.hub.queue = []) (fifo : takenUp es <+: enqueued es)

namespace Waiting

variable {w w' : Work κ} {e : Event κ}

/-- **What waits may become more**, at any moment, and whatever else is aside may
happen. -/
theorem append (h : Waiting es w) (aside : e.Aside) (slots : w'.hub.slots = w.hub.slots)
    (stopped : w'.hub.stopped = w.hub.stopped) (sweeping : w'.sweeping = w.sweeping)
    (queue : w'.hub.queue = if w.hub.stopped then w.hub.queue
      else w.hub.queue ++ e.queued?.toList) : Waiting (es ++ [e]) w' := by
  have taken : e.taken? = none := by cases e <;> first | rfl | exact aside.elim
  have undelivered : e.delivered? = none := by cases e <;> first | rfl | exact aside.elim
  have same : takenUp (es ++ [e]) = takenUp es ∧ swept (es ++ [e]) = swept es
      ∧ delivered (es ++ [e]) = delivered es := by
    rw [takenUp_concat, swept_concat, delivered_concat, taken, undelivered]
    simp
  obtain ⟨taken', swept', delivered'⟩ := same
  cases h with
  | idle on free fifo complete =>
    refine .idle (stopped.trans on) (sweeping.trans free) ?_ ?_
    · rw [enqueued_concat, taken', queue, on, fifo, List.append_assoc]
      rfl
    · rw [delivered', swept', complete]
  | @busy payload rest before after on busy queue' fifo complete since meanwhile =>
    have queue : w'.hub.queue = .deliver payload :: (rest ++ e.queued?.toList) := by
      rw [queue, on, queue']
      rfl
    have since : es ++ [e] = before ++ .began payload w'.hub.slots :: (after ++ [e]) := by
      rw [slots, since, List.append_assoc, List.cons_append]
    refine .busy (stopped.trans on) (sweeping.trans busy) queue ?_ ?_ since ?_
    · rw [enqueued_concat, taken', fifo, List.append_assoc]
    · rw [delivered', swept', complete]
    · intro e' he'
      rcases List.mem_append.1 he' with he' | he'
      · exact meanwhile e' he'
      · rwa [List.mem_singleton.1 he']
  | stopped off free queue' fifo =>
    refine .stopped (stopped.trans off) (sweeping.trans free) ?_ ?_
    · rw [queue, off]
      exact queue'
    · rw [enqueued_concat, taken']
      exact fifo.trans (List.prefix_append _ _)

/-- Between sweeps the connections may change. -/
theorem of_same (h : Waiting es w) (free : w.sweeping = false) (queued : e.queued? = none)
    (taken : e.taken? = none) (undelivered : e.delivered? = none)
    (stopped : w'.hub.stopped = w.hub.stopped) (sweeping : w'.sweeping = w.sweeping)
    (queue : w'.hub.queue = w.hub.queue) : Waiting (es ++ [e]) w' := by
  have same : enqueued (es ++ [e]) = enqueued es ∧ takenUp (es ++ [e]) = takenUp es
      ∧ swept (es ++ [e]) = swept es ∧ delivered (es ++ [e]) = delivered es := by
    rw [enqueued_concat, takenUp_concat, swept_concat, delivered_concat, queued, taken,
      undelivered]
    simp
  obtain ⟨enqueued', taken', swept', delivered'⟩ := same
  cases h with
  | idle on _ fifo complete =>
    refine .idle (stopped.trans on) (sweeping.trans free) ?_ ?_
    · rw [enqueued', taken', queue, fifo]
    · rw [delivered', swept', complete]
  | busy _ busy => exact absurd busy (ne_true_of_eq_false free)
  | stopped off _ queue' fifo =>
    refine .stopped (stopped.trans off) (sweeping.trans free) (queue.trans queue') ?_
    rw [enqueued', taken']
    exact fifo

/-- The payload that comes next is the first in the queue. -/
theorem queue_of_next? {h : Hub κ} {payload : String} (next : h.next? = some payload) :
    ∃ rest, h.queue = .deliver payload :: rest := by
  unfold next? at next
  cases queue : h.queue with
  | nil =>
    rw [queue] at next
    cases next
  | cons c rest =>
    rw [queue] at next
    cases c with
    | deliver p =>
      cases next
      exact ⟨rest, rfl⟩
    | flush ticket => cases next

/-- A sweep takes up the first payload in the queue. -/
theorem begin (h : Waiting es w) {payload : String} (free : w.sweeping = false)
    (next : w.hub.next? = some payload) :
    Waiting (es ++ [.began payload w.hub.slots]) { w with sweeping := true } := by
  obtain ⟨rest, first⟩ := queue_of_next? next
  cases h with
  | idle on _ fifo complete =>
    have since : es ++ [.began payload w.hub.slots]
        = es ++ .began payload w.hub.slots :: [] := rfl
    refine .busy on rfl first ?_ ?_ since nofun
    · simp [Event.queued?, Event.taken?, fifo, first]
    · simp [swept_concat, Event.taken?, Command.payload?, Event.delivered?, complete]
  | busy _ busy => exact absurd busy (ne_true_of_eq_false free)
  | stopped _ _ queue =>
    rw [first] at queue
    cases queue

/-- At the end of a sweep its payload is delivered. -/
theorem finish (h : Waiting es w) {payload : String} (writes : List WriteResult)
    (busy : w.sweeping = true) (next : w.hub.next? = some payload) :
    Waiting (es ++ [.ended payload (w.hub.slots.zip writes)])
      { w with hub := w.hub.deliver writes, sweeping := false } := by
  obtain ⟨rest, first⟩ := queue_of_next? next
  cases h with
  | idle _ free => exact absurd busy (ne_true_of_eq_false free)
  | busy on _ queue fifo complete =>
    rw [first] at queue
    cases queue
    refine .idle on rfl ?_ ?_
    · simp [Event.queued?, Event.taken?, deliver, fifo, first]
    · simp [swept_concat, Event.taken?, Event.delivered?, complete]
  | stopped _ free => exact absurd busy (ne_true_of_eq_false free)

/-- A flush that comes first in the queue is answered. -/
theorem answer (h : Waiting es w) {ticket : Nat} (free : w.sweeping = false)
    (next : w.hub.queue.head? = some (.flush ticket)) :
    Waiting (es ++ [.answered ticket]) { w with hub := w.hub.answer } := by
  obtain ⟨rest, first⟩ := List.head?_eq_some_iff.1 next
  have left : w.hub.answer = { w.hub with queue := rest } := by
    unfold Hub.answer
    rw [first]
  rw [left]
  cases h with
  | idle on _ fifo complete =>
    refine .idle on free ?_ ?_
    · simp [Event.queued?, Event.taken?, fifo, first]
    · simp [swept_concat, Event.taken?, Command.payload?, Event.delivered?, complete]
  | busy _ busy => exact absurd busy (ne_true_of_eq_false free)
  | stopped _ _ queue =>
    rw [first] at queue
    cases queue

/-- **Every step keeps the account of the queue.** -/
theorem step (h : Waiting es w) (step : w.Step e w') : Waiting (es ++ [e]) w' := by
  cases step with
  | number client =>
    refine h.append trivial rfl rfl rfl ?_
    show w.hub.queue = if _ then _ else w.hub.queue ++ []
    rw [List.append_nil, ite_self]
  | broadcast payload =>
    refine h.append trivial (w.hub.slots_enqueue _) (w.hub.stopped_enqueue _) rfl ?_
    exact w.hub.queue_enqueue _
  | flush =>
    refine h.append trivial (w.hub.slots_enqueue _) (w.hub.stopped_enqueue _) rfl ?_
    exact w.hub.queue_enqueue _
  | subscribe free waits => exact h.of_same free rfl rfl rfl rfl rfl rfl
  | unsubscribe id free =>
    obtain ⟨same, -⟩ | ⟨_, _, same, -, -⟩ := w.hub.unsubscribe_cases id
    · rw [same]
      exact h.of_same free rfl rfl rfl rfl rfl rfl
    · rw [same]
      exact h.of_same free rfl rfl rfl rfl rfl rfl
  | count free => exact h.of_same free rfl rfl rfl rfl rfl rfl
  | begin free next => exact h.begin free next
  | finish writes busy next each => exact h.finish writes busy next
  | answer free next => exact h.answer free next
  | stop =>
    refine .stopped rfl rfl rfl ?_
    simp only [takenUp_concat, enqueued_concat, Event.taken?, Event.queued?, Option.toList_none,
      List.append_nil]
    cases h with
    | idle _ _ fifo =>
      rw [fifo]
      exact List.prefix_append _ _
    | busy _ _ _ fifo =>
      rw [fifo]
      exact List.prefix_append _ _
    | stopped _ _ _ fifo => exact fifo

end Waiting

/-! ## What every run keeps -/

/-- No flush is told twice, for every one has a ticket of its own. -/
theorem Runs.count_flush {w : Work κ} (run : Runs es w) (ticket : Nat) :
    (enqueued es).count (.flush ticket) ≤ if ticket < w.hub.nextTicket then 1 else 0 := by
  induction run with
  | new => exact Nat.zero_le _
  | @step es w w' e run step ih =>
    rw [enqueued_concat, List.count_append]
    have none : e.queued? = none → w'.hub.nextTicket = w.hub.nextTicket →
        (enqueued es).count (.flush ticket) + e.queued?.toList.count (.flush ticket)
          ≤ if ticket < w'.hub.nextTicket then 1 else 0 := by
      intro nothing same
      rw [nothing, same]
      exact ih
    cases step with
    | flush =>
      show _ + [Command.flush w.hub.nextTicket].count (.flush ticket)
        ≤ if ticket < w.hub.nextTicket + 1 then 1 else 0
      by_cases new : ticket = w.hub.nextTicket
      · rw [if_neg (by omega)] at ih
        rw [if_pos (by omega), new, List.count_singleton_self]
        rw [new] at ih
        omega
      · rw [List.count_singleton, if_neg (by simp; omega)]
        split at ih <;> split <;> omega
    | broadcast payload =>
      show _ + [Command.deliver payload].count (.flush ticket)
        ≤ if ticket < (w.hub.enqueue _).nextTicket then 1 else 0
      rw [List.count_singleton, if_neg (by simp), nextTicket_enqueue]
      exact ih
    | unsubscribe id free =>
      refine none rfl ?_
      obtain ⟨same, -⟩ | ⟨_, _, same, -, -⟩ := w.hub.unsubscribe_cases id <;> rw [same]
    | answer => exact none rfl w.hub.nextTicket_answer
    | _ => exact none rfl rfl

section Runs

variable {w : Work κ} (run : Runs es w)

include run

theorem Runs.connections : Connections es w := by
  induction run with
  | new => exact ⟨.nil, nofun, .nil, nofun⟩
  | step _ step ih => exact ih.step step

theorem Runs.waiting : Waiting es w := by
  induction run with
  | new => exact .idle rfl rfl rfl rfl
  | step _ step ih => exact ih.step step

/-- Connections have different numbers. -/
theorem Runs.nodup_subscriptions : ((subscriptions es).map (·.id)).Nodup := by
  have all := run.connections.numbered
  rw [List.map_append] at all
  exact all.of_append_left

/-- No connection is removed twice, and none that is held was removed. -/
theorem Runs.nodup_removals : (w.hub.slots.map (·.id) ++ removals es).Nodup :=
  run.connections.conserved.nodup_iff.1 run.nodup_subscriptions

/-- Whatever was removed had been subscribed. -/
theorem Runs.subscribed_of_removed {id : Nat} (removed : id ∈ removals es) :
    id ∈ (subscriptions es).map (·.id) :=
  run.connections.conserved.mem_iff.2 (List.mem_append_right _ removed)

/-- **The connections that the hub holds** are those that were subscribed and not
removed. -/
theorem Runs.perm_live : w.hub.slots.Perm (live es) := by
  have once := run.nodup_removals
  have account := run.connections
  refine (List.perm_ext_iff_of_nodup (List.Nodup.of_map _ once.of_append_left)
    ((List.Nodup.of_map _ run.nodup_subscriptions).filter _)).2 fun s => ?_
  rw [List.mem_filter, decide_eq_true_eq]
  constructor
  · intro hs
    refine ⟨account.known s hs, fun removed => ?_⟩
    exact (List.nodup_append.1 once).2.2 s.id (List.mem_map_of_mem hs) s.id removed rfl
  · rintro ⟨hs, kept⟩
    have number : s.id ∈ w.hub.slots.map (·.id) ++ removals es :=
      account.conserved.mem_iff.1 (List.mem_map_of_mem hs)
    obtain ⟨s', hs', same⟩ := List.mem_map.1 ((List.mem_append.1 number).resolve_right kept)
    -- two connections of one number are the same one
    rwa [List.inj_on_of_nodup_map run.nodup_subscriptions hs (account.known s' hs') same.symm]

end Runs

end RewardLedger.Hub
