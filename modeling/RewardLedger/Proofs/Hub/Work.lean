import Mathlib.Data.List.Induction
import RewardLedger.Hub

/-!
# A hub at work

A hub works while its connections come and go. What is broadcast and what is to
be flushed can be put into its queue at any moment, also in the middle of a sweep;
whatever reads or changes the connections has to wait until the sweep is over. A
connection is given its number before it is held, and others may be held in
between.

All that can be observed of this is a list of **events**. Which connections are
held, what was put into the queue and what was written to whom can be read off
such a list, without looking at the hub. Whether the hub agrees is another matter,
and not settled here: this module only says which lists of events are possible.
-/

namespace RewardLedger.Hub

variable {κ : Type}

/-! ## Events -/

/-- **What can be observed of a hub at work.** -/
inductive Event (κ : Type) where
  /-- A connection that is to come is given its number. -/
  | numbered (slot : Slot κ)
  | subscribed (slot : Slot κ)
  /-- Somebody let go of a connection, and was told whether it was still held. -/
  | unsubscribed (id : Nat) (held : Bool)
  | counted (connections : Nat)
  | broadcast (payload : String)
  | flushed (ticket : Nat)
  /-- A sweep begins to write to these connections. -/
  | began (payload : String) (slots : List (Slot κ))
  /-- A sweep is over, with what came of each write. -/
  | ended (payload : String) (writes : List (Slot κ × WriteResult))
  /-- A flush is told that it is over. -/
  | answered (ticket : Nat)
  | stopped

namespace Event

/-- The connection that is held from then on. -/
def subscription? : Event κ → Option (Slot κ)
  | subscribed slot => some slot
  | _ => none

/-- The numbers of the connections that are not held any more from then on: one
that somebody let go of, or those whose write did not succeed. -/
def removed : Event κ → List Nat
  | unsubscribed id true => [id]
  | ended _ writes => (writes.filter fun w => ¬ w.2.Succeeded).map (·.1.id)
  | _ => []

/-- What is put into the queue. -/
def queued? : Event κ → Option Command
  | broadcast payload => some (.deliver payload)
  | flushed ticket => some (.flush ticket)
  | _ => none

/-- What the delivery takes up. -/
def taken? : Event κ → Option Command
  | began payload _ => some (.deliver payload)
  | answered ticket => some (.flush ticket)
  | _ => none

/-- What is delivered by then. -/
def delivered? : Event κ → Option String
  | ended payload _ => some payload
  | _ => none

/-- What is written to the connection of a number. -/
def writtenTo (id : Nat) : Event κ → List String
  | began payload slots => (slots.filter fun s => s.id = id).map fun _ => payload
  | _ => []

/-- What may happen in the middle of a sweep. -/
def Aside : Event κ → Prop
  | numbered _ | broadcast _ | flushed _ => True
  | _ => False

end Event

variable (es : List (Event κ))

/-- The connections that were ever held, oldest first. -/
def subscriptions : List (Slot κ) := es.filterMap (·.subscription?)

/-- The numbers of the connections that were removed. -/
def removals : List Nat := es.flatMap (·.removed)

/-- **The connections that are held**, by what was observed: those that were
subscribed and not removed. -/
def live : List (Slot κ) := (subscriptions es).filter fun s => s.id ∉ removals es

/-- Everything that was put into the queue. -/
def enqueued : List Command := es.filterMap (·.queued?)

/-- Everything that the delivery took up. -/
def takenUp : List Command := es.filterMap (·.taken?)

/-- The payloads that were broadcast. -/
def broadcasts : List String := (enqueued es).filterMap (·.payload?)

/-- The payloads whose sweep began. -/
def swept : List String := (takenUp es).filterMap (·.payload?)

/-- The payloads whose sweep is over. -/
def delivered : List String := es.filterMap (·.delivered?)

/-- What was written to the connection of a number. -/
def written (id : Nat) : List String := es.flatMap (·.writtenTo id)

section Concat

variable (e : Event κ)

@[simp] theorem subscriptions_concat :
    subscriptions (es ++ [e]) = subscriptions es ++ e.subscription?.toList := by
  simp [subscriptions, List.filterMap_append, List.filterMap_cons]
  cases e.subscription? <;> rfl

@[simp] theorem removals_concat : removals (es ++ [e]) = removals es ++ e.removed := by
  simp [removals]

@[simp] theorem enqueued_concat :
    enqueued (es ++ [e]) = enqueued es ++ e.queued?.toList := by
  simp [enqueued, List.filterMap_append, List.filterMap_cons]
  cases e.queued? <;> rfl

@[simp] theorem takenUp_concat : takenUp (es ++ [e]) = takenUp es ++ e.taken?.toList := by
  simp [takenUp, List.filterMap_append, List.filterMap_cons]
  cases e.taken? <;> rfl

@[simp] theorem delivered_concat :
    delivered (es ++ [e]) = delivered es ++ e.delivered?.toList := by
  simp [delivered, List.filterMap_append, List.filterMap_cons]
  cases e.delivered? <;> rfl

end Concat

/-! ## A hub at work -/

/-- **A hub at work**, with those who wait to be held. -/
structure Work (κ : Type) where
  hub : Hub κ
  /-- They have their numbers already. -/
  coming : List (Slot κ)
  /-- The delivery writes the oldest payload, and keeps the connections to
  itself. -/
  sweeping : Bool

/-- A hub to which nothing happened yet. -/
def Work.idle : Work κ := ⟨.empty, [], false⟩

/-- **What can happen next**, and what is observed of it. -/
inductive Work.Step (w : Work κ) : Event κ → Work κ → Prop
  | number (client : κ) :
    Step w (.numbered ⟨w.hub.reserve.1, client⟩)
      { w with hub := w.hub.reserve.2, coming := ⟨w.hub.reserve.1, client⟩ :: w.coming }
  | subscribe {before after : List (Slot κ)} {slot : Slot κ} (free : w.sweeping = false)
    (waits : w.coming = before ++ slot :: after) :
    Step w (.subscribed slot) { w with hub := w.hub.hold slot, coming := before ++ after }
  | unsubscribe (id : Nat) (free : w.sweeping = false) :
    Step w (.unsubscribed id (w.hub.unsubscribe id).1)
      { w with hub := (w.hub.unsubscribe id).2 }
  | count (free : w.sweeping = false) : Step w (.counted w.hub.activeCount) w
  | broadcast (payload : String) :
    Step w (.broadcast payload) { w with hub := w.hub.broadcast payload }
  | flush : Step w (.flushed w.hub.flush.1) { w with hub := w.hub.flush.2 }
  | begin {payload : String} (free : w.sweeping = false) (next : w.hub.next? = some payload) :
    Step w (.began payload w.hub.slots) { w with sweeping := true }
  /-- Each write came to something. -/
  | finish {payload : String} (writes : List WriteResult) (busy : w.sweeping = true)
    (next : w.hub.next? = some payload) (each : w.hub.slots.length = writes.length) :
    Step w (.ended payload (w.hub.slots.zip writes))
      { w with hub := w.hub.deliver writes, sweeping := false }
  | answer {ticket : Nat} (free : w.sweeping = false)
    (next : w.hub.queue.head? = some (.flush ticket)) :
    Step w (.answered ticket) { w with hub := w.hub.answer }
  /-- The delivery ends for good, also in the middle of a sweep. -/
  | stop : Step w .stopped { w with hub := w.hub.stop, sweeping := false }

/-- **The events are possible**, and lead there. -/
inductive Runs : List (Event κ) → Work κ → Prop
  | new : Runs [] .idle
  | step {es : List (Event κ)} {w w' : Work κ} {e : Event κ} (run : Runs es w)
    (step : w.Step e w') : Runs (es ++ [e]) w'

variable {es}

/-- What is possible was possible up to each of its events. -/
theorem Runs.split {before after : List (Event κ)} {w : Work κ} (run : Runs (before ++ after) w) :
    ∃ w', Runs before w' := by
  induction after using List.reverseRecOn generalizing w with
  | nil => exact ⟨w, by rwa [List.append_nil] at run⟩
  | append_singleton after e ih =>
    generalize whole : before ++ (after ++ [e]) = es at run
    cases run with
    | new => simp at whole
    | step run _ =>
      rw [← List.append_assoc] at whole
      obtain ⟨rfl, -⟩ := List.append_inj' whole rfl
      exact ih run

/-- **Each event was a step** of the hub after the events before it. -/
theorem Runs.at {before after : List (Event κ)} {e : Event κ} {w : Work κ}
    (run : Runs (before ++ e :: after) w) :
    ∃ w₁ w₂, Runs before w₁ ∧ w₁.Step e w₂ := by
  rw [List.append_cons] at run
  obtain ⟨w', run⟩ := run.split
  generalize whole : before ++ [e] = es at run
  cases run with
  | new => simp at whole
  | step run step =>
    obtain ⟨rfl, same⟩ := List.append_inj' whole rfl
    cases same
    exact ⟨_, _, run, step⟩

end RewardLedger.Hub
