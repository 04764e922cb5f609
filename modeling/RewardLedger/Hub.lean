/-!
# The hub of the live feed

The hub holds the connections of the feed. What is broadcast goes into a queue,
so that nobody who broadcasts waits for a client, and is delivered from there
in order: one **sweep** takes the oldest payload and writes it to every
connection that is held when the sweep begins. A connection whose write fails,
or takes too long, is evicted at the end of that sweep.

Whoever wants to wait until everything that was broadcast is delivered puts a
**flush** into the same queue. It is answered when its turn comes, and by then
everything before it is delivered.

Connections are evicted by moving the last one into the hole. The places of the
failed ones are known before anything moves, so they are taken from the last to
the first: a hole is then only ever filled from behind, by a connection that is
to stay.
-/

namespace RewardLedger

/-- Take out the item at a place and move the last item there. -/
def swapRemove {α : Type} (l : List α) (place : Nat) : List α :=
  match l.getLast? with
  | none => []
  | some last => (l.set place last).dropLast

/-- What came of a write to a connection. -/
inductive WriteResult where
  | taken
  | failed
  /-- It did not come to an end in the time that there is for it. -/
  | late
  deriving DecidableEq, Repr

/-- Nothing but a write that was taken is a success. -/
def WriteResult.Succeeded (r : WriteResult) : Prop := r = taken

instance (r : WriteResult) : Decidable r.Succeeded := inferInstanceAs (Decidable (_ = _))

/-- One connection that the hub holds. -/
structure Slot (κ : Type) where
  /-- The number of the connection, never used again. -/
  id : Nat
  /-- Whose connection it is. -/
  client : κ
  deriving DecidableEq, Repr

/-- What waits in the queue of a hub. -/
inductive Hub.Command where
  | deliver (payload : String)
  /-- To be answered when everything before it is delivered. -/
  | flush (ticket : Nat)
  deriving DecidableEq, Repr

/-- The payload that is to be delivered, if there is one. -/
def Hub.Command.payload? : Hub.Command → Option String
  | deliver payload => some payload
  | flush _ => none

/-- The hub. -/
structure Hub (κ : Type) where
  slots : List (Slot κ)
  /-- The number of the next connection. -/
  nextId : Nat
  /-- What waits, oldest first. -/
  queue : List Hub.Command
  /-- The number of the next flush. -/
  nextTicket : Nat
  /-- Nothing is delivered any more. -/
  stopped : Bool
  deriving DecidableEq, Repr

namespace Hub

variable {κ : Type}

/-- A hub without connections. -/
def empty : Hub κ := ⟨[], 1, [], 0, false⟩

/-! ## Connections -/

/-- Give out the number of a connection that is to come. -/
def reserve (h : Hub κ) : Nat × Hub κ := (h.nextId, { h with nextId := h.nextId + 1 })

/-- Hold a connection. -/
def hold (h : Hub κ) (slot : Slot κ) : Hub κ := { h with slots := h.slots ++ [slot] }

/-- Hold a new connection; its number. -/
def subscribe (h : Hub κ) (client : κ) : Nat × Hub κ :=
  let (id, h) := h.reserve
  (id, h.hold ⟨id, client⟩)

/-- Let go of a connection; whether it was still held. -/
def unsubscribe (h : Hub κ) (id : Nat) : Bool × Hub κ :=
  match h.slots.findIdx? fun s => s.id = id with
  | some place => (true, { h with slots := swapRemove h.slots place })
  | none => (false, h)

/-- The number of connections held. -/
def activeCount (h : Hub κ) : Nat := h.slots.length

/-! ## The queue -/

/-- Put something into the queue. A hub that has stopped drops it. -/
def enqueue (h : Hub κ) (c : Command) : Hub κ :=
  if h.stopped then h else { h with queue := h.queue ++ [c] }

/-- Queue a payload. -/
def broadcast (h : Hub κ) (payload : String) : Hub κ := h.enqueue (.deliver payload)

/-- Begin to wait until everything that is queued is delivered; the number to
wait with. -/
def flush (h : Hub κ) : Nat × Hub κ :=
  (h.nextTicket, { h.enqueue (.flush h.nextTicket) with nextTicket := h.nextTicket + 1 })

/-- A flush is not answered yet, and may still be. -/
def Awaits (h : Hub κ) (ticket : Nat) : Prop := .flush ticket ∈ h.queue

instance (h : Hub κ) (ticket : Nat) : Decidable (h.Awaits ticket) :=
  inferInstanceAs (Decidable (_ ∈ _))

/-- The payload that is to be delivered next, if that is what comes next. -/
def next? (h : Hub κ) : Option String := h.queue.head?.bind Command.payload?

/-- Answer what comes next if it is a flush. -/
def answer (h : Hub κ) : Hub κ :=
  match h.queue with
  | .flush _ :: rest => { h with queue := rest }
  | _ => h

/-- Answer the flushes up to the next payload. -/
def answerAll (h : Hub κ) : Hub κ := h.queue.length.repeat answer h

/-- Stop delivering, and drop what waits. -/
def stop (h : Hub κ) : Hub κ := { h with queue := [], stopped := true }

/-! ## Sweeps -/

/-- The places at which writes did not succeed, first to last. -/
def failedPlaces (writes : List WriteResult) : List Nat :=
  (writes.zipIdx.filter fun w => ¬ w.1.Succeeded).map (·.2)

/-- Take out the items at ascending places, from the last to the first. -/
def evict {α : Type} (l : List α) (places : List Nat) : List α :=
  places.foldr (fun place l => swapRemove l place) l

/-- End a sweep: evict the connections whose write did not succeed; how many. -/
def sweep (slots : List (Slot κ)) (writes : List WriteResult) : Nat × List (Slot κ) :=
  let places := failedPlaces writes
  (places.length, evict slots places)

/-- Deliver the oldest payload, given what comes of the write to each
connection. -/
def deliver (h : Hub κ) (writes : List WriteResult) : Hub κ :=
  { h with slots := (sweep h.slots writes).2, queue := h.queue.drop 1 }

/-! ## What stays as it is -/

section Frame

variable (h : Hub κ)

@[simp] theorem queue_subscribe (client : κ) : (h.subscribe client).2.queue = h.queue := rfl

@[simp] theorem activeCount_subscribe (client : κ) :
    (h.subscribe client).2.activeCount = h.activeCount + 1 := by
  simp [subscribe, reserve, hold, activeCount]

@[simp] theorem slots_enqueue (c : Command) : (h.enqueue c).slots = h.slots := by
  unfold enqueue
  split <;> rfl

@[simp] theorem nextId_enqueue (c : Command) : (h.enqueue c).nextId = h.nextId := by
  unfold enqueue
  split <;> rfl

@[simp] theorem nextTicket_enqueue (c : Command) :
    (h.enqueue c).nextTicket = h.nextTicket := by
  unfold enqueue
  split <;> rfl

@[simp] theorem stopped_enqueue (c : Command) : (h.enqueue c).stopped = h.stopped := by
  unfold enqueue
  split <;> rfl

theorem queue_enqueue (c : Command) :
    (h.enqueue c).queue = if h.stopped then h.queue else h.queue ++ [c] := by
  unfold enqueue
  split <;> rfl

@[simp] theorem slots_answer : h.answer.slots = h.slots := by
  unfold answer
  split <;> rfl

@[simp] theorem nextId_answer : h.answer.nextId = h.nextId := by
  unfold answer
  split <;> rfl

@[simp] theorem nextTicket_answer : h.answer.nextTicket = h.nextTicket := by
  unfold answer
  split <;> rfl

end Frame

theorem queue_broadcast {h : Hub κ} (working : h.stopped = false) (payload : String) :
    (h.broadcast payload).queue = h.queue ++ [.deliver payload] := by
  rw [broadcast, queue_enqueue, working]
  rfl

end Hub

end RewardLedger
