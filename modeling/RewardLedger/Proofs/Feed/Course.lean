import RewardLedger.Api.Connection
import RewardLedger.Proofs.Feed.Reading
import RewardLedger.Proofs.History

/-!
# The course of a connection

The program that serves a client of the feed goes through its steps in one order: it counts
the connections, reads the latest incomes, shows both to the client, tells everybody else,
and has the client held; it answers the client for as long as it stays; then it lets the
client go, and if that was still to do, counts once more and tells the rest.

So the turns that a connection has had determine what it does next, up to how long the
client stays, and the other way round (`follows_serve`): whatever effect a connection comes
to, it is known which effects came before and how their replies show in it.
-/

namespace RewardLedger

/-- A program that begins with an effect has not had a turn yet, or had one and went on with
the reply. -/
theorem ServiceStep.follows_perform_bind_underway {β : Type} {e : Effect}
    {f : e.Reply → ServiceStep β} {turns : List Turn} {q : Program Effect Effect.Reply (Outcome β)}
    (h : (perform e >>= f).run.Follows turns q) :
    (turns = [] ∧ ∃ next, q = .call e next) ∨ ∃ task found rest reply,
      turns = ⟨task, found, e⟩ :: rest ∧ (found.handle Memory.answer e).1 = reply
        ∧ (f reply).run.Follows rest q := by
  cases turns with
  | nil => exact .inl ⟨rfl, _, h.symm⟩
  | cons t rest =>
    obtain ⟨task, found, _⟩ := t
    obtain ⟨_, same, h⟩ := h
    cases same
    exact .inr ⟨task, found, rest, _, rfl, rfl, h⟩

/-- A program that followed turns was to perform each of their effects, after those before. -/
theorem Program.Follows.split {α : Type} {p q : Program Effect Effect.Reply α}
    {before after : List Turn} {t : Turn} (h : p.Follows (before ++ t :: after) q) :
    ∃ next, p.Follows before (.call t.effect next) := by
  induction before generalizing p with
  | nil =>
    obtain ⟨next, same, -⟩ := h
    exact ⟨next, same⟩
  | cons u before ih =>
    obtain ⟨first, same, rest⟩ := h
    obtain ⟨next, rest⟩ := ih rest
    exact ⟨next, first, same, rest⟩

/-- What a program yields, the rest of it yields, and it performed nothing else. -/
theorem Program.Yields.follows {α : Type} {P : Effect → Prop} {Q : α → Prop}
    {p q : Program Effect Effect.Reply α} {turns : List Turn} (hp : p.Yields P Q)
    (h : p.Follows turns q) : (∀ t ∈ turns, P t.effect) ∧ q.Yields P Q := by
  induction turns generalizing p with
  | nil =>
    cases h
    exact ⟨fun _ ht => absurd ht List.not_mem_nil, hp⟩
  | cons t turns ih =>
    obtain ⟨next, rfl, h⟩ := h
    obtain ⟨others, rest⟩ := ih (hp.2 t.reply) h
    exact ⟨List.forall_mem_cons.2 ⟨hp.1, others⟩, rest⟩

namespace Api.Connection

open ServiceStep

/-- What the service was at each step in which a client joined. -/
structure Joining (client : Nat) where
  counted : Service Memory
  looked : Service Memory
  shown : Service Memory
  announced : Service Memory
  held : Service Memory
  /-- The client took what it was shown. -/
  welcome : (shown.write client
    (Frame.snapshot (counted.hub.activeCount + 1) looked.cache.latest).text).1 = true

namespace Joining

variable {client : Nat} (j : Joining client)

/-- How many clients are online with the one that joins. -/
def online : Nat := j.counted.hub.activeCount + 1

/-- What the client is shown first. -/
def snapshot : Frame := .snapshot j.online j.looked.cache.latest

/-- The connection that is held in the end. -/
def slot : Slot Nat := ⟨j.held.hub.nextId, client⟩

/-- The turns in which the client joined, but for the last one. -/
def coming (task : Nat) : List Turn :=
  [⟨task, j.counted, .activeCount⟩, ⟨task, j.looked, .cache .latest⟩,
    ⟨task, j.shown, .write client j.snapshot.text⟩,
    ⟨task, j.announced, .broadcast (Frame.ofUsersOnline j.online).text⟩]

/-- The turns of a client that joined and was answered. -/
def staying (task : Nat) (answers : List Turn) : List Turn :=
  j.coming task ++ ⟨task, j.held, .subscribe client⟩ :: answers

/-- Whoever joins announces one number. -/
theorem payload_of_mem_coming {task : Nat} {found : Service Memory} {payload : String}
    (h : ⟨task, found, .broadcast payload⟩ ∈ j.coming task) :
    payload = (Frame.ofUsersOnline j.online).text := by
  simp only [coming, List.mem_cons, Turn.mk.injEq, reduceCtorEq, and_false, false_or,
    List.not_mem_nil, or_false, Effect.broadcast.injEq] at h
  exact h.2.2

/-- Nobody is held twice. -/
theorem subscribe_of_mem_coming {task : Nat} {t : Turn} (h : t ∈ j.coming task) (c : Nat) :
    t.effect ≠ .subscribe c := by
  simp only [coming, List.mem_cons, List.not_mem_nil, or_false] at h
  rcases h with rfl | rfl | rfl | rfl <;> nofun

/-- Nobody is let go twice. -/
theorem unsubscribe_of_mem_staying {task : Nat} {answers : List Turn}
    (pongs : ∀ t ∈ answers, t.effect = .write client "pong") {t : Turn}
    (h : t ∈ j.staying task answers) (id : Nat) : t.effect ≠ .unsubscribe id := by
  simp only [staying, coming, List.mem_append, List.mem_cons, List.not_mem_nil, or_false] at h
  obtain (rfl | rfl | rfl | rfl) | rfl | answer := h
  · nofun
  · nofun
  · nofun
  · nofun
  · nofun
  · rw [pongs t answer]
    nofun

end Joining

/-- **What a connection did before an effect**, turn by turn. -/
inductive Course (task client : Nat) : List Turn → Effect → Prop
  | count : Course task client [] .activeCount
  | look (counted : Service Memory) :
    Course task client [⟨task, counted, .activeCount⟩] (.cache .latest)
  | greet (counted looked : Service Memory) :
    Course task client [⟨task, counted, .activeCount⟩, ⟨task, looked, .cache .latest⟩]
      (.write client (Frame.snapshot (counted.hub.activeCount + 1) looked.cache.latest).text)
  | announce (j : Joining client) : Course task client ((j.coming task).take 3)
    (.broadcast (Frame.ofUsersOnline j.online).text)
  | subscribe (j : Joining client) : Course task client (j.coming task) (.subscribe client)
  /-- The client stays, and is answered. -/
  | stay (j : Joining client) {answers : List Turn}
    (pongs : ∀ t ∈ answers, t.effect = .write client "pong") :
    Course task client (j.staying task answers) (.write client "pong")
  | leave (j : Joining client) {answers : List Turn}
    (pongs : ∀ t ∈ answers, t.effect = .write client "pong") :
    Course task client (j.staying task answers) (.unsubscribe j.slot.id)
  /-- The hub still held the connection. -/
  | recount (j : Joining client) {answers : List Turn}
    (pongs : ∀ t ∈ answers, t.effect = .write client "pong") {left : Service Memory}
    (held : (left.hub.unsubscribe j.slot.id).1 = true) :
    Course task client (j.staying task answers ++ [⟨task, left, .unsubscribe j.slot.id⟩])
      .activeCount
  | tell (j : Joining client) {answers : List Turn}
    (pongs : ∀ t ∈ answers, t.effect = .write client "pong") {left recounted : Service Memory}
    (held : (left.hub.unsubscribe j.slot.id).1 = true) :
    Course task client (j.staying task answers
        ++ [⟨task, left, .unsubscribe j.slot.id⟩, ⟨task, recounted, .activeCount⟩])
      (.broadcast (Frame.ofUsersOnline recounted.hub.activeCount).text)

/-- A client is written its snapshot third, and from then on only answers. -/
theorem Course.write {task client c : Nat} {turns : List Turn} {payload : String}
    (h : Course task client turns (.write c payload)) : turns.length = 2 ∨ payload = "pong" := by
  cases h with
  | greet => exact .inl rfl
  | stay => exact .inr rfl

/-- Whoever has a client held did all that comes before. -/
theorem Course.subscribe_eq {task client c : Nat} {turns : List Turn}
    (h : Course task client turns (.subscribe c)) :
    c = client ∧ ∃ j : Joining client, turns = j.coming task := by
  cases h with
  | subscribe j => exact ⟨rfl, j, rfl⟩

/-- Whoever lets a client go had it held, and has answered it. -/
theorem Course.unsubscribe_eq {task client id : Nat} {turns : List Turn}
    (h : Course task client turns (.unsubscribe id)) :
    ∃ (j : Joining client) (answers : List Turn), turns = j.staying task answers
      ∧ id = j.slot.id ∧ ∀ t ∈ answers, t.effect = .write client "pong" := by
  cases h with
  | leave j pongs => exact ⟨j, _, rfl, rfl, pongs⟩

/-- Whoever is answered is held. -/
theorem Course.pong {task client : Nat} {turns : List Turn} {e : Effect}
    (h : Course task client turns e) (pong : e = .write client "pong") :
    ∃ (j : Joining client) (answers : List Turn), turns = j.staying task answers
      ∧ ∀ t ∈ answers, t.effect = .write client "pong" := by
  cases h with
  | stay j pongs => exact ⟨j, _, rfl, pongs⟩
  | greet counted looked =>
    -- what a client is shown tells a number, and an answer does not
    injection pong with _ same
    have told := congrArg Frame.online? same
    rw [Frame.online?_snapshot] at told
    exact absurd told (by
      rw [show Frame.online? "pong" = none by decide]
      nofun)
  | _ => cases pong

/-- **What a connection did that is over**, turn by turn. -/
inductive Over (task client : Nat) : List Turn → Prop
  /-- The client did not take what it was shown. -/
  | turnedAway (counted looked shown : Service Memory) :
    Over task client [⟨task, counted, .activeCount⟩, ⟨task, looked, .cache .latest⟩,
      ⟨task, shown, .write client
        (Frame.snapshot (counted.hub.activeCount + 1) looked.cache.latest).text⟩]
  /-- The hub had let it go before. -/
  | evicted (j : Joining client) {answers : List Turn}
    (pongs : ∀ t ∈ answers, t.effect = .write client "pong") {left : Service Memory}
    (gone : (left.hub.unsubscribe j.slot.id).1 = false) :
    Over task client (j.staying task answers ++ [⟨task, left, .unsubscribe j.slot.id⟩])
  | left (j : Joining client) {answers : List Turn}
    (pongs : ∀ t ∈ answers, t.effect = .write client "pong")
    {left recounted told : Service Memory} (held : (left.hub.unsubscribe j.slot.id).1 = true) :
    Over task client (j.staying task answers
      ++ [⟨task, left, .unsubscribe j.slot.id⟩, ⟨task, recounted, .activeCount⟩,
        ⟨task, told, .broadcast (Frame.ofUsersOnline recounted.hub.activeCount).text⟩])

variable {task client : Nat} {turns : List Turn}

/-- Whoever announced something had its client held. -/
theorem Over.subscribed (h : Over task client turns) {t : Turn} {payload : String}
    (ht : t ∈ turns) (announced : t.effect = .broadcast payload) :
    ∃ j : Joining client, ⟨task, j.held, .subscribe client⟩ ∈ turns := by
  cases h with
  | turnedAway counted looked shown =>
    simp only [List.mem_cons, List.not_mem_nil, or_false] at ht
    obtain rfl | rfl | rfl := ht <;> cases announced
  | evicted j | left j =>
    exact ⟨j, List.mem_append_left _ (List.mem_append_right _ List.mem_cons_self)⟩

/-- Whoever let its client go while it was held told the others. -/
theorem Over.told (h : Over task client turns) {found : Service Memory} {id : Nat}
    (ht : ⟨task, found, .unsubscribe id⟩ ∈ turns) (held : (found.hub.unsubscribe id).1 = true) :
    ∃ (before : List Turn) (told recounted : Service Memory), turns = before
        ++ [⟨task, told, .broadcast (Frame.ofUsersOnline recounted.hub.activeCount).text⟩]
      ∧ ⟨task, found, .unsubscribe id⟩ ∈ before := by
  cases h with
  | turnedAway counted looked shown => simp at ht
  | evicted j pongs gone =>
    obtain ht | ht := List.mem_append.1 ht
    · exact absurd rfl (j.unsubscribe_of_mem_staying pongs ht id)
    · cases List.mem_singleton.1 ht
      rw [gone] at held
      cases held
  | @left j answers pongs left recounted told =>
    have whole (a b c : Turn) : j.staying task answers ++ [a, b, c]
        = (j.staying task answers ++ [a, b]) ++ [c] := by simp
    refine ⟨_, told, recounted, whole _ _ _, ?_⟩
    rw [whole] at ht
    obtain ht | ht := List.mem_append.1 ht
    · exact ht
    · cases List.mem_singleton.1 ht

/-- **While a client stays it is answered**, and nothing else is done; that is never refused. -/
theorem yields_attend (client : Nat) (messages : List Message) :
    (attend client messages).run.Yields (· = .write client "pong") (· = .ok ⟨⟩) := by
  induction messages with
  | nil => exact rfl
  | cons message rest ih =>
    have received : (receive client message).run.Yields (· = .write client "pong")
        (∃ goesOn, · = .ok goesOn) := by
      cases message with
      | text s =>
        rw [receive]
        by_cases ping : s = "ping"
        · rw [if_pos ping]
          exact ⟨rfl, fun taken => ⟨taken, rfl⟩⟩
        · rw [if_neg ping]
          exact ⟨true, rfl⟩
      | binary | close | lost => exact ⟨_, rfl⟩
    refine received.bind fun o ho => ?_
    obtain ⟨goesOn, rfl⟩ := ho
    cases goesOn with
    | true => exact ih
    | false => exact rfl

/-- **Joining** comes to one of its effects, to nothing if the client did not take what it was
shown, or to the number of the connection. -/
theorem follows_join (own : ∀ t ∈ turns, t.task = task)
    {q : Program Effect Effect.Reply (Outcome (Option Nat))}
    (h : (join client).run.Follows turns q) :
    (∃ e next, q = .call e next ∧ Course task client turns e)
      ∨ (q = .done (.ok none) ∧ Over task client turns)
      ∨ ∃ j : Joining client, turns = j.staying task [] ∧ q = .done (.ok (some j.slot.id)) := by
  obtain ⟨rfl, _, rfl⟩ | ⟨n, counted, rest, _, rfl, rfl, h₁⟩ := follows_perform_bind_underway h
  · exact .inl ⟨_, _, rfl, .count⟩
  obtain rfl : n = task := own _ (.head _)
  obtain ⟨rfl, _, rfl⟩ | ⟨n, looked, rest, _, rfl, rfl, h₂⟩ := follows_perform_bind_underway h₁
  · exact .inl ⟨_, _, rfl, .look counted⟩
  obtain rfl : n = _ := own _ (.tail _ (.head _))
  obtain ⟨rfl, _, rfl⟩ | ⟨n, shown, rest, written, rfl, welcome, h₃⟩ :=
    follows_perform_bind_underway h₂
  · exact .inl ⟨_, _, rfl, .greet counted looked⟩
  obtain rfl : n = _ := own _ (.tail _ (.tail _ (.head _)))
  cases written with
  | false =>
    obtain ⟨rfl, rfl⟩ := Program.follows_done h₃
    exact .inr (.inl ⟨rfl, .turnedAway counted looked shown⟩)
  | true =>
    let j (announced held : Service Memory) : Joining client :=
      ⟨counted, looked, shown, announced, held, welcome⟩
    obtain ⟨rfl, _, rfl⟩ | ⟨n, announced, rest, _, rfl, rfl, h₄⟩ :=
      follows_perform_bind_underway h₃
    · exact .inl ⟨_, _, rfl, .announce (j shown shown)⟩
    obtain rfl : n = _ := own _ (.tail _ (.tail _ (.tail _ (.head _))))
    obtain ⟨rfl, _, rfl⟩ | ⟨n, held, rest, _, rfl, rfl, h₅⟩ := follows_perform_bind_underway h₄
    · exact .inl ⟨_, _, rfl, .subscribe (j announced shown)⟩
    obtain rfl : n = _ := own _ (.tail _ (.tail _ (.tail _ (.tail _ (.head _)))))
    obtain ⟨rfl, rfl⟩ := Program.follows_done h₅
    exact .inr (.inr ⟨j announced held, rfl, rfl⟩)

/-- **A client that joined** is answered, and then let go; the rest are told only if the hub
still held it. -/
theorem follows_leave (j : Joining client) {answers : List Turn}
    (pongs : ∀ t ∈ answers, t.effect = .write client "pong") (own : ∀ t ∈ turns, t.task = task)
    {q : Program Effect Effect.Reply (Outcome PUnit)}
    (h : (leave j.slot.id).run.Follows turns q) :
    (∃ e next, q = .call e next ∧ Course task client (j.staying task answers ++ turns) e)
      ∨ ∃ r, q = .done r ∧ Over task client (j.staying task answers ++ turns) := by
  obtain ⟨rfl, _, rfl⟩ | ⟨n, left, rest, removed, rfl, held, h₁⟩ :=
    follows_perform_bind_underway h
  · rw [List.append_nil]
    exact .inl ⟨_, _, rfl, .leave j pongs⟩
  obtain rfl : n = task := own _ (.head _)
  cases removed with
  | false =>
    obtain ⟨rfl, rfl⟩ := Program.follows_done h₁
    exact .inr ⟨_, rfl, .evicted j pongs held⟩
  | true =>
    obtain ⟨rfl, _, rfl⟩ | ⟨n, recounted, rest, _, rfl, rfl, h₂⟩ :=
      follows_perform_bind_underway h₁
    · exact .inl ⟨_, _, rfl, .recount j pongs held⟩
    obtain rfl : n = _ := own _ (.tail _ (.head _))
    obtain ⟨rfl, _, rfl⟩ | ⟨n, told, rest, _, rfl, rfl, h₃⟩ :=
      follows_perform_bind_underway (f := pure) h₂
    · exact .inl ⟨_, _, rfl, .tell j pongs held⟩
    obtain rfl : n = _ := own _ (.tail _ (.tail _ (.head _)))
    obtain ⟨rfl, rfl⟩ := Program.follows_done h₃
    exact .inr ⟨_, rfl, .left j pongs held⟩

/-- **A connection comes to an effect along its course**, or it is over. -/
theorem follows_serve {messages : List Message} (own : ∀ t ∈ turns, t.task = task)
    {q : Program Effect Effect.Reply (Outcome PUnit)}
    (h : (serve client messages).run.Follows turns q) :
    (∃ e next, q = .call e next ∧ Course task client turns e)
      ∨ ∃ r, q = .done r ∧ Over task client turns := by
  obtain ⟨e', _, _, joining, rfl⟩ | ⟨_, failed, -⟩ | ⟨id?, first, second, rfl, joined, h₁⟩ :=
    follows_bind_underway h
  · obtain ⟨_, _, same, course⟩ | ⟨same, -⟩ | ⟨_, -, same⟩ := follows_join own joining
    · cases same
      exact .inl ⟨_, _, rfl, course⟩
    · cases same
    · cases same
  · obtain ⟨_, _, same, -⟩ | ⟨same, -⟩ | ⟨_, -, same⟩ := follows_join own failed <;> cases same
  have own₁ := fun t ht => own t (List.mem_append_left _ ht)
  have own₂ := fun t ht => own t (List.mem_append_right _ ht)
  obtain ⟨_, _, same, -⟩ | ⟨same, ended⟩ | ⟨j, rfl, same⟩ := follows_join own₁ joined
  · cases same
  · cases same
    obtain ⟨rfl, rfl⟩ := Program.follows_done h₁
    rw [List.append_nil]
    exact .inr ⟨_, rfl, ended⟩
  cases same
  have whole (answers turns : List Turn) :
      j.staying task [] ++ (answers ++ turns) = j.staying task answers ++ turns := by
    simp [Joining.staying]
  obtain ⟨e', _, _, answering, rfl⟩ | ⟨_, failed, -⟩ | ⟨_, answers, third, rfl, answered, h₂⟩ :=
    follows_bind_underway (x := attend client messages) h₁
  · obtain ⟨pongs, rest⟩ := (yields_attend client messages).follows answering
    cases rest.1
    refine .inl ⟨_, _, rfl, ?_⟩
    have course : Course task client _ _ := .stay j pongs
    rwa [← List.append_nil (j.staying task second), ← whole, List.append_nil] at course
  · cases ((yields_attend client messages).follows failed).2
  · have pongs := ((yields_attend client messages).follows answered).1
    rw [whole]
    exact follows_leave j pongs (fun t ht => own₂ t (List.mem_append_right _ ht)) h₂

/-- Whatever effect a connection comes to, it came there along its course. -/
theorem course_of_follows {messages : List Message} {e : Effect}
    {next : e.Reply → Program Effect Effect.Reply (Outcome PUnit)}
    (own : ∀ t ∈ turns, t.task = task)
    (h : (serve client messages).run.Follows turns (.call e next)) :
    Course task client turns e := by
  obtain ⟨_, _, same, course⟩ | ⟨_, same, -⟩ := follows_serve own h
  · cases same
    exact course
  · cases same

end Api.Connection

end RewardLedger
