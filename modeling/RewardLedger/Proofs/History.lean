import RewardLedger.Proofs.Interleaving
import RewardLedger.Proofs.Performing

/-!
# Histories

A pool shows where its tasks stand, but not how they came there: what a task was
told on the way, and in which order the tasks had their turns. A **history** is a
pool with all of that, a list of the turns that were taken. A turn names the task
that took it, the service that the task found, and the effect that it performed,
so whatever the effect did can be read off the turn.

Which programs may be begun, and what may happen around them, depends on what the
history is about. Both are part of a **setting**, in which a history is reachable.
-/

namespace RewardLedger

/-- **One turn of a task.** -/
structure Turn where
  /-- How many tasks were begun before this one. -/
  task : Nat
  /-- The service that the task found. -/
  found : Service Memory
  effect : Effect

namespace Turn

/-- What the task was told. -/
def reply (t : Turn) : t.effect.Reply := (t.found.handle Memory.answer t.effect).1

/-- The service that the task left. -/
def left (t : Turn) : Service Memory := (t.found.handle Memory.answer t.effect).2

end Turn

/-! ## Following a program -/

namespace Program

variable {α β : Type}

/-- **A program follows turns**: it performed their effects, was told their
replies, and is left with the rest. -/
def Follows : Program Effect Effect.Reply α → List Turn → Program Effect Effect.Reply α → Prop
  | p, [], q => p = q
  | p, t :: turns, q => ∃ next, p = .call t.effect next ∧ (next t.reply).Follows turns q

/-- A program that is finished takes no turn. -/
theorem follows_done {a : α} {turns : List Turn} {q : Program Effect Effect.Reply α}
    (h : (Program.done a).Follows turns q) : turns = [] ∧ q = .done a := by
  cases turns with
  | nil =>
    cases h
    exact ⟨rfl, rfl⟩
  | cons t turns =>
    obtain ⟨_, impossible, _⟩ := h
    cases impossible

/-- A program follows one more turn. -/
theorem Follows.snoc {p : Program Effect Effect.Reply α} {turns : List Turn} {t : Turn}
    {next : t.effect.Reply → Program Effect Effect.Reply α}
    (h : p.Follows turns (.call t.effect next)) :
    p.Follows (turns ++ [t]) (next t.reply) := by
  induction turns generalizing p with
  | nil => exact ⟨next, h, rfl⟩
  | cons u turns ih =>
    obtain ⟨first, rfl, h⟩ := h
    exact ⟨first, rfl, ih h⟩

/-- A program in two parts that came to a value followed the first, and then the
second. -/
theorem follows_bind {p : Program Effect Effect.Reply α}
    {f : α → Program Effect Effect.Reply β} {turns : List Turn} {b : β}
    (h : (p.bind f).Follows turns (.done b)) :
    ∃ a first second, turns = first ++ second ∧ p.Follows first (.done a)
      ∧ (f a).Follows second (.done b) := by
  induction p generalizing turns with
  | done a => exact ⟨a, [], turns, rfl, rfl, h⟩
  | call e next ih =>
    cases turns with
    | nil => cases h
    | cons t turns =>
      obtain ⟨rest, same, h⟩ := h
      cases same
      obtain ⟨a, first, second, rfl, hfirst, hsecond⟩ := ih _ h
      exact ⟨a, t :: first, second, rfl, ⟨next, rfl, hfirst⟩, hsecond⟩

/-- A program in two parts that is under way is still in the first part, or came to a
value with it and is in the second. -/
theorem follows_bind_underway {p : Program Effect Effect.Reply α}
    {f : α → Program Effect Effect.Reply β} {turns : List Turn}
    {q : Program Effect Effect.Reply β} (h : (p.bind f).Follows turns q) :
    (∃ e next, p.Follows turns (.call e next) ∧ q = (Program.call e next).bind f)
      ∨ ∃ a first second, turns = first ++ second ∧ p.Follows first (.done a)
        ∧ (f a).Follows second q := by
  induction p generalizing turns with
  | done a => exact .inr ⟨a, [], turns, rfl, rfl, h⟩
  | call e next ih =>
    cases turns with
    | nil => exact .inl ⟨e, next, rfl, h.symm⟩
    | cons t turns =>
      obtain ⟨rest, same, h⟩ := h
      cases same
      obtain ⟨e, rest, hrest, rfl⟩ | ⟨a, first, second, rfl, hfirst, hsecond⟩ := ih _ h
      · exact .inl ⟨e, rest, ⟨next, rfl, hrest⟩, rfl⟩
      · exact .inr ⟨a, t :: first, second, rfl, ⟨next, rfl, hfirst⟩, hsecond⟩

/-- What a program may perform is all that it performed, and all that the rest of
it may perform. -/
theorem Performs.follows {P : Effect → Prop} {p q : Program Effect Effect.Reply α}
    {turns : List Turn} (hp : p.Performs P) (h : p.Follows turns q) :
    (∀ t ∈ turns, P t.effect) ∧ q.Performs P := by
  induction turns generalizing p with
  | nil =>
    cases h
    exact ⟨fun _ ht => absurd ht List.not_mem_nil, hp⟩
  | cons t turns ih =>
    obtain ⟨next, rfl, h⟩ := h
    obtain ⟨others, rest⟩ := ih (hp.2 t.reply) h
    refine ⟨fun u hu => ?_, rest⟩
    rcases List.mem_cons.1 hu with rfl | hu
    · exact hp.1
    · exact others u hu

/-- The turns that a task takes if it is served to its end. -/
def turns (task : Nat) : Program Effect Effect.Reply α → Service Memory → List Turn
  | .done _, _ => []
  | .call e next, s =>
    ⟨task, s, e⟩
      :: (next (s.handle Memory.answer e).1).turns task (s.handle Memory.answer e).2

end Program

namespace ServiceStep

variable {α β : Type}

/-- A program in two parts that may be refused either stopped in the first part,
or came to a value with it and went on with the second. -/
theorem follows_bind {x : ServiceStep α} {f : α → ServiceStep β} {turns : List Turn}
    {r : Outcome β} (h : (x >>= f).run.Follows turns (.done r)) :
    (∃ fault, x.run.Follows turns (.done (.error fault)) ∧ r = .error fault)
      ∨ ∃ a first second, turns = first ++ second ∧ x.run.Follows first (.done (.ok a))
        ∧ (f a).run.Follows second (.done r) := by
  obtain ⟨o, first, second, rfl, hfirst, hsecond⟩ := Program.follows_bind (p := x.run) h
  cases o with
  | ok a => exact .inr ⟨a, first, second, rfl, hfirst, hsecond⟩
  | error fault =>
    obtain ⟨rfl, stopped⟩ := Program.follows_done hsecond
    cases stopped
    exact .inl ⟨fault, by rwa [List.append_nil], rfl⟩

/-- A program in two parts that may be refused is still in the first part, or was refused
there, or came to a value with it and is in the second. -/
theorem follows_bind_underway {x : ServiceStep α} {f : α → ServiceStep β} {turns : List Turn}
    {q : Program Effect Effect.Reply (Outcome β)} (h : (x >>= f).run.Follows turns q) :
    (∃ e next next', x.run.Follows turns (.call e next) ∧ q = .call e next')
      ∨ (∃ fault, x.run.Follows turns (.done (.error fault)) ∧ q = .done (.error fault))
      ∨ ∃ a first second, turns = first ++ second ∧ x.run.Follows first (.done (.ok a))
        ∧ (f a).run.Follows second q := by
  obtain ⟨e, next, hx, rfl⟩ | ⟨o, first, second, rfl, hfirst, hsecond⟩ :=
    Program.follows_bind_underway (p := x.run) h
  · exact .inl ⟨e, next, _, hx, rfl⟩
  · cases o with
    | ok a => exact .inr (.inr ⟨a, first, second, rfl, hfirst, hsecond⟩)
    | error fault =>
      obtain ⟨rfl, stopped⟩ := Program.follows_done hsecond
      exact .inr (.inl ⟨fault, by rwa [List.append_nil], stopped⟩)

/-- A program in two parts that was not refused came to a value with both. -/
theorem follows_bind_ok {x : ServiceStep α} {f : α → ServiceStep β} {turns : List Turn} {b : β}
    (h : (x >>= f).run.Follows turns (.done (.ok b))) :
    ∃ a first second, turns = first ++ second ∧ x.run.Follows first (.done (.ok a))
      ∧ (f a).run.Follows second (.done (.ok b)) := by
  obtain ⟨_, -, same⟩ | parts := follows_bind h
  · cases same
  · exact parts

/-- **What holds of every turn of a program in two parts** if it holds of what the first
performs, and of the turns of the second after each of its values. -/
theorem forall_follows_bind {P : Effect → Prop} {x : ServiceStep α} {f : α → ServiceStep β}
    {turns : List Turn} {q : Program Effect Effect.Reply (Outcome β)} (hx : x.run.Performs P)
    (hf : ∀ a first second, turns = first ++ second → x.run.Follows first (.done (.ok a)) →
      (f a).run.Follows second q → ∀ t ∈ second, P t.effect)
    (h : (x >>= f).run.Follows turns q) : ∀ t ∈ turns, P t.effect := by
  obtain ⟨_, _, _, under, -⟩ | ⟨_, refused, -⟩ | ⟨a, first, second, rfl, before, after⟩ :=
    follows_bind_underway h
  · exact (hx.follows under).1
  · exact (hx.follows refused).1
  · exact List.forall_mem_append.2 ⟨(hx.follows before).1, hf a first second rfl before after⟩

/-- Performing an effect takes one turn, and goes on with the reply. -/
theorem follows_perform_bind {e : Effect} {f : e.Reply → ServiceStep β} {turns : List Turn}
    {r : Outcome β} (h : (perform e >>= f).run.Follows turns (.done r)) :
    ∃ task found rest, turns = ⟨task, found, e⟩ :: rest
      ∧ (f (found.handle Memory.answer e).1).run.Follows rest (.done r) := by
  cases turns with
  | nil => cases h
  | cons t rest =>
    obtain ⟨task, found, e⟩ := t
    obtain ⟨_, same, h⟩ := h
    cases same
    exact ⟨task, found, rest, rfl, h⟩

/-- Going on with an outcome takes no turn. -/
theorem follows_ofOutcome {o r : Outcome α} {turns : List Turn}
    (h : (ofOutcome o).run.Follows turns (.done r)) : turns = [] ∧ r = o := by
  cases o with
  | ok a | error fault =>
    obtain ⟨rfl, same⟩ := Program.follows_done h
    cases same
    exact ⟨rfl, rfl⟩

/-- Asking the store takes one turn, and comes to what the store answers in it. -/
theorem follows_ask {op : StoreOp} {turns : List Turn} {r : op.Reply}
    (h : (ask op).run.Follows turns (.done r)) :
    ∃ task found, turns = [⟨task, found, .store op⟩] ∧ r = (found.store.answer op).1 := by
  obtain ⟨task, found, rest, rfl, replied⟩ :=
    follows_perform_bind (e := .store op) (f := ofOutcome) h
  obtain ⟨rfl, rfl⟩ := follows_ofOutcome replied
  exact ⟨task, found, rfl, rfl⟩

end ServiceStep

/-! ## Histories -/

/-- A pool, and the turns that its tasks have taken. -/
structure History where
  pool : Pool
  /-- Oldest first. -/
  turns : List Turn

/-- A store that holds nothing can be reached. -/
theorem Service.reachable_of_empty (s : Service Memory) (new : s.store = .empty) :
    s.store.Reachable := by
  rw [new]
  exact .empty

/-- **What a history is about**: the services it may begin with, the programs
that may be begun, and what may happen around them. -/
structure Setting where
  Initial : Service Memory → Prop
  Begins : {α : Type} → Program Effect Effect.Reply α → Prop
  Around : Service Memory → Service Memory → Prop
  reachable_of_initial : ∀ s, Initial s → s.store.Reachable
  /-- Nothing happens around that could not happen to any service. -/
  disturbed_of_around : ∀ s s', Around s s' → s.Disturbed s'

namespace History

/-- The services that there were, oldest first: before each turn, and now. -/
def services (h : History) : List (Service Memory) :=
  h.turns.map (·.found) ++ [h.pool.service]

/-- The turns of one task. -/
def turnsOf (h : History) (task : Nat) : List Turn := h.turns.filter fun t => t.task = task

/-- **The tasks ran one after another**: whichever came first had all of its turns
before the next one had any. -/
def Sequential (h : History) : Prop := ∃ order : List Nat, h.turns = order.flatMap h.turnsOf

/-- The turns of the tasks up to a number are all turns that were taken by them, in
another order. -/
theorem perm_flatMap_turns (turns : List Turn) (n : Nat) (early : ∀ t ∈ turns, t.task < n) :
    turns.Perm ((List.range n).flatMap fun task => turns.filter fun t => t.task = task) := by
  induction n generalizing turns with
  | zero =>
    rw [List.eq_nil_iff_forall_not_mem.2 fun t ht => Nat.not_lt_zero _ (early t ht)]
    rfl
  | succ n ih =>
    let before := turns.filter fun t => t.task < n
    have others := ih before fun t ht => of_decide_eq_true (List.mem_filter.1 ht).2
    have own : ∀ task ∈ List.range n,
        (before.filter fun t => t.task = task) = turns.filter fun t => t.task = task := by
      intro task htask
      rw [List.filter_filter]
      refine List.filter_congr fun t _ => ?_
      have := List.mem_range.1 htask
      by_cases same : t.task = task <;> simp [same, this]
    have last : (turns.filter fun t => !decide (t.task < n))
        = turns.filter fun t => t.task = n := by
      refine List.filter_congr fun t ht => ?_
      have := early t ht
      rw [← decide_not, decide_eq_decide]
      omega
    rw [List.flatMap_congr own] at others
    rw [List.range_succ, List.flatMap_append, List.flatMap_singleton, ← last]
    exact (List.filter_append_perm _ turns).symm.trans (others.append_right _)

/-- **What can happen next.** -/
inductive Step (S : Setting) (h : History) : History → Prop
  /-- A task is begun. -/
  | start {α : Type} {program : Program Effect Effect.Reply α}
    (begins : S.Begins program) :
    Step S h { h with pool.tasks := h.pool.tasks ++ [⟨α, program, program⟩] }
  /-- One of the tasks has a turn. -/
  | act {n : Nat} {α : Type} {began : Program Effect Effect.Reply α}
    {e : Effect} {next : e.Reply → Program Effect Effect.Reply α}
    (calls : h.pool.tasks[n]? = some ⟨α, began, .call e next⟩) :
    Step S h
      ⟨⟨(h.pool.service.handle Memory.answer e).2,
          h.pool.tasks.set n ⟨α, began, next (h.pool.service.handle Memory.answer e).1⟩⟩,
        h.turns ++ [⟨n, h.pool.service, e⟩]⟩
  /-- Something happens around the tasks. -/
  | around {s : Service Memory} (aside : S.Around h.pool.service s) :
    Step S h { h with pool.service := s }

/-- **The history is possible in a setting.** -/
inductive Reachable (S : Setting) : History → Prop
  | new {s : Service Memory} (initial : S.Initial s) : Reachable S ⟨⟨s, []⟩, []⟩
  | step {h h' : History} (reach : h.Reachable S) (step : h.Step S h') : Reachable S h'

namespace Reachable

variable {S : Setting} {h : History} (reach : h.Reachable S)

include reach

/-- **What every effect keeps, and whatever happens around**, holds of the service
now and of all that the tasks found. -/
theorem invariant {P : Service Memory → Prop} (initial : ∀ s, S.Initial s → P s)
    (handle : ∀ s e, P s → P (s.handle Memory.answer e).2)
    (around : ∀ s s', P s → S.Around s s' → P s') :
    P h.pool.service ∧ ∀ t ∈ h.turns, P t.found := by
  induction reach with
  | new new => exact ⟨initial _ new, fun t ht => absurd ht List.not_mem_nil⟩
  | step _ step ih =>
    obtain ⟨now, before⟩ := ih
    cases step with
    | start => exact ⟨now, before⟩
    | act =>
      refine ⟨handle _ _ now, fun t ht => ?_⟩
      rcases List.mem_append.1 ht with ht | ht
      · exact before t ht
      · cases List.mem_singleton.1 ht
        exact now
    | around aside => exact ⟨around _ _ now aside, before⟩

/-- The store has only been given commands, whoever gave them, and so has the store
that a task found when it had a turn. -/
theorem stores :
    h.pool.service.store.Reachable ∧ ∀ t ∈ h.turns, t.found.store.Reachable :=
  reach.invariant S.reachable_of_initial
    (fun s e reached => Service.Meanwhile.reachable (.single (s.disturbed_handle e)) reached)
    (fun s s' reached aside =>
      Service.Meanwhile.reachable (.single (S.disturbed_of_around s s' aside)) reached)

theorem store : h.pool.service.store.Reachable := reach.stores.1

theorem found {t : Turn} (ht : t ∈ h.turns) : t.found.store.Reachable := reach.stores.2 t ht

/-- Every turn was taken by a task that was begun. -/
theorem task_lt {t : Turn} (ht : t ∈ h.turns) : t.task < h.pool.tasks.length := by
  induction reach with
  | new => cases ht
  | step _ step ih =>
    cases step with
    | start =>
      rw [List.length_append]
      exact Nat.lt_add_right _ (ih ht)
    | act calls =>
      rw [List.length_set]
      rcases List.mem_append.1 ht with ht | ht
      · exact ih ht
      · cases List.mem_singleton.1 ht
        exact (List.getElem?_eq_some_iff.1 calls).1
    | around => exact ih ht

/-- **Every turn is one of a task's**, however the tasks took turns. -/
theorem turns_perm : h.turns.Perm ((List.range h.pool.tasks.length).flatMap h.turnsOf) :=
  perm_flatMap_turns _ _ fun _ => reach.task_lt

/-- Who was not begun had no turn. -/
theorem turnsOf_of_length_le {n : Nat} (late : h.pool.tasks.length ≤ n) : h.turnsOf n = [] :=
  List.filter_eq_nil_iff.2 fun t ht same => by
    have early := reach.task_lt ht
    rw [decide_eq_true_eq] at same
    omega

/-- **Every task follows its own turns** along its program, which is one that may
be begun. -/
theorem follows {n : Nat} {task : Task} (hn : h.pool.tasks[n]? = some task) :
    S.Begins task.began ∧ task.began.Follows (h.turnsOf n) task.rest := by
  induction reach generalizing task with
  | new => cases hn
  | @step h _ reach step ih =>
    cases step with
    | start begins =>
      rw [List.getElem?_append] at hn
      split at hn
      · exact ih hn
      · next late =>
        -- whoever is begun now has had no turn
        have none := reach.turnsOf_of_length_le (Nat.le_of_not_lt late)
        obtain ⟨rfl⟩ := List.mem_singleton.1 (List.mem_of_getElem? hn)
        refine ⟨begins, ?_⟩
        show Program.Follows _ (h.turnsOf n) _
        rw [none]
        rfl
    | @act k α began e next calls =>
      have own : (h.turns ++ [Turn.mk k h.pool.service e]).filter (fun t => t.task = n)
          = h.turnsOf n ++ if k = n then [Turn.mk k h.pool.service e] else [] := by
        rw [List.filter_append, List.filter_cons]
        by_cases same : k = n <;> simp [turnsOf, same]
      show S.Begins _ ∧ Program.Follows _ (List.filter _ _) _
      rw [own]
      rw [List.getElem?_set] at hn
      split at hn
      · next same =>
        subst same
        rw [if_pos (List.getElem?_eq_some_iff.1 calls).1] at hn
        cases hn
        obtain ⟨begins, before⟩ := ih calls
        rw [if_pos rfl]
        exact ⟨begins, before.snoc (t := ⟨k, _, e⟩)⟩
      · next other =>
        rw [if_neg other, List.append_nil]
        exact ih hn
    | around => exact ih hn

/-- A condition on whatever may be performed holds of every turn. -/
theorem performs {P : Effect → Prop}
    (all : ∀ {α : Type} {p : Program Effect Effect.Reply α}, S.Begins p → p.Performs P)
    {t : Turn} (ht : t ∈ h.turns) : P t.effect := by
  have hn := List.getElem?_eq_getElem (reach.task_lt ht)
  obtain ⟨begins, follows⟩ := reach.follows hn
  exact ((all begins).follows follows).1 t (List.mem_filter.2 ⟨ht, decide_eq_true rfl⟩)

/-- **A task may be served to its end** before any other has a turn. -/
theorem run {n : Nat} {α : Type} {began rest : Program Effect Effect.Reply α}
    (hn : h.pool.tasks[n]? = some ⟨α, began, rest⟩) :
    Reachable S
      ⟨⟨(rest.run (Service.handle Memory.answer) h.pool.service).2,
          h.pool.tasks.set n
            ⟨α, began, .done (rest.run (Service.handle Memory.answer) h.pool.service).1⟩⟩,
        h.turns ++ rest.turns n h.pool.service⟩ := by
  obtain ⟨⟨s, tasks⟩, turns⟩ := h
  induction rest generalizing s tasks turns with
  | done a =>
    have same : tasks.set n ⟨α, began, .done a⟩ = tasks := by
      obtain ⟨hlt, hget⟩ := List.getElem?_eq_some_iff.1 hn
      rw [← hget]
      exact List.set_getElem_self hlt
    simp only [Program.run_done, Program.turns, List.append_nil]
    rw [same]
    exact reach
  | call e next ih =>
    have hlt := (List.getElem?_eq_some_iff.1 hn).1
    have served := ih (s.handle Memory.answer e).1 _ _ _ (reach.step (.act hn))
      (List.getElem?_set_self hlt)
    rwa [List.set_set, List.append_assoc] at served

end Reachable

end History

end RewardLedger
