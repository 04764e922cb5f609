import Mathlib.Logic.Relation
import RewardLedger.Api.Router
import RewardLedger.Proofs.Store.Run
import RewardLedger.Service

/-!
# Tasks that take turns

Many tasks work on one service at the same time: claims, deliveries, requests
of every kind. Each performs one effect after the other, and between two of them
anything may happen, to the store as well as to everything around it. A pool is
a service with the tasks at work on it, and its steps are all that can happen
next, so a statement about every pool that can be reached is a statement about
every order in which the effects of any number of tasks can be served.

Two things carry over from the tasks one by one. The store of a pool has only
ever been given commands, whoever gave them (`Pool.Reachable.store`). And a task
that is finished has come to its value along its own program, with others at
work in between (`Pool.Reachable.finishes`); what the program ensures whatever
others do holds for it in the pool.
-/

namespace RewardLedger

/-! ## What others do in the meantime -/

/-- **Something happens to a service**: a command to its store, or anything at
all to what is around the store. -/
def Service.Disturbed (s s' : Service Memory) : Prop :=
  s'.store = s.store ∨ ∃ c : Memory.Command, s'.store = (s.store.perform c).2

/-- Anything may have happened any number of times. -/
def Service.Meanwhile : Service Memory → Service Memory → Prop :=
  Relation.ReflTransGen Service.Disturbed

/-- **A program can come to a value** on a service, with others at work before
each of its effects and at the end. -/
def Program.Finishes {α : Type} :
    Program Effect Effect.Reply α → Service Memory → α → Service Memory → Prop
  | .done b, s, a, s' => a = b ∧ s.Meanwhile s'
  | .call e next, s, a, s' => ∃ s₁, s.Meanwhile s₁
    ∧ (next (s₁.handle Memory.answer e).1).Finishes (s₁.handle Memory.answer e).2 a s'

namespace Service

/-- An effect disturbs the service at most by a request to its store. -/
theorem disturbed_handle (s : Service Memory) (e : Effect) :
    s.Disturbed (s.handle Memory.answer e).2 := by
  cases e with
  | store op => exact .inr ⟨.request op, rfl⟩
  | write client payload =>
    left
    show (s.write client payload).2.store = s.store
    unfold write
    cases s.clients[client]? <;> rfl
  | _ => exact .inl rfl

/-- The store can still be reached after whatever happened. -/
theorem Meanwhile.reachable {s s' : Service Memory} (h : s.Meanwhile s')
    (reach : s.store.Reachable) : s'.store.Reachable := by
  induction h with
  | refl => exact reach
  | tail _ last ih =>
    obtain same | ⟨c, commanded⟩ := last
    · rw [same]
      exact ih
    · rw [commanded]
      exact ih.perform c

end Service

namespace Program

variable {α β : Type} {p : Program Effect Effect.Reply α} {s s₁ s' : Service Memory} {a : α}

/-- Whatever happens before a program starts may as well happen before its first
effect. -/
theorem Finishes.of_meanwhile (h : p.Finishes s₁ a s') (before : s.Meanwhile s₁) :
    p.Finishes s a s' := by
  cases p with
  | done b => exact ⟨h.1, before.trans h.2⟩
  | call e next =>
    obtain ⟨s₂, hs₂, rest⟩ := h
    exact ⟨s₂, before.trans hs₂, rest⟩

/-- To everybody else a program is one of the things that happen in the
meantime. -/
theorem Finishes.meanwhile (h : p.Finishes s a s') : s.Meanwhile s' := by
  induction p generalizing s with
  | done b => exact h.2
  | call e next ih =>
    obtain ⟨s₁, hs₁, rest⟩ := h
    exact (hs₁.tail (s₁.disturbed_handle e)).trans (ih _ rest)

/-- **A program that comes to a value in two parts** comes to a value with the
first and then with the second. -/
theorem finishes_bind {f : α → Program Effect Effect.Reply β} {b : β}
    (h : (p.bind f).Finishes s b s') :
    ∃ a s₁, p.Finishes s a s₁ ∧ (f a).Finishes s₁ b s' := by
  induction p generalizing s with
  | done a => exact ⟨a, s, ⟨rfl, .refl⟩, h⟩
  | call e next ih =>
    obtain ⟨s₁, hs₁, rest⟩ := h
    obtain ⟨a, s₂, first, second⟩ := ih _ rest
    exact ⟨a, s₂, ⟨s₁, hs₁, first⟩, second⟩

end Program

/-! ## Programs that may be refused -/

namespace ServiceStep

variable {α β : Type} {s s' : Service Memory}

/-- A program in two parts that may be refused either stops in the first part,
or comes to a value with it and goes on with the second. -/
theorem finishes_bind {x : ServiceStep α} {f : α → ServiceStep β} {r : Outcome β}
    (h : Program.Finishes (x >>= f).run s r s') :
    (∃ fault s₁, Program.Finishes x.run s (.error fault) s₁ ∧ r = .error fault
        ∧ s₁.Meanwhile s')
      ∨ ∃ a s₁, Program.Finishes x.run s (.ok a) s₁ ∧ Program.Finishes (f a).run s₁ r s' := by
  obtain ⟨o, s₁, first, second⟩ := Program.finishes_bind (p := x.run) h
  cases o with
  | error fault => exact .inl ⟨fault, s₁, first, second.1, second.2⟩
  | ok a => exact .inr ⟨a, s₁, first, second⟩

/-- Performing an effect cannot be refused. -/
theorem finishes_perform {e : Effect} {r : Outcome e.Reply}
    (h : Program.Finishes (perform e).run s r s') :
    ∃ s₁, s.Meanwhile s₁ ∧ r = .ok (s₁.handle Memory.answer e).1
      ∧ (s₁.handle Memory.answer e).2.Meanwhile s' := by
  obtain ⟨s₁, hs₁, rfl, hs'⟩ := h
  exact ⟨s₁, hs₁, rfl, hs'⟩

/-- Asking the store comes to what the store answers. -/
theorem finishes_ask {op : StoreOp} {r : op.Reply}
    (h : Program.Finishes (ask op).run s r s') :
    ∃ s₁, s.Meanwhile s₁ ∧ r = (s₁.store.answer op).1
      ∧ (s₁.handle Memory.answer (.store op)).2.Meanwhile s' := by
  obtain ⟨fault, s₂, first, -⟩ | ⟨o, s₂, first, second⟩ :=
    finishes_bind (x := attempt op) (f := ofOutcome) h
  · obtain ⟨_, _, impossible, _⟩ := finishes_perform first
    cases impossible
  · obtain ⟨s₁, hs₁, replied, hs₂⟩ := finishes_perform first
    cases replied
    have same : r = (s₁.store.answer op).1 ∧ s₂.Meanwhile s' := by
      change Program.Finishes (ofOutcome (s₁.store.answer op).1).run s₂ r s' at second
      generalize (s₁.store.answer op).1 = o at second
      cases o with
      | ok a => exact second
      | error fault => exact second
    exact ⟨s₁, hs₁, same.1, hs₂.trans same.2⟩

/-- A program that is only watched comes to its outcome, whatever it is. -/
theorem finishes_observe {x : ServiceStep α} {o : Outcome α}
    (h : Program.Finishes (observe x).run s (.ok o) s') :
    ∃ s₁, Program.Finishes x.run s o s₁ ∧ s₁.Meanwhile s' := by
  obtain ⟨o', s₁, first, same, hs'⟩ := Program.finishes_bind (p := x.run) h
  cases same
  exact ⟨s₁, first, hs'⟩

end ServiceStep

namespace Api.Handler

variable {α β : Type} {s s' : Service Memory}

/-- A handler in two parts that comes to an answer comes to it with both. -/
theorem finishes_bind {x : Handler α} {f : α → Handler β} {b : β}
    (h : Program.Finishes (x >>= f).run.run s (.ok (.ok b)) s') :
    ∃ a s₁, Program.Finishes x.run.run s (.ok (.ok a)) s₁
      ∧ Program.Finishes (f a).run.run s₁ (.ok (.ok b)) s' := by
  obtain ⟨fault, s₁, -, impossible, -⟩ | ⟨o, s₁, first, second⟩ :=
    ServiceStep.finishes_bind (x := x.run) h
  · cases impossible
  · cases o with
    | error rejection => cases second.1
    | ok a => exact ⟨a, s₁, first, second⟩

/-- A handler that lets the service work comes to an answer when the service
does. -/
theorem finishes_serve {x : ServiceStep α} {a : α}
    (h : Program.Finishes (serve x).run.run s (.ok (.ok a)) s') :
    ∃ s₁, Program.Finishes x.run s (.ok a) s₁ ∧ s₁.Meanwhile s' := by
  obtain ⟨o, s₂, first, second⟩ := finishes_bind h
  obtain ⟨lifted, s₁, observed, kept⟩ :=
    Program.finishes_bind (p := (ServiceStep.observe x).run) first
  -- a handler that only watches is never refused itself
  cases lifted with
  | error fault => cases kept.1
  | ok o' =>
    obtain ⟨same, hs₂⟩ := kept
    cases same
    obtain ⟨s₀, hx, hs₁⟩ := ServiceStep.finishes_observe observed
    cases o with
    | ok b =>
      obtain ⟨same, hs'⟩ := second
      cases same
      exact ⟨s₀, hx, hs₁.trans (hs₂.trans hs')⟩
    | error fault =>
      cases fault with
      | error cause => cases second.1
      | outOfRange => cases second.1

/-- The response of a handler is the one it came to, unless the request was
rejected. -/
theorem finishes_response {h : Handler Response} {response : Response}
    (finished : Program.Finishes h.response.run s (.ok response) s') :
    (∃ s₁, Program.Finishes h.run.run s (.ok (.ok response)) s₁ ∧ s₁.Meanwhile s')
      ∨ ∃ rejection : Rejection, response = rejection.response := by
  obtain ⟨fault, s₁, -, impossible, -⟩ | ⟨o, s₁, first, second⟩ :=
    ServiceStep.finishes_bind (x := h.run) finished
  · cases impossible
  · cases o with
    | error rejection =>
      cases second.1
      exact .inr ⟨rejection, rfl⟩
    | ok response =>
      obtain ⟨same, hs'⟩ := second
      cases same
      exact .inl ⟨s₁, first, hs'⟩

end Api.Handler

/-! ## Pools -/

/-- One task: the program that it began as, and what is left of it. -/
structure Task where
  Value : Type
  began : Program Effect Effect.Reply Value
  rest : Program Effect Effect.Reply Value

/-- A service on a store in memory, with the tasks at work on it. -/
structure Pool where
  service : Service Memory
  tasks : List Task

namespace Pool

/-- **What can happen next in a pool.** -/
inductive Step : Pool → Pool → Prop
  /-- A task is begun. -/
  | start (p : Pool) {α : Type} (program : Program Effect Effect.Reply α) :
    Step p { p with tasks := ⟨α, program, program⟩ :: p.tasks }
  /-- One of the tasks performs its next effect. -/
  | act (s : Service Memory) (before after : List Task) {α : Type}
    (began : Program Effect Effect.Reply α) (e : Effect)
    (next : e.Reply → Program Effect Effect.Reply α) :
    Step ⟨s, before ++ ⟨α, began, .call e next⟩ :: after⟩
      ⟨(s.handle Memory.answer e).2,
        before ++ ⟨α, began, next (s.handle Memory.answer e).1⟩ :: after⟩
  /-- Something happens that no task does. -/
  | disturb (p : Pool) {s : Service Memory} (h : p.service.Disturbed s) :
    Step p { p with service := s }

/-- **The pool can be in this state**, having started with an empty store. -/
inductive Reachable : Pool → Prop
  | new (s : Service Memory) (h : s.store = .empty) : Reachable ⟨s, []⟩
  | step {p p' : Pool} (reach : p.Reachable) (step : p.Step p') : Reachable p'

/-- A step disturbs the service. -/
theorem Step.disturbed {p p' : Pool} (step : p.Step p') :
    p.service.Disturbed p'.service := by
  cases step with
  | start => exact .inl rfl
  | act s before after began e next => exact s.disturbed_handle e
  | disturb _ h => exact h

/-- **The store of a pool has only been given commands**, whoever gave them. -/
theorem Reachable.store {p : Pool} (reach : p.Reachable) : p.service.store.Reachable := by
  induction reach with
  | new s h => exact h ▸ .empty
  | step _ step ih => exact Service.Meanwhile.reachable (.single step.disturbed) ih

/-- **The store may be given any run** before a task gets a turn. -/
theorem Reachable.after {s : Service Memory} {tasks : List Task} (reach : Reachable ⟨s, tasks⟩)
    (run : List Memory.Command) : Reachable ⟨{ s with store := s.store.after run }, tasks⟩ := by
  induction run generalizing s with
  | nil => exact reach
  | cons c rest ih =>
    exact ih (s := { s with store := (s.store.perform c).2 })
      (reach.step (.disturb ⟨s, tasks⟩ (.inr ⟨c, rfl⟩)))

/-- **A task may be served to its end** before any other gets a turn. -/
theorem Reachable.run {s : Service Memory} (before : List Task) {after : List Task} {α : Type}
    {began rest : Program Effect Effect.Reply α}
    (reach : Reachable ⟨s, before ++ ⟨α, began, rest⟩ :: after⟩) :
    Reachable ⟨(rest.run (Service.handle Memory.answer) s).2,
      before ++ ⟨α, began, .done (rest.run (Service.handle Memory.answer) s).1⟩ :: after⟩ := by
  induction rest generalizing s with
  | done a => exact reach
  | call e next ih => exact ih _ (reach.step (.act s before after began e next))

/-- Whatever a task can still come to, it can come to from its beginning. -/
def Sound (p : Pool) : Prop :=
  ∀ task ∈ p.tasks, ∀ a s', task.rest.Finishes p.service a s' →
    ∃ s₀, s₀.store.Reachable ∧ task.began.Finishes s₀ a s'

/-- **Every step is either taken by a task along its own program, or is one of
the things that happen to it in the meantime.** -/
theorem Sound.step {p p' : Pool} (sound : p.Sound) (reach : p.service.store.Reachable)
    (step : p.Step p') : p'.Sound := by
  intro task htask a s' h
  cases step with
  | start p program =>
    rcases List.mem_cons.1 htask with rfl | htask
    · exact ⟨p.service, reach, h⟩
    · exact sound task htask a s' h
  | act s before after began e next =>
    -- to those who wait the effect is one of the things that happen
    have idle : ∀ other ∈ before ++ ⟨_, began, .call e next⟩ :: after,
        ∀ b, other.rest.Finishes (s.handle Memory.answer e).2 b s' →
          ∃ s₀, s₀.store.Reachable ∧ other.began.Finishes s₀ b s' := fun other hother b hb =>
      sound other hother b s' (hb.of_meanwhile (.single (s.disturbed_handle e)))
    rcases List.mem_append.1 htask with hbefore | htask
    · exact idle task (List.mem_append_left _ hbefore) a h
    · rcases List.mem_cons.1 htask with rfl | hafter
      · -- the task at work has taken one step along its program
        have hcall : (Program.call e next).Finishes s a s' := ⟨s, .refl, h⟩
        exact sound ⟨_, began, .call e next⟩
          (List.mem_append_right _ List.mem_cons_self) a s' hcall
      · exact idle task (List.mem_append_right _ (List.mem_cons_of_mem _ hafter)) a h
  | disturb _ disturbed => exact sound task htask a s' (h.of_meanwhile (.single disturbed))

theorem Reachable.sound {p : Pool} (reach : p.Reachable) : p.Sound := by
  induction reach with
  | new s h =>
    intro task htask
    cases htask
  | step reach step ih => exact ih.step reach.store step

/-- **A task that is finished came to its value along its program**, with others
at work in between. -/
theorem Reachable.finishes {p : Pool} (reach : p.Reachable) {α : Type}
    {program : Program Effect Effect.Reply α} {a : α}
    (finished : ⟨α, program, .done a⟩ ∈ p.tasks) :
    ∃ s₀, s₀.store.Reachable ∧ program.Finishes s₀ a p.service :=
  reach.sound _ finished a p.service ⟨rfl, .refl⟩

end Pool

end RewardLedger
