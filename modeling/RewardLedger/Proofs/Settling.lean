import RewardLedger.Crediting
import RewardLedger.Proofs.Interleaving
import RewardLedger.Proofs.Performing
import RewardLedger.Proofs.Solvency
import RewardLedger.Settlement

/-!
# Tasks that pay out

A program **settles** if whatever it withdraws it withdraws by a request to the
settlement (`Program.Settles`); requests and sweeps do, and so does everything
that never withdraws. In a pool of such programs, in which credits take nothing
away, nobody can withdraw more than it earned, and a request is granted exactly
when the balance covers it at the moment in which the store serves it.
-/

namespace RewardLedger

/-! ## Programs that settle -/

/-- **Whatever the program withdraws it withdraws by requests to the
settlement**, wherever in its course it makes them. -/
inductive Program.Settles {α : Type} : Program Effect Effect.Reply α → Prop
  | done (a : α) : Settles (.done a)
  | call {e : Effect} {next : e.Reply → Program Effect Effect.Reply α}
    (never : e.AsksOnly fun op => ¬ op.Withdraws) (rest : ∀ reply, (next reply).Settles) :
    Settles (.call e next)
  | request (user : Int) (address : String) (amount : Int)
    {next : Outcome Withdrawal → Program Effect Effect.Reply α}
    (rest : ∀ outcome, (next outcome).Settles) :
    Settles ((Settlement.request user address amount).run.bind next)

/-- A program in two parts settles if its parts do. -/
theorem Program.settles_bind {α β : Type} {p : Program Effect Effect.Reply α}
    {f : α → Program Effect Effect.Reply β} (hp : p.Settles) (hf : ∀ a, (f a).Settles) :
    (p.bind f).Settles := by
  induction hp with
  | done a => exact hf a
  | call never _ ih => exact .call never ih
  | request user address amount _ ih =>
    rw [bind_assoc]
    exact .request user address amount ih

namespace ServiceStep

variable {α β : Type}

/-- A program that may be refused settles if its parts do. -/
theorem settles_bind {x : ServiceStep α} {f : α → ServiceStep β} (hx : x.run.Settles)
    (hf : ∀ a, (f a).run.Settles) : (x >>= f).run.Settles := by
  refine Program.settles_bind (p := x.run) hx fun o => ?_
  cases o with
  | ok a => exact hf a
  | error fault => exact .done _

theorem settles_perform {e : Effect} (never : e.AsksOnly fun op => ¬ op.Withdraws) :
    (perform e).run.Settles :=
  .call never fun _ => .done _

theorem settles_ask {op : StoreOp} (never : ¬ op.Withdraws) : (ask op).run.Settles := by
  refine settles_bind (settles_perform never) fun o => ?_
  cases o <;> exact .done _

theorem settles_observe {x : ServiceStep α} (hx : x.run.Settles) : (observe x).run.Settles :=
  Program.settles_bind (p := x.run) hx fun _ => .done _

end ServiceStep

namespace Settlement

open ServiceStep

/-- **A request for a positive amount to an address that is not blank** looks at
the clock, asks the store, and tells what the store replied. -/
theorem run_request {user amount : Int} {address : String} (positive : 0 < amount)
    (written : ¬ Text.Blank address) :
    (request user address amount).run = .call Effect.now fun now =>
      .call (.store (.createWithdrawal ⟨user, address, amount, now⟩)) .done := by
  unfold request
  rw [if_neg (Int.not_le.2 positive), if_neg written]
  refine congrArg (Program.call Effect.now) (funext fun now => ?_)
  refine congrArg (Program.call (Effect.store (.createWithdrawal _))) (funext fun r => ?_)
  cases r <;> rfl

/-- A request asks for nothing but its withdrawal, and for that only if the
amount is positive. -/
theorem performs_request {P : StoreOp → Prop} {user amount : Int} {address : String}
    (asks : 0 < amount → ∀ now, P (.createWithdrawal ⟨user, address, amount, now⟩)) :
    (request user address amount).run.Performs (Effect.AsksOnly P) := by
  by_cases positive : amount ≤ 0
  · unfold request
    rw [if_pos positive]
    trivial
  · by_cases written : Text.Blank address
    · unfold request
      rw [if_neg positive, if_pos written]
      trivial
    · rw [run_request (Int.not_le.1 positive) written]
      exact ⟨trivial, fun now => ⟨asks (Int.not_le.1 positive) now, fun _ => trivial⟩⟩

/-- A batch asks for a move only if the pipeline has it. -/
theorem performs_advance {P : StoreOp → Prop} {ids : List Int} {current next : WithdrawalStatus}
    {transaction : Option String}
    (asks : current.Advances next → ∀ now,
      P (.advanceWithdrawals ids current next transaction now)) :
    (advance ids current next transaction).run.Performs (Effect.AsksOnly P) := by
  unfold advance
  by_cases allowed : current.Advances next
  · rw [if_neg (not_not_intro allowed)]
    exact performs_bind (performs_perform trivial) fun now => performs_ask (asks allowed now)
  · rw [if_pos allowed]
    trivial

/-- A request settles, being one. -/
theorem settles_request (user : Int) (address : String) (amount : Int) :
    (request user address amount).run.Settles := by
  have alone := Program.Settles.request user address amount fun o => Program.Settles.done o
  rw [Program.bind_done] at alone
  exact alone

/-- So does a request that is made again. -/
theorem settles_requestTwice (user : Int) (address : String) (amount : Int) :
    (requestTwice user address amount).run.Settles := by
  have once := settles_observe (settles_request user address amount)
  refine settles_bind once fun o => ?_
  cases o with
  | ok w => exact .done _
  | error fault =>
    cases fault with
    | error cause => exact once
    | outOfRange => exact .done _

/-- **A sweep settles**, whatever balances it was told. -/
theorem settles_sweep (least : Int) : (sweep least).run.Settles := by
  refine settles_bind (settles_ask id) fun users => ?_
  induction users with
  | nil => exact .done _
  | cons u rest ih =>
    refine settles_bind (settles_requestTwice u.id u.address u.balance) fun o => ?_
    cases o with
    | ok w => exact settles_bind ih fun _ => .done _
    | error fault =>
      cases fault with
      | error cause => exact settles_bind ih fun _ => .done _
      | outOfRange => exact .done _

end Settlement

/-- What settles never asks for anything but positive amounts. -/
theorem Program.Settles.takesPositive {α : Type} {p : Program Effect Effect.Reply α}
    (h : p.Settles) : p.Performs (Effect.AsksOnly StoreOp.TakesPositive) := by
  induction h with
  | done a => trivial
  | @call e next never rest ih =>
    refine ⟨?_, ih⟩
    cases e with
    | store op => exact StoreOp.takesPositive_of_not_withdraws never
    | _ => trivial
  | request user address amount _ ih =>
    exact performs_bind (Settlement.performs_request fun positive _ => positive) ih

/-- Crediting a partner's event settles, for it never withdraws. -/
theorem Crediting.settles_creditPartner (source : IncomeSource) (key : String)
    (user amount : Int) : (creditPartner source key user amount).run.Settles := by
  obtain ⟨cause, -, refused⟩ | ⟨-, -, goes⟩ := creditPartner_cases source key user amount
  · rw [refused]
    exact .done _
  · rw [goes]
    refine ServiceStep.settles_bind (ServiceStep.settles_perform trivial) fun policy => ?_
    refine ServiceStep.settles_bind (ServiceStep.settles_perform trivial) fun now => ?_
    refine ServiceStep.settles_bind (ServiceStep.settles_ask id) fun receipt => ?_
    exact .call trivial fun _ => .call trivial fun _ => .done _

/-! ## Requests that the store serves -/

/-- **A request is granted exactly when the balance covers it**, and if it is
not nothing happens. -/
structure Memory.SettlesRequest (m : Memory) (order : NewWithdrawal) : Prop where
  granted_iff : (∃ w, (m.answer (.createWithdrawal order)).1 = .ok w)
    ↔ ∃ u, m.tables.users.get? order.user = some u ∧ order.amount ≤ u.balance
  granted : ∀ w, (m.answer (.createWithdrawal order)).1 = .ok w →
    w = order.row (m.tables.counters.withdrawals + 1)
      ∧ (m.answer (.createWithdrawal order)).2 = { m with tables := m.tables.payOut w }
  refused : (¬ ∃ w, (m.answer (.createWithdrawal order)).1 = .ok w) →
    m.answer (.createWithdrawal order)
      = (.refuse (.insufficientBalance order.user order.amount), m)

/-- A store that can be used and has no fail point armed on the way settles
every request. -/
theorem Memory.Reachable.settlesRequest {m : Memory} (reach : m.Reachable)
    (on : m.disabled = false) (clear : m.armed ≠ some .afterDebit) {order : NewWithdrawal}
    (positive : 0 < order.amount) : m.SettlesRequest order := by
  have ends := reach.writes (show (StoreOp.createWithdrawal order).IsWrite from trivial)
  have fits := reach.hasRoom_createWithdrawal on positive
  generalize hr : (m.answer (.createWithdrawal order)).1 = r,
    hm : (m.answer (.createWithdrawal order)).2 = m' at ends
  have both : m.answer (.createWithdrawal order) = (r, m') := by rw [← hr, ← hm]
  cases ends with
  | invalid why => cases why
  | disabled off => exact absurd off (ne_true_of_eq_false on)
  | outOfRange _ why => exact absurd fits why
  | @stopped p _ armed reached =>
    cases p with
    | afterDebit => exact absurd armed clear
    | _ => exact reached.elim
  | kept _ _ _ did =>
    obtain ⟨u, hu, cover, rfl, rfl⟩ := did
    refine ⟨?_, ?_, ?_⟩
    · rw [hr]
      exact ⟨fun _ => ⟨u, hu, cover⟩, fun _ => ⟨_, rfl⟩⟩
    · intro w hw
      rw [hr] at hw
      cases hw
      exact ⟨rfl, hm⟩
    · intro never
      rw [hr] at never
      exact absurd ⟨_, rfl⟩ never
  | refused _ why =>
    obtain ⟨short, rfl⟩ := why
    refine ⟨?_, ?_, fun _ => both⟩
    · rw [hr]
      constructor
      · rintro ⟨w, hw⟩
        cases hw
      · rintro ⟨u, hu, cover⟩
        exact absurd cover (Int.not_le.2 (short u hu))
    · intro w hw
      rw [hr] at hw
      cases hw

/-! ## Pools that settle -/

/-- What a command asks of the store, if it asks it at all. -/
def Memory.Command.AsksOnly (P : StoreOp → Prop) : Memory.Command → Prop
  | request op => P op
  | _ => True

namespace Pool

/-- **The pool can be in this state**, having started with an empty store, if
credits take nothing away and every withdrawal passes through the
settlement. -/
inductive Settled : Pool → Prop
  | new (s : Service Memory) (h : s.store = .empty) : Settled ⟨s, []⟩
  /-- A task that settles is begun. -/
  | start {p : Pool} (settled : p.Settled) {α : Type} {program : Program Effect Effect.Reply α}
    (settles : program.Settles) :
    Settled { p with tasks := ⟨α, program, program⟩ :: p.tasks }
  /-- One of the tasks performs its next effect. -/
  | act {s : Service Memory} (before : List Task) {after : List Task} {α : Type}
    {began : Program Effect Effect.Reply α} {e : Effect}
    {next : e.Reply → Program Effect Effect.Reply α}
    (settled : Settled ⟨s, before ++ ⟨α, began, .call e next⟩ :: after⟩)
    (gives : e.AsksOnly StoreOp.Gives) :
    Settled ⟨(s.handle Memory.answer e).2,
      before ++ ⟨α, began, next (s.handle Memory.answer e).1⟩ :: after⟩
  /-- The store is given a command by somebody else. -/
  | command {p : Pool} (settled : p.Settled) (c : Memory.Command)
    (harmless : c.AsksOnly fun op => op.Gives ∧ ¬ op.Withdraws) :
    Settled { p with service := { p.service with store := (p.service.store.perform c).2 } }
  /-- Something happens around the store. -/
  | around {p : Pool} (settled : p.Settled) {s : Service Memory}
    (same : s.store = p.service.store) : Settled { p with service := s }

namespace Settled

/-- **The store may be given any harmless run** before a task gets a turn. -/
theorem after {s : Service Memory} {tasks : List Task} (settled : Settled ⟨s, tasks⟩)
    (run : List Memory.Command)
    (harmless : ∀ c ∈ run, c.AsksOnly fun op => op.Gives ∧ ¬ op.Withdraws) :
    Settled ⟨{ s with store := s.store.after run }, tasks⟩ := by
  induction run generalizing s with
  | nil => exact settled
  | cons c rest ih =>
    exact ih (settled.command c (harmless c List.mem_cons_self))
      fun d hd => harmless d (List.mem_cons_of_mem c hd)

/-- **A task may be served to its end** before any other gets a turn, if
whatever it credits takes nothing away. -/
theorem run {s : Service Memory} (before : List Task) {after : List Task} {α : Type}
    {began rest : Program Effect Effect.Reply α}
    (settled : Settled ⟨s, before ++ ⟨α, began, rest⟩ :: after⟩)
    (gives : rest.Performs (Effect.AsksOnly StoreOp.Gives)) :
    Settled ⟨(rest.run (Service.handle Memory.answer) s).2,
      before ++ ⟨α, began, .done (rest.run (Service.handle Memory.answer) s).1⟩ :: after⟩ := by
  induction rest generalizing s with
  | done a => exact settled
  | call e next ih => exact ih _ (settled.act before gives.1) (gives.2 _)

variable {p : Pool} (settled : p.Settled)

include settled

/-- A pool that settles is one of the pools that can be reached. -/
theorem reachable : p.Reachable := by
  induction settled with
  | new s h => exact .new s h
  | start _ _ ih => exact ih.step (.start _ _)
  | act _ _ _ ih => exact ih.step (.act _ _ _ _ _ _)
  | command _ c _ ih => exact ih.step (.disturb _ (.inr ⟨c, rfl⟩))
  | around _ same ih => exact ih.step (.disturb _ (.inl same))

/-- Whatever a task still asks for is of a positive amount. -/
theorem takesPositive : ∀ task ∈ p.tasks,
    task.rest.Performs (Effect.AsksOnly StoreOp.TakesPositive) := by
  induction settled with
  | new s h =>
    intro task htask
    cases htask
  | start _ settles ih =>
    intro task htask
    rcases List.mem_cons.1 htask with rfl | htask
    · exact settles.takesPositive
    · exact ih task htask
  | @act s before after α began e next _ _ ih =>
    intro task htask
    rcases List.mem_append.1 htask with hbefore | htask
    · exact ih task (List.mem_append_left _ hbefore)
    · rcases List.mem_cons.1 htask with rfl | hafter
      · have whole := ih ⟨α, began, .call e next⟩
          (List.mem_append_right _ List.mem_cons_self)
        exact whole.2 _
      · exact ih task (List.mem_append_right _ (List.mem_cons_of_mem _ hafter))
  | command _ _ _ ih => exact ih
  | around _ _ ih => exact ih

/-- **Everybody stays solvent**, in whatever order the tasks take turns. -/
theorem solvent : p.service.store.tables.Solvent := by
  induction settled with
  | new s h =>
    rw [h]
    exact Tables.solvent_empty
  | start _ _ ih => exact ih
  | @act s before after α began e next settled gives ih =>
    show (s.handle Memory.answer e).2.store.tables.Solvent
    rw [Effect.store_handle]
    cases e with
    | store op =>
      have next := settled.takesPositive ⟨α, began, .call (.store op) next⟩
        (List.mem_append_right _ List.mem_cons_self)
      exact settled.reachable.store.solvent_answer ih gives next.1
    | _ => exact ih
  | @command p settled c harmless ih =>
    have reach := settled.reachable.store
    cases c with
    | request op =>
      exact reach.solvent_answer ih harmless.1
        (StoreOp.takesPositive_of_not_withdraws harmless.2)
    | addPolicy policy =>
      exact Memory.transact_write_keeps ih (ih.of_same rfl (fun _ => rfl) ih.balance)
    | addBand band =>
      exact Memory.transact_write_keeps ih (ih.of_same rfl (fun _ => rfl) ih.balance)
    | arm point => exact ih
  | @around p _ s same ih =>
    show s.store.tables.Solvent
    rw [same]
    exact ih

end Settled

/-- **Nobody withdraws more than it earned.** In every pool that settles, in
whatever order its tasks took turns, no balance is below zero and what a user
withdrew is at most the sum of its own credits and of its shares, even if a
credit was abandoned half way. A request for a positive amount to an address
that is not blank comes to what the store replies when it is served: if the
store is not disabled and no fail point is armed on the way, the request is
granted exactly when the user exists and its balance covers the amount; if the
store is disabled the request is told so, and nothing is withdrawn. -/
theorem balances_cover_withdrawals {p : Pool} (settled : p.Settled) :
    let m := p.service.store
    (∀ id u, m.tables.users.get? id = some u → 0 ≤ u.balance)
      ∧ (∀ user, m.tables.withdrawnBy user
        ≤ m.tables.sumOf (·.user = user) (·.amount)
          + m.tables.sumOf (·.referrer = some user) (·.referrerAmount))
      ∧ ∀ user address amount, 0 < amount → ¬ Text.Blank address →
        (Settlement.request user address amount).run = .call Effect.now (fun now =>
            .call (.store (.createWithdrawal ⟨user, address, amount, now⟩)) .done)
          ∧ ∀ now, let order : NewWithdrawal := ⟨user, address, amount, now⟩
            (m.disabled = false → m.armed ≠ some .afterDebit → m.SettlesRequest order)
              ∧ (m.disabled = true → m.answer (.createWithdrawal order)
                = (.refuse Memory.disabledError, m)) := by
  intro m
  have solvent : m.tables.Solvent := settled.solvent
  refine ⟨solvent.balance, solvent.covered, fun user address amount positive written => ?_⟩
  refine ⟨Settlement.run_request positive written, fun now => ⟨fun on clear => ?_, fun off => ?_⟩⟩
  · exact settled.reachable.store.settlesRequest on clear positive
  · exact Memory.transact_of_disabled off _

/-- A sweep reads a balance of 100, and a request takes 60 of it before the
sweep asks for it. The sweep is refused twice. -/
theorem balances_cover_withdrawals_of_stale_sweep :
    ∃ p : Pool, p.Settled
      ∧ p.tasks =
        [⟨_, (Settlement.request 1 "out" 60).run,
            .done (.ok ⟨1, 1, "out", 60, .pending, none, ⟨0, 0⟩, ⟨0, 0⟩⟩)⟩,
          ⟨_, (Settlement.sweep 1).run,
            .done (.ok ⟨[], [(1, .insufficientBalance 1 100)]⟩)⟩]
      ∧ p.service.store.tables.withdrawnBy 1
        ≤ p.service.store.tables.sumOf (·.user = 1) (·.amount)
          + p.service.store.tables.sumOf (·.referrer = some 1) (·.referrerAmount)
      ∧ p.service.store.SettlesRequest ⟨1, "out", 40, ⟨0, 0⟩⟩ := by
  have started : Settled ⟨Service.new Memory.empty 10 ⟨0, 0⟩, []⟩ := .new _ rfl
  have credited := started.after
    [.request (.createUser ⟨"a@x", "addr", none, 300⟩ ⟨0, 0⟩),
      .request (.creditPartner ⟨.offertoro, "k", 1, 100, 0, ⟨0, 0⟩⟩)]
    (by simp [Memory.Command.AsksOnly, StoreOp.Gives, StoreOp.Withdraws])
  have read := Settled.act [] (credited.start (Settlement.settles_sweep 1)) trivial
  have requested := Settled.run [] (read.start (Settlement.settles_request 1 "out" 60))
    (Settlement.performs_request fun _ _ => trivial)
  have swept := Settled.run [⟨_, (Settlement.request 1 "out" 60).run, _⟩] requested
    (by
      refine ⟨trivial, fun _ => ⟨trivial, fun reply => ?_⟩⟩
      obtain (cause | _) | w := reply
      · refine ⟨trivial, fun _ => ⟨trivial, fun again => ?_⟩⟩
        obtain (cause | _) | w := again <;> trivial
      · trivial
      · trivial)
  have bounds := balances_cover_withdrawals swept
  refine ⟨_, swept, rfl, bounds.2.1 1, ?_⟩
  have request := bounds.2.2 1 "out" 40 (by decide) (by decide)
  exact (request.2 ⟨0, 0⟩).1 rfl (by decide)

/-- In a store that was disabled by a credit a request is refused, although the
balance covers it. -/
theorem request_unserved_when_disabled :
    ¬ ∀ p : Pool, p.Settled → p.service.store.armed = none → ∀ order : NewWithdrawal,
      0 < order.amount → ¬ Text.Blank order.address →
        ((∃ w, (p.service.store.answer (.createWithdrawal order)).1 = .ok w)
          ↔ ∃ u, p.service.store.tables.users.get? order.user = some u
            ∧ order.amount ≤ u.balance) := by
  intro h
  have started : Settled ⟨Service.new Memory.empty 10 ⟨0, 0⟩, []⟩ := .new _ rfl
  have overflown := started.after
    [.request (.createUser ⟨"a@x", "addr", none, 300⟩ ⟨0, 0⟩),
      .request (.creditPartner ⟨.offertoro, "k", 1, Amount.greatest, 0, ⟨0, 0⟩⟩),
      .request (.creditPartner ⟨.offertoro, "l", 1, 1, 0, ⟨0, 0⟩⟩)]
    (by simp [Memory.Command.AsksOnly, StoreOp.Gives, StoreOp.Withdraws, Amount.greatest])
  have granted := (h _ overflown rfl ⟨1, "out", 1, ⟨0, 0⟩⟩ (by decide) (by decide)).2
    ⟨_, rfl, by decide⟩
  obtain ⟨w, hw⟩ := granted
  cases hw

end Pool

end RewardLedger
