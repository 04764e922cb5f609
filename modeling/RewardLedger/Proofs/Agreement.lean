import RewardLedger.Proofs.Database.Unit

/-!
# A relational store agrees with one in memory

The store in memory goes through its tables row by row and goes back when it is
refused. The relational store sends statements, and leaves the checks, the order
of rows and the undoing to the database. Both answer alike: on a database that
holds what the tables hold, every request is answered with the same value or
refused for the same cause, and what is left corresponds again, down to the
identifiers that will be given out next (`Agrees.answer`, and for sequences of
requests `agrees_with_memory`).

The rows of a relation may stand in any order. Requests are meant whose values
the database can hold (`StoreOp.Portable`).
-/

namespace RewardLedger

namespace Database

/-- The database after requests that are served one after the other. -/
def after (d : Database) (ops : List StoreOp) : Database :=
  ops.foldl (fun d op => (d.answer op).2) d

/-- The replies to them, each with its request. -/
def log (d : Database) : List StoreOp → List (Σ c : Memory.Command, c.Reply)
  | [] => []
  | op :: rest => ⟨.request op, (d.answer op).1⟩ :: (d.answer op).2.log rest

/-- **The database and the store in memory correspond**: both are ready, hold the
same rows and give out the same identifiers next. -/
structure Agrees (d : Database) (m : Memory) : Prop where
  relations : d.relations.Holds m.tables
  given : d.given = m.tables.counters
  idle : d.session = .idle
  usable : m.disabled = false
  unarmed : m.armed = none

namespace Agrees

/-- A database that corresponds is known but for the order of its rows. -/
theorem eq_idle {d : Database} {m : Memory} (h : d.Agrees m) :
    d = ⟨d.relations, m.tables.counters, .idle⟩ := by
  obtain ⟨relations, given, session⟩ := d
  cases h.given
  cases h.idle
  rfl

section Answer

variable {d : Database} {m : Memory} (h : d.Agrees m) (reach : m.Reachable) {op : StoreOp}
  (portable : op.Portable)

include h reach portable

/-- A write has the same answer, if all sums of it fit. -/
theorem answer_write (write : op.IsWrite) (on : (m.answer op).2.disabled = false) :
    (d.answer op).1 = (m.answer op).1 ∧ (d.answer op).2.Agrees (m.answer op).2 := by
  have wf := reach.wellFormed h.usable
  have numbered := reach.incomesNumbered h.usable
  cases valid : op.invalid? with
  | some cause =>
    rw [m.answer_of_invalid valid]
    have refused : d.answer op = (.refuse cause, d) := run_of_invalid valid d
    rw [refused]
    exact ⟨rfl, h⟩
  | none =>
    have ends := reach.writes write
    generalize m.answer op = answered at on ends ⊢
    obtain ⟨reply, m'⟩ := answered
    cases ends with
    | invalid why => exact absurd (valid.symm.trans why) nofun
    | disabled off => exact absurd off (ne_true_of_eq_false h.usable)
    | @refused cause _ why =>
      have refused : d.answer op = (.refuse cause, d) := by
        rw [h.eq_idle]
        exact run_of_refuses h.relations wf portable valid why
      rw [refused]
      exact ⟨rfl, h⟩
    | stopped _ armed => exact absurd (armed.symm.trans h.unarmed) nofun
    | @kept a t _ _ room did =>
      obtain ⟨r', ran, holds⟩ := run_of_commits h.relations wf numbered portable room did
      have kept : d.answer op = (.ok a, ⟨r', t.counters, .idle⟩) := by
        rw [h.eq_idle]
        exact ran
      rw [kept]
      exact ⟨rfl, ⟨holds, rfl, rfl, h.usable, h.unarmed⟩⟩
    | outOfRange _ _ off => exact absurd off (ne_true_of_eq_false on)

/-- **Every request is answered alike**, and leaves a database and a store that
correspond. -/
theorem answer (on : (m.answer op).2.disabled = false) :
    (d.answer op).1 = (m.answer op).1 ∧ (d.answer op).2.Agrees (m.answer op).2 := by
  by_cases write : op.IsWrite
  · exact h.answer_write reach portable write on
  · have read : d.answer op = ((m.answer op).1, d) := by
      rw [h.eq_idle]
      exact run_of_read h.relations (reach.wellFormed h.usable) (reach.incomesNumbered h.usable)
        h.usable rfl portable write
    rw [read, m.answer_of_not_write write]
    exact ⟨rfl, h⟩

end Answer

/-- Requests that are served one after the other are answered alike. -/
theorem run {d : Database} {m : Memory} (h : d.Agrees m) (reach : m.Reachable)
    {ops : List StoreOp} (portable : ∀ op ∈ ops, op.Portable)
    (on : (m.after (ops.map .request)).disabled = false) :
    d.log ops = m.log (ops.map .request)
      ∧ (d.after ops).Agrees (m.after (ops.map .request)) := by
  induction ops generalizing d m with
  | nil => exact ⟨rfl, h⟩
  | cons op rest ih =>
    have reach' : (m.answer op).2.Reachable := reach.perform (.request op)
    have on' : (m.answer op).2.disabled = false := reach'.usable_of_after _ on
    obtain ⟨same, h'⟩ := h.answer reach (portable op List.mem_cons_self) on'
    obtain ⟨log, agrees⟩ :=
      ih h' reach' (fun op hop => portable op (List.mem_cons_of_mem _ hop)) on
    refine ⟨?_, agrees⟩
    show ⟨.request op, (d.answer op).1⟩ :: (d.answer op).2.log rest
      = ⟨.request op, (m.answer op).1⟩ :: (m.answer op).2.log (rest.map .request)
    rw [same, log]

end Agrees

/-- **A relational store agrees with one in memory.** From a database and a store
that correspond, every sequence of requests whose values the database can hold is
answered alike, reply by reply, as long as no number leaves its range, which
would disable the store (`Memory.Reachable.disabled_after`); and after each of
them the database and the store correspond. -/
theorem agrees_with_memory {m : Memory} (reach : m.Reachable) {d : Database} (h : d.Agrees m)
    (ops : List StoreOp) (portable : ∀ op ∈ ops, op.Portable)
    (on : (m.after (ops.map .request)).disabled = false) :
    d.log ops = m.log (ops.map .request)
      ∧ ∀ before, before <+: ops → (d.after before).Agrees (m.after (before.map .request)) := by
  refine ⟨(h.run reach portable on).1, ?_⟩
  rintro before ⟨rest, rfl⟩
  rw [List.map_append, Memory.after_append] at on
  have on' := (reach.after (before.map .request)).usable_of_after _ on
  exact (h.run reach (fun op hop => portable op (List.mem_append_left _ hop)) on').2

/-- The rows of a database stand in another order. A share is paid, its event
comes again, one withdrawal is not covered and the next one is: the database
answers what the store does. -/
theorem agrees_with_memory_of_shared_credit :
    let m := Memory.empty.after
      [.request (.createUser ⟨"a@x", "first", none, 300⟩ ⟨0, 0⟩),
        .request (.createUser ⟨"b@x", "second", some 1, 300⟩ ⟨0, 0⟩)]
    let first : User := ⟨1, "a@x", "first", 0, 0, 0, 0, none, 300, none, ⟨0, 0⟩⟩
    let second : User := ⟨2, "b@x", "second", 0, 0, 0, 0, some 1, 300, none, ⟨0, 0⟩⟩
    let d : Database := ⟨⟨[second, first], [], [], [], [], [], []⟩, ⟨2, 0, 0⟩, .idle⟩
    let credit : PartnerCredit := ⟨.offerwow, "k", 2, 50, 5, ⟨10, 0⟩⟩
    let uncovered : NewWithdrawal := ⟨2, "second", 60, ⟨11, 0⟩⟩
    let covered : NewWithdrawal := ⟨2, "second", 20, ⟨12, 500000⟩⟩
    let ops : List StoreOp :=
      [.creditPartner credit, .creditPartner credit, .createWithdrawal uncovered,
        .createWithdrawal covered, .user 1]
    m.Reachable ∧ d.Agrees m ∧ (∀ op ∈ ops, op.Portable)
      ∧ d.log ops =
        [⟨.request (.creditPartner credit),
            Except.ok ⟨⟨1, 2, some 1, .offerwow, 50, 5, ⟨10, 0⟩⟩, "second", true⟩⟩,
          ⟨.request (.creditPartner credit), Outcome.refuse (.duplicate .offerwow "k" 2)⟩,
          ⟨.request (.createWithdrawal uncovered), Outcome.refuse (.insufficientBalance 2 60)⟩,
          ⟨.request (.createWithdrawal covered), Except.ok (covered.row 1)⟩,
          ⟨.request (.user 1), Except.ok { first with balance := 5, totalFromReferees := 5 }⟩] := by
  intro m first second d credit uncovered covered ops
  have reach : m.Reachable := Memory.Reachable.empty.after _
  have agrees : d.Agrees m :=
    { relations :=
        { users := by decide
          incomes := .nil
          withdrawals := .nil
          dayTotals := fun _ _ => ⟨nofun, nofun⟩
          policies := ⟨[], .nil, .nil, rfl⟩
          bands := ⟨[], .nil, .nil, rfl⟩
          events := fun _ _ _ => ⟨nofun, nofun⟩
          balances := by decide }
      given := rfl
      idle := rfl
      usable := rfl
      unarmed := rfl }
  have portable : ∀ op ∈ ops, op.Portable := by decide
  have usable : (m.after (ops.map .request)).disabled = false := by decide
  obtain ⟨same, -⟩ := agrees_with_memory reach agrees ops portable usable
  exact ⟨reach, agrees, portable, same.trans rfl⟩

end Database

end RewardLedger
