import RewardLedger.Proofs.Performing
import RewardLedger.Store.Relational

/-!
# Courses of exchanges

A program of statements meets a database that may reply whatever it likes: rows
that are no users, counts that make no sense, refusals, or nothing at all. A
**course** is one way in which that can go, as the list of the exchanges and the
value that the program came to (`Program.Exchanges`). What holds for every
course holds whatever the database replies.

Inside a transaction every reply is judged before the program goes on. A
**check** is a statement with the judgement of its reply, and a unit that is
made of checks stops at the first reply that is not good enough
(`Checks.stops`). Around the unit stand the brackets of its transaction, and a
course of a transaction ends in one of four ways (`TransactionCourse`).
-/

namespace RewardLedger

/-! ## Courses -/

/-- A statement, and what came back. -/
abbrev Exchange := Statement × DatabaseReply

/-- **A program can come to a value through these exchanges.** -/
def Program.Exchanges {α : Type} :
    Program Statement (fun _ => DatabaseReply) α → List Exchange → α → Prop
  | .done b, log, a => log = [] ∧ a = b
  | .call s next, log, a =>
    ∃ reply rest, log = (s, reply) :: rest ∧ (next reply).Exchanges rest a

namespace Program

variable {α β : Type} {p : Program Statement (fun _ => DatabaseReply) α} {log : List Exchange}

/-- A course of a program in two parts is a course of the first and then one of
the second. -/
theorem exchanges_bind {f : α → Program Statement (fun _ => DatabaseReply) β} {b : β}
    (course : (p.bind f).Exchanges log b) :
    ∃ a first second, log = first ++ second ∧ p.Exchanges first a
      ∧ (f a).Exchanges second b := by
  induction p generalizing log with
  | done a => exact ⟨a, [], log, rfl, ⟨rfl, rfl⟩, course⟩
  | call s next ih =>
    obtain ⟨reply, rest, rfl, course⟩ := course
    obtain ⟨a, first, second, rfl, hfirst, hsecond⟩ := ih reply course
    exact ⟨a, (s, reply) :: first, second, rfl, ⟨reply, first, rfl, hfirst⟩, hsecond⟩

/-- **What is left of a program** after some exchanges. -/
def Leads (p : Program Statement (fun _ => DatabaseReply) α) :
    List Exchange → Program Statement (fun _ => DatabaseReply) α → Prop
  | [], q => p = q
  | (s, reply) :: log, q => ∃ next, p = .call s next ∧ (next reply).Leads log q

/-- A program goes on with the next exchange. -/
theorem Leads.snoc {s : Statement}
    {next : DatabaseReply → Program Statement (fun _ => DatabaseReply) α}
    (h : p.Leads log (.call s next)) (reply : DatabaseReply) :
    p.Leads (log ++ [(s, reply)]) (next reply) := by
  induction log generalizing p with
  | nil => exact ⟨next, h, rfl⟩
  | cons e rest ih =>
    obtain ⟨following, rfl, h⟩ := h
    exact ⟨following, rfl, ih h⟩

/-- What the rest of a program can come to the program can come to. -/
theorem Leads.exchanges {q : Program Statement (fun _ => DatabaseReply) α}
    {rest : List Exchange} {a : α} (h : p.Leads log q) (course : q.Exchanges rest a) :
    p.Exchanges (log ++ rest) a := by
  induction log generalizing p with
  | nil =>
    cases h
    exact course
  | cons e others ih =>
    obtain ⟨following, rfl, h⟩ := h
    exact ⟨e.2, others ++ rest, rfl, ih h⟩

/-- Every program can come to an end. -/
theorem exists_exchanges (p : Program Statement (fun _ => DatabaseReply) α) :
    ∃ log a, p.Exchanges log a := by
  induction p with
  | done a => exact ⟨[], a, rfl, rfl⟩
  | call s next ih =>
    obtain ⟨rest, a, course⟩ := ih .lost
    exact ⟨(s, .lost) :: rest, a, .lost, rest, rfl, course⟩

/-- A program sends nothing but what it may perform. -/
theorem Performs.exchanged {P : Statement → Prop} (h : p.Performs P) {a : α}
    (course : p.Exchanges log a) : ∀ x ∈ log, P x.1 := by
  induction p generalizing log with
  | done b =>
    rw [course.1]
    intro x hx
    cases hx
  | call s next ih =>
    obtain ⟨reply, rest, rfl, course⟩ := course
    intro x hx
    rcases List.mem_cons.1 hx with rfl | hx
    · exact h.1
    · exact ih reply (h.2 reply) course x hx

end Program

namespace DatabaseStep

variable {α β γ : Type}

@[simp] theorem ofOutcome_ok (a : α) : ofOutcome (.ok a) = pure a := rfl

@[simp] theorem ofOutcome_error (fault : Fault) :
    (ofOutcome (.error fault) : DatabaseStep α) = throw fault := rfl

/-- A program in two parts that is finished is finished with both. -/
theorem exchanges_bind_ok {x : DatabaseStep α} {f : α → DatabaseStep β} {log : List Exchange}
    {b : β} (course : (x >>= f).run.Exchanges log (.ok b)) :
    ∃ a first second, log = first ++ second ∧ x.run.Exchanges first (.ok a)
      ∧ (f a).run.Exchanges second (.ok b) := by
  obtain ⟨o, first, second, rfl, hfirst, hsecond⟩ := Program.exchanges_bind (p := x.run) course
  cases o with
  | error fault => cases hsecond.2
  | ok a => exact ⟨a, first, second, rfl, hfirst, hsecond⟩

/-- The statement that failed is a refusal in its context. -/
theorem succeed_of_failure {reply : DatabaseReply} {detail : String}
    (failed : reply.failure? = some detail) (context : String) :
    reply.succeed context = .refuse (.unknown (context ++ ": " ++ detail)) := by
  unfold DatabaseReply.succeed
  rw [failed]

theorem succeed_of_success {reply : DatabaseReply} (carried : reply.failure? = none)
    (context : String) : reply.succeed context = .ok reply := by
  unfold DatabaseReply.succeed
  rw [carried]

/-- A statement that has to be carried out, and what follows if it was. -/
theorem run_carryOut_bind (context : String) (s : Statement)
    (f : DatabaseReply → DatabaseStep α) :
    (carryOut context s >>= f).run = .call s fun reply =>
      match reply.failure? with
      | some detail => .done (Outcome.refuse (.unknown (context ++ ": " ++ detail)))
      | none => (f reply).run := by
  refine congrArg (Program.call s) (funext fun reply => ?_)
  show (ofOutcome (reply.succeed context) >>= f).run = _
  cases h : reply.failure? with
  | some detail =>
    rw [succeed_of_failure h]
    rfl
  | none =>
    rw [succeed_of_success h]
    rfl

/-- An outcome that is gone on with sends nothing. -/
theorem exchanges_ofOutcome_ok {o : Outcome α} {log : List Exchange} {a : α}
    (course : (ofOutcome o).run.Exchanges log (.ok a)) : o = .ok a ∧ log = [] := by
  cases o with
  | ok b =>
    obtain ⟨rfl, ⟨⟩⟩ := course
    exact ⟨rfl, rfl⟩
  | error fault => cases course.2

/-! ## Checks -/

/-- What a reply comes to: a failed statement is a refusal, and another reply is
judged. -/
def verdict (context : String) (judge : DatabaseReply → Outcome β) (reply : DatabaseReply) :
    Outcome β :=
  reply.succeed context >>= judge

/-- **Send a statement and go on with what its reply is judged to be.** -/
def check (context : String) (s : Statement) (judge : DatabaseReply → Outcome β) :
    DatabaseStep β := do
  ofOutcome (verdict context judge (← send s))

/-- A reply that a verdict lets pass is that of a statement that was carried
out. -/
theorem verdict_eq_ok_iff {context : String} {judge : DatabaseReply → Outcome β}
    {reply : DatabaseReply} {b : β} :
    verdict context judge reply = .ok b ↔ reply.failure? = none ∧ judge reply = .ok b := by
  unfold verdict DatabaseReply.succeed
  cases reply.failure? with
  | none => exact (and_iff_right rfl).symm
  | some detail =>
    constructor
    · intro h
      cases h
    · rintro ⟨h, -⟩
      cases h

theorem run_check (context : String) (s : Statement) (judge : DatabaseReply → Outcome β) :
    (check context s judge).run
      = .call s fun reply => .done (verdict context judge reply) := by
  refine congrArg (Program.call s) (funext fun reply => ?_)
  cases hv : verdict context judge reply with
  | ok b => exact congrArg (fun o => (ofOutcome o).run) hv
  | error fault => exact congrArg (fun o => (ofOutcome o).run) hv

/-- A statement that has to be carried out, and the judgement of its reply, are a
check. -/
theorem carryOut_bind_eq (context : String) (s : Statement)
    (judge : DatabaseReply → Outcome β) :
    (carryOut context s >>= fun reply => ofOutcome (judge reply)) = check context s judge := by
  unfold carryOut check verdict
  rw [bind_assoc]
  refine congrArg (send s >>= ·) (funext fun reply => ?_)
  cases reply.succeed context with
  | ok r => rfl
  | error fault => rfl

/-- A statement that has to be carried out is a check that asks for nothing
else. -/
theorem carryOut_eq (context : String) (s : Statement) :
    carryOut context s = check context s .ok := by
  rw [← carryOut_bind_eq]
  exact (bind_pure _).symm

/-- A course that begins with a check goes on if the reply passed, and is at its
end if it did not. -/
theorem exchanges_check_bind {context : String} {s : Statement}
    {judge : DatabaseReply → Outcome β} {g : β → DatabaseStep α} {log : List Exchange}
    {r : Outcome α} (course : (check context s judge >>= g).run.Exchanges log r) :
    ∃ reply rest, log = (s, reply) :: rest
      ∧ ((∃ b, verdict context judge reply = .ok b ∧ (g b).run.Exchanges rest r)
        ∨ ∃ fault, verdict context judge reply = .error fault ∧ rest = []
          ∧ r = .error fault) := by
  obtain ⟨reply, rest, rfl, course⟩ := course
  refine ⟨reply, rest, rfl, ?_⟩
  change ((ofOutcome (verdict context judge reply) >>= g).run).Exchanges rest r at course
  cases hv : verdict context judge reply with
  | ok b =>
    rw [hv] at course
    exact .inl ⟨b, rfl, course⟩
  | error fault =>
    rw [hv] at course
    exact .inr ⟨fault, rfl, course⟩

/-- A check that passed sent its statement once, and the reply was carried out
and judged so. -/
theorem exchanges_check_ok {context : String} {s : Statement}
    {judge : DatabaseReply → Outcome β} {log : List Exchange} {b : β}
    (course : (check context s judge).run.Exchanges log (.ok b)) :
    ∃ reply, log = [(s, reply)] ∧ reply.failure? = none ∧ judge reply = .ok b := by
  rw [run_check] at course
  obtain ⟨reply, rest, rfl, rfl, passed⟩ := course
  exact ⟨reply, rfl, verdict_eq_ok_iff.1 passed.symm⟩

/-- **A unit that is made of checks**: it goes on after a statement only if the
reply is acceptable, and begins or ends no transaction. -/
inductive Checks (accepts : Statement → DatabaseReply → Prop) {α : Type} :
    DatabaseStep α → Prop
  | pure (a : α) : Checks accepts (pure a)
  | throw (fault : Fault) : Checks accepts (throw fault)
  | check {β : Type} {context : String} {s : Statement} {judge : DatabaseReply → Outcome β}
    {next : β → DatabaseStep α} (inside : ¬ s.IsBracket)
    (sound : ∀ reply b, verdict context judge reply = .ok b → accepts s reply)
    (rest : ∀ b, (next b).Checks accepts) : Checks accepts (check context s judge >>= next)

namespace Checks

variable {accepts : Statement → DatabaseReply → Prop} {x : DatabaseStep α}

/-- One check alone. -/
theorem single {context : String} {s : Statement} {judge : DatabaseReply → Outcome α}
    (inside : ¬ s.IsBracket)
    (sound : ∀ reply b, reply.failure? = none → judge reply = .ok b → accepts s reply) :
    (DatabaseStep.check context s judge).Checks accepts := by
  rw [← bind_pure (DatabaseStep.check context s judge)]
  refine .check inside (fun reply b passed => ?_) .pure
  obtain ⟨carried, judged⟩ := verdict_eq_ok_iff.1 passed
  exact sound reply b carried judged

theorem ofOutcome (o : Outcome α) : (ofOutcome o).Checks accepts := by
  cases o with
  | ok a => exact .pure a
  | error fault => exact .throw fault

/-- Two units one after the other are made of checks if both are. -/
theorem bind {f : α → DatabaseStep β} (hx : x.Checks accepts)
    (hf : ∀ a, (f a).Checks accepts) : (x >>= f).Checks accepts := by
  induction hx with
  | pure a =>
    rw [pure_bind]
    exact hf a
  | throw fault => exact .throw fault
  | check inside sound _ ih =>
    rw [bind_assoc]
    exact .check inside sound ih

/-- A unit begins and ends no transaction. -/
theorem inside (h : x.Checks accepts) : x.run.Performs fun s => ¬ s.IsBracket := by
  induction h with
  | pure a => trivial
  | throw fault => trivial
  | @check β context s judge next inside _ _ ih =>
    refine ⟨inside, fun reply => ?_⟩
    show ((DatabaseStep.ofOutcome (verdict context judge reply) >>= next).run).Performs _
    cases verdict context judge reply with
    | ok b => exact ih b
    | error fault => trivial

/-- **After a reply that is not acceptable nothing is sent**, and an answer is
given only if all replies were acceptable. -/
theorem stops (h : x.Checks accepts) {log : List Exchange} {r : Outcome α}
    (course : x.run.Exchanges log r) :
    log.Pairwise (fun e _ => accepts e.1 e.2)
      ∧ ((∃ a, r = .ok a) → ∀ e ∈ log, accepts e.1 e.2) := by
  induction h generalizing log with
  | pure a =>
    rw [course.1]
    exact ⟨.nil, fun _ _ he => absurd he List.not_mem_nil⟩
  | throw fault =>
    rw [course.1]
    exact ⟨.nil, fun _ _ he => absurd he List.not_mem_nil⟩
  | check _ sound _ ih =>
    obtain ⟨reply, rest, rfl, ⟨b, passed, course⟩ | ⟨fault, -, rfl, rfl⟩⟩ :=
      exchanges_check_bind course
    · obtain ⟨later, all⟩ := ih b course
      have first := sound reply b passed
      refine ⟨.cons (fun _ _ => first) later, fun answered e he => ?_⟩
      rcases List.mem_cons.1 he with rfl | he
      · exact first
      · exact all answered e he
    · refine ⟨List.pairwise_singleton _ _, ?_⟩
      rintro ⟨a, impossible⟩
      cases impossible

end Checks

/-! ## Transactions -/

/-- **The ways in which a transaction can go**, with the exchanges and the value
of each. -/
inductive TransactionCourse (body : DatabaseStep α) : List Exchange → Outcome α → Prop
  /-- It could not be begun. -/
  | notBegun {begun : DatabaseReply} {detail : String} (failed : begun.failure? = some detail) :
    TransactionCourse body [(.start, begun)] (.refuse (.unknown ("begin: " ++ detail)))
  /-- Its work was refused, and undone. -/
  | undone {begun undone : DatabaseReply} {inner : List Exchange} {fault : Fault}
    (started : begun.failure? = none) (course : body.run.Exchanges inner (.error fault)) :
    TransactionCourse body ((.start, begun) :: inner ++ [(.rollback, undone)]) (.error fault)
  /-- Its work was done, and the database confirmed that it keeps it. -/
  | kept {begun kept : DatabaseReply} {inner : List Exchange} {a : α}
    (started : begun.failure? = none) (course : body.run.Exchanges inner (.ok a))
    (confirmed : kept.failure? = none) :
    TransactionCourse body ((.start, begun) :: inner ++ [(.commit, kept)]) (.ok a)
  /-- Its work was done, and the database did not confirm that it keeps it. -/
  | unconfirmed {begun kept undone : DatabaseReply} {inner : List Exchange} {a : α}
    {detail : String} (started : begun.failure? = none)
    (course : body.run.Exchanges inner (.ok a)) (failed : kept.failure? = some detail) :
    TransactionCourse body
      ((.start, begun) :: inner ++ [(.commit, kept), (.rollback, undone)])
      (.refuse (.unknown ("commit: " ++ detail)))

/-- A transaction, statement by statement. -/
theorem run_transaction (body : DatabaseStep α) :
    (transaction body).run = .call .start fun begun =>
      match begun.failure? with
      | some detail => .done (Outcome.refuse (.unknown ("begin: " ++ detail)))
      | none => body.run.bind fun o =>
        match o with
        | .error fault => .call .rollback fun _ => .done (.error fault)
        | .ok a => .call .commit fun kept =>
          match kept.failure? with
          | none => .done (.ok a)
          | some detail =>
            .call .rollback fun _ =>
              .done (Outcome.refuse (.unknown ("commit: " ++ detail))) := by
  unfold transaction
  rw [run_carryOut_bind]
  refine congrArg (Program.call Statement.start) (funext fun begun => ?_)
  cases begun.failure? with
  | some detail => rfl
  | none =>
    refine (Program.bind_assoc body.run _ _).trans ?_
    refine congrArg body.run.bind (funext fun o => ?_)
    cases o with
    | error fault => rfl
    | ok a =>
      refine congrArg (Program.call Statement.commit) (funext fun kept => ?_)
      simp only [Program.bind, Function.comp_apply, ExceptT.bindCont]
      cases h : kept.failure? with
      | none =>
        rw [succeed_of_success h]
        rfl
      | some detail =>
        rw [succeed_of_failure h]
        rfl

/-- **Every course of a transaction goes in one of these ways.** -/
theorem exchanges_transaction {body : DatabaseStep α} {log : List Exchange} {r : Outcome α}
    (course : (transaction body).run.Exchanges log r) : TransactionCourse body log r := by
  rw [run_transaction] at course
  obtain ⟨begun, rest, rfl, course⟩ := course
  dsimp only at course
  cases started : begun.failure? with
  | some detail =>
    rw [started] at course
    obtain ⟨rfl, rfl⟩ := course
    exact .notBegun started
  | none =>
    rw [started] at course
    obtain ⟨o, inner, last, rfl, hinner, ending⟩ := Program.exchanges_bind course
    cases o with
    | error fault =>
      obtain ⟨undone, rest, rfl, rfl, rfl⟩ := ending
      exact .undone started hinner
    | ok a =>
      obtain ⟨kept, rest, rfl, ending⟩ := ending
      dsimp only at ending
      cases confirmed : kept.failure? with
      | none =>
        rw [confirmed] at ending
        obtain ⟨rfl, rfl⟩ := ending
        exact .kept started hinner confirmed
      | some detail =>
        rw [confirmed] at ending
        obtain ⟨undone, rest, rfl, rfl, rfl⟩ := ending
        exact .unconfirmed started hinner confirmed

end DatabaseStep

end RewardLedger
