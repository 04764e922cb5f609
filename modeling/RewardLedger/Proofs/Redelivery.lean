import Mathlib.Data.List.Nodup
import RewardLedger.Proofs.Commitment

/-!
# A partner's event is credited once, although a commit may be lost

A partner delivers an event again until it hears that it was credited, and it
may not hear it although it was: the store asks the database to keep a credit,
the database keeps it, and the connection is lost before it says so. The store
reports a failure, and the event comes again. What makes the second delivery
harmless is the row of the event, which is kept together with the credit or not
at all.

The database is not trusted to do more than that: any statement may fail, and
the replies may say anything, except that an event is passed over only if its
row is there, that a transaction takes effect as a whole and only if its events
are new, and that a commit is not confirmed unless it took effect. A commit that
failed may still take effect, at once or long after. Any number of deliveries,
of any events, are under way at the same time.
-/

namespace RewardLedger

open DatabaseStep

/-! ## What is refused as a duplicate -/

/-- The outcome is not the refusal of a duplicate. -/
def Outcome.Mild {α : Type} (o : Outcome α) : Prop :=
  ∀ cause, o = .refuse cause → ¬ cause.IsDuplicate

namespace Outcome

variable {α β : Type}

theorem mild_ok (a : α) : Mild (.ok a) := fun _ h => by cases h

theorem mild_refuse {cause : Error} (h : ¬ cause.IsDuplicate) : Mild (refuse cause : Outcome α) :=
  fun _ same => by
    cases same
    exact h

theorem mild_outOfRange : Mild (.error .outOfRange : Outcome α) := fun _ h => by cases h

theorem Mild.bind {o : Outcome α} {f : α → Outcome β} (ho : o.Mild) (hf : ∀ a, (f a).Mild) :
    (o >>= f).Mild := by
  cases o with
  | ok a => exact hf a
  | error fault =>
    intro cause h
    cases h
    exact ho cause rfl

theorem mild_legible (context : String) (value : Option α) : (legible context value).Mild := by
  cases value with
  | none => exact mild_refuse id
  | some a => exact mild_ok a

end Outcome

namespace DatabaseStep

variable {α β : Type}

/-- **A program never refuses a duplicate.** -/
def Mild (x : DatabaseStep α) : Prop :=
  ∀ log r, x.run.Exchanges log r → Outcome.Mild r

theorem mild_pure (a : α) : Mild (pure a) := by
  rintro log r ⟨-, rfl⟩
  exact Outcome.mild_ok a

theorem Mild.bind {x : DatabaseStep α} {f : α → DatabaseStep β} (hx : Mild x)
    (hf : ∀ a, Mild (f a)) : Mild (x >>= f) := by
  intro log r course
  obtain ⟨o, first, second, rfl, hfirst, hsecond⟩ := Program.exchanges_bind (p := x.run) course
  cases o with
  | ok a => exact hf a second r hsecond
  | error fault =>
    obtain ⟨-, rfl⟩ := hsecond
    intro cause h
    cases h
    exact hx first _ hfirst cause rfl

theorem mild_check {context : String} {s : Statement} {judge : DatabaseReply → Outcome α}
    (h : ∀ reply, (judge reply).Mild) : Mild (check context s judge) := by
  intro log r course
  rw [run_check] at course
  obtain ⟨reply, rest, -, -, rfl⟩ := course
  unfold verdict
  refine Outcome.Mild.bind ?_ h
  unfold DatabaseReply.succeed
  cases reply.failure? with
  | none => exact Outcome.mild_ok reply
  | some detail => exact Outcome.mild_refuse id

/-- A credit never refuses a duplicate. -/
theorem mild_credit (source : IncomeSource) (id amount offered : Int) (now : Instant) :
    Mild (credit source id amount offered now) := by
  rw [credit_eq]
  refine .bind (mild_check fun reply => ?_) fun referrer =>
    .bind (mild_check fun reply => ?_) fun locked => .bind ?_ fun credited =>
    .bind ?_ fun income => .bind ?_ fun _ => mild_pure _
  · unfold referrerIn
    cases reply.rowList.head? with
    | none => exact Outcome.mild_refuse (fun h => h)
    | some row => exact Outcome.mild_legible _ _
  · refine (Outcome.mild_legible _ _).bind fun locked => .bind ?_ fun u => Outcome.mild_ok _
    unfold payee
    cases (locked.filter (·.id = id)).getLast? with
    | none => exact Outcome.mild_refuse (fun h => h)
    | some u =>
      dsimp only
      split
      · split
        · exact Outcome.mild_outOfRange
        · exact Outcome.mild_refuse (fun h => h)
        · exact Outcome.mild_ok u
      · exact Outcome.mild_ok u
  · rw [creditReferrer_eq]
    cases referrer.filter fun r => locked.1.any (·.id = r) with
    | none => exact mild_pure false
    | some r => exact mild_check fun reply => Outcome.mild_ok _
  · rw [recordIncome_eq]
    exact mild_check fun reply => (Outcome.mild_legible _ _).bind fun row =>
      (Outcome.mild_legible _ _).bind fun _ => Outcome.mild_ok _
  · rw [creditUser_eq]
    refine mild_check fun reply => ?_
    unfold refusing
    split
    · exact Outcome.mild_refuse (fun h => h)
    · exact Outcome.mild_ok _

/-- **An event is refused as a duplicate only if it was passed over**: the
statement that inserts it was carried out, and touched no row. -/
theorem passedOver_of_duplicate {c : PartnerCredit} {log : List Exchange} {cause : Error}
    (course : (creditPartner c).run.Exchanges log (Outcome.refuse cause))
    (duplicate : cause.IsDuplicate) :
    ∃ relation reply, c.source.eventTable? = some relation
      ∧ (.insertEvent relation c.event c.amount c.now, reply) ∈ log
      ∧ reply.failure? = none ∧ reply.affected = 0 := by
  cases partner : c.source.eventTable? with
  | none =>
    unfold creditPartner at course
    rw [partner] at course
    cases course.2
    exact absurd duplicate id
  | some relation =>
    rw [creditPartner_eq partner] at course
    generalize refused : Outcome.refuse cause = r at course
    cases exchanges_transaction course with
    | notBegun failed =>
      cases refused
      exact absurd duplicate id
    | unconfirmed started hinner failed =>
      cases refused
      exact absurd duplicate id
    | kept => cases refused
    | undone started hinner =>
      cases refused
      obtain ⟨reply, rest, rfl, ⟨_, -, credited⟩ | ⟨fault, judged, rfl, same⟩⟩ :=
        exchanges_check_bind hinner
      · exact absurd duplicate (mild_credit _ _ _ _ _ rest _ credited cause rfl)
      · cases same
        unfold verdict at judged
        cases carried : reply.failure? with
        | some detail =>
          rw [succeed_of_failure carried] at judged
          cases judged
          exact absurd duplicate id
        | none =>
          rw [succeed_of_success carried] at judged
          refine ⟨relation, reply, rfl, by simp, carried, ?_⟩
          by_contra touched
          change refusing (· = 0) (fun _ => .duplicate c.source c.key c.user) reply = _ at judged
          unfold refusing at judged
          rw [if_neg touched] at judged
          cases judged

end DatabaseStep

/-! ## Events and their rows -/

/-- The row of an event: its relation, and the two columns that are unique in
it. -/
def PartnerEvent.row? (e : PartnerEvent) : Option (String × String × Int) :=
  e.source.eventTable?.map fun relation => (relation, e.key, e.user)

/-- A row belongs to one event. -/
theorem PartnerEvent.eq_of_row? {e e' : PartnerEvent} {row : String × String × Int}
    (h : e.row? = some row) (h' : e'.row? = some row) : e = e' := by
  obtain ⟨relation, partner, rfl⟩ := Option.map_eq_some_iff.1 h
  obtain ⟨relation', partner', same⟩ := Option.map_eq_some_iff.1 h'
  obtain ⟨rfl, key, user⟩ := Prod.mk.inj same |>.imp id Prod.mk.inj
  obtain ⟨source, _, _⟩ := e
  obtain ⟨source', _, _⟩ := e'
  cases IncomeSource.eq_of_eventTable? partner partner'
  cases key
  cases user
  rfl

namespace Statement

/-- The row of an event that a statement inserts. -/
def eventRow? : Statement → Option (String × String × Int)
  | insertEvent relation event _ _ => some (relation, event.key, event.user)
  | _ => none

/-- The statement records an income. -/
def RecordsIncome : Statement → Prop
  | insertIncome .. => True
  | _ => False

instance : DecidablePred RecordsIncome
  | insertIncome .. => instDecidableTrue
  | start | commit | rollback | define _ | ping | insertUser .. | selectUser _
  | selectReferees .. | selectWithdrawable _ | selectPolicy | selectBands _ | selectDayTotal _
  | selectReferrer _ | lockUsers _ | creditReferrer .. | creditUser .. | addToDay ..
  | insertEvent .. | selectIncomes .. | countIncomes .. | debitUser .. | insertWithdrawal _
  | advanceWithdrawals .. | selectWithdrawals .. | selectWithdrawalsByStatus .. =>
    instDecidableFalse

/-- The statement credits the balance of the user of an income. -/
def CreditsUser : Statement → Prop
  | creditUser .. => True
  | _ => False

instance : DecidablePred CreditsUser
  | creditUser .. => instDecidableTrue
  | start | commit | rollback | define _ | ping | insertUser .. | selectUser _
  | selectReferees .. | selectWithdrawable _ | selectPolicy | selectBands _ | selectDayTotal _
  | selectReferrer _ | lockUsers _ | creditReferrer .. | insertIncome .. | addToDay ..
  | insertEvent .. | selectIncomes .. | countIncomes .. | debitUser .. | insertWithdrawal _
  | advanceWithdrawals .. | selectWithdrawals .. | selectWithdrawalsByStatus .. =>
    instDecidableFalse

end Statement

/-! ## Deliveries -/

/-- One delivery: what was exchanged for it so far, and what is left to do. -/
structure Delivery where
  order : PartnerCredit
  log : List Exchange
  rest : Program Statement (fun _ => DatabaseReply) (Outcome Receipt)

namespace Delivery

/-- A delivery that was just taken. -/
def taken (c : PartnerCredit) : Delivery := ⟨c, [], (creditPartner c).run⟩

/-- It was told the reply to a statement, and goes on. -/
def told (d : Delivery) (s : Statement) (reply : DatabaseReply)
    (rest : Program Statement (fun _ => DatabaseReply) (Outcome Receipt)) : Delivery :=
  ⟨d.order, d.log ++ [(s, reply)], rest⟩

/-- The statements that were carried out for it. -/
def work (d : Delivery) : List Statement :=
  (d.log.filter fun e => e.2.failure? = none).map Prod.fst

/-- The rows of events that were inserted for it. -/
def rows (d : Delivery) : List (String × String × Int) := d.work.filterMap (·.eventRow?)

/-- The last that it was told is that its commit took effect. -/
def Confirmed (d : Delivery) : Prop :=
  ∃ e ∈ d.log.getLast?, e.1 = .commit ∧ e.2.failure? = none

instance (d : Delivery) : Decidable d.Confirmed :=
  inferInstanceAs (Decidable (∃ e ∈ d.log.getLast?, _))

/-- It was answered with a receipt. -/
def Succeeded (d : Delivery) : Prop :=
  match d.rest with
  | .done (.ok _) => True
  | _ => False

instance (d : Delivery) : Decidable d.Succeeded := by
  unfold Succeeded
  split <;> infer_instance

/-- It was refused as a duplicate. -/
def Duplicated (d : Delivery) : Prop :=
  d.rest = .done (Outcome.refuse (.duplicate d.order.source d.order.key d.order.user))

end Delivery

/-- A database, as far as it is known, and all that was delivered to it. -/
structure Deliveries where
  /-- The deliveries whose transactions took effect, as they were then. -/
  kept : List Delivery
  /-- The deliveries of which it is not settled whether they take effect. -/
  unsettled : List Delivery
  calls : List Delivery

/-- The rows of events that are there once some deliveries took effect. -/
def rowsOf (kept : List Delivery) : List (String × String × Int) := kept.flatMap (·.rows)

namespace Deliveries

/-- All that was ever done for an event and took effect. -/
def keptFor (w : Deliveries) (e : PartnerEvent) : List Statement :=
  (w.kept.filter fun d => d.order.event = e).flatMap (·.work)

/-- **What can happen next.** -/
inductive Step : Deliveries → Deliveries → Prop
  /-- A partner delivers. -/
  | deliver {kept unsettled calls : List Delivery} (c : PartnerCredit) :
    Step ⟨kept, unsettled, calls⟩ ⟨kept, unsettled, .taken c :: calls⟩
  /-- A statement is replied to, one way or another. That no row was touched by
  an insertion is said only if the row of the event is there. -/
  | reply {kept unsettled before after : List Delivery} {d : Delivery} {s : Statement}
    {next : DatabaseReply → Program Statement (fun _ => DatabaseReply) (Outcome Receipt)}
    (reply : DatabaseReply) (calls : d.rest = .call s next) (plain : s ≠ .commit)
    (honest : reply.failure? = none → reply.affected = 0 →
      ∀ row, s.eventRow? = some row → row ∈ rowsOf kept) :
    Step ⟨kept, unsettled, before ++ d :: after⟩
      ⟨kept, unsettled, before ++ d.told s reply (next reply) :: after⟩
  /-- A commit takes effect, with all that was done and only if its event is
  new. The reply may say so or not. -/
  | keep {kept unsettled before after : List Delivery} {d : Delivery}
    {next : DatabaseReply → Program Statement (fun _ => DatabaseReply) (Outcome Receipt)}
    (reply : DatabaseReply) (calls : d.rest = .call .commit next)
    (fresh : ∀ row ∈ d.rows, row ∉ rowsOf kept) :
    Step ⟨kept, unsettled, before ++ d :: after⟩
      ⟨d :: kept, unsettled, before ++ d.told .commit reply (next reply) :: after⟩
  /-- A commit does not take effect so far, and the reply does not say that it
  did. -/
  | lose {kept unsettled before after : List Delivery} {d : Delivery}
    {next : DatabaseReply → Program Statement (fun _ => DatabaseReply) (Outcome Receipt)}
    (reply : DatabaseReply) (calls : d.rest = .call .commit next)
    (failed : reply.failure? ≠ none) :
    Step ⟨kept, unsettled, before ++ d :: after⟩
      ⟨kept, d :: unsettled, before ++ d.told .commit reply (next reply) :: after⟩
  /-- A commit that was not confirmed takes effect after all. -/
  | settle {kept before after calls : List Delivery} {d : Delivery}
    (fresh : ∀ row ∈ d.rows, row ∉ rowsOf kept) :
    Step ⟨kept, before ++ d :: after, calls⟩ ⟨d :: kept, before ++ after, calls⟩

/-- **It can come to this** from a database without events. -/
inductive Reachable : Deliveries → Prop
  | start : Reachable ⟨[], [], []⟩
  | step {w w' : Deliveries} (reach : w.Reachable) (step : w.Step w') : Reachable w'

end Deliveries

/-! ## What is kept -/

/-- All that is done for one delivery: the event is remembered, and the user is
credited. -/
def IsCredit (c : PartnerCredit) (work : List Statement) : Prop :=
  ∃ relation receipt locked, c.source.eventTable? = some relation
    ∧ work = .start :: .insertEvent relation c.event c.amount c.now
      :: StoreOp.creditStatements c.source c.user c.amount c.referrerAmount c.now receipt locked

namespace IsCredit

variable {c : PartnerCredit} {work : List Statement} (h : IsCredit c work)

include h

/-- It inserts the row of its event and no other. -/
theorem rows : ∃ row, c.event.row? = some row ∧ work.filterMap (·.eventRow?) = [row] := by
  obtain ⟨relation, receipt, locked, partner, rfl⟩ := h
  refine ⟨(relation, c.key, c.user), Option.map_eq_some_iff.2 ⟨relation, partner, rfl⟩, ?_⟩
  dsimp only [StoreOp.creditStatements]
  cases receipt.income.referrer.filter fun r => locked.any (·.id = r) <;> rfl

/-- It records one income and credits one balance, of the same amount, and both
for the user of the event. -/
theorem credits : ∃ referrer share rewardedAt,
    work.filter (fun s => s.RecordsIncome)
        = [.insertIncome c.user referrer c.source c.amount share c.now]
      ∧ work.filter (fun s => s.CreditsUser) = [.creditUser c.amount share rewardedAt c.user] := by
  obtain ⟨relation, receipt, locked, partner, rfl⟩ := h
  refine ⟨receipt.income.referrer, receipt.income.referrerAmount,
    if c.source = .reward then some c.now else none, ?_, ?_⟩ <;>
    dsimp only [StoreOp.creditStatements] <;>
    cases receipt.income.referrer.filter fun r => locked.any (·.id = r) <;> rfl

end IsCredit

/-! ## One delivery -/

namespace Delivery

/-- A delivery has come along its program. -/
def OnCourse (d : Delivery) : Prop := (creditPartner d.order).run.Leads d.log d.rest

theorem succeeded_iff {d : Delivery} : d.Succeeded ↔ ∃ receipt, d.rest = .done (.ok receipt) := by
  unfold Succeeded
  split
  · rename_i receipt answered
    exact iff_of_true trivial ⟨receipt, answered⟩
  · rename_i other
    exact iff_of_false id fun ⟨receipt, answered⟩ => other receipt answered

section OnCourse

variable {d : Delivery} (h : d.OnCourse)

include h

/-- It stays on its course. -/
theorem OnCourse.told {s : Statement}
    {next : DatabaseReply → Program Statement (fun _ => DatabaseReply) (Outcome Receipt)}
    (calls : d.rest = .call s next) (reply : DatabaseReply) :
    (d.told s reply (next reply)).OnCourse := by
  unfold OnCourse at h
  rw [calls] at h
  exact h.snoc reply

/-- A value that it was answered with comes of its course. -/
theorem OnCourse.exchanges {r : Outcome Receipt} (answered : d.rest = .done r) :
    (creditPartner d.order).run.Exchanges d.log r := by
  unfold OnCourse at h
  rw [answered] at h
  rw [← List.append_nil d.log]
  exact Program.Leads.exchanges h ⟨rfl, rfl⟩

/-- If it was answered with a receipt its commit was confirmed right before. -/
theorem OnCourse.confirmed (succeeded : d.Succeeded) : d.Confirmed := by
  obtain ⟨receipt, answered⟩ := succeeded_iff.1 succeeded
  obtain ⟨before, kept, log, confirmed⟩ :=
    confirmed_of_ok (show (StoreOp.creditPartner d.order).IsTransaction from trivial)
      (h.exchanges answered)
  refine ⟨(.commit, kept), ?_, rfl, confirmed⟩
  rw [log, List.getLast?_concat]
  rfl

/-- If it was refused as a duplicate its event was passed over. -/
theorem OnCourse.passedOver (duplicated : d.Duplicated) :
    ∃ relation reply, d.order.source.eventTable? = some relation
      ∧ (.insertEvent relation d.order.event d.order.amount d.order.now, reply) ∈ d.log
      ∧ reply.failure? = none ∧ reply.affected = 0 :=
  passedOver_of_duplicate (h.exchanges duplicated) trivial

/-- When it is about to commit its work is a credit. -/
theorem OnCourse.isCredit
    {next : DatabaseReply → Program Statement (fun _ => DatabaseReply) (Outcome Receipt)}
    (commits : d.rest = .call .commit next) : IsCredit d.order d.work := by
  unfold OnCourse at h
  rw [commits] at h
  obtain ⟨begun, inner, receipt, log, started, ⟨locked, sent, -⟩, met⟩ := sent_of_leads_commit
    (show (StoreOp.creditPartner d.order).IsTransaction from trivial) h
  have carried : ∀ e ∈ d.log, e.2.failure? = none := by
    rw [log]
    intro e he
    rcases List.mem_cons.1 he with rfl | he
    · exact started
    · exact (met e he).1
  have work : d.work = .start :: inner.map Prod.fst := by
    unfold Delivery.work
    rw [List.filter_eq_self.2 fun e he => decide_eq_true (carried e he), log]
    rfl
  cases partner : d.order.source.eventTable? with
  | none =>
    -- the delivery is refused before anything is sent
    unfold creditPartner at h
    rw [partner, log] at h
    obtain ⟨next, impossible, -⟩ := h
    cases impossible
  | some relation =>
    refine ⟨relation, receipt, locked, partner, ?_⟩
    rw [work, sent]
    show _ :: (d.order.source.eventTable?.toList.map _ ++ _) = _
    rw [partner]
    rfl

end OnCourse

/-- A delivery is confirmed by what it is told at last. -/
theorem confirmed_told (d : Delivery) (s : Statement) (reply : DatabaseReply)
    (rest : Program Statement (fun _ => DatabaseReply) (Outcome Receipt)) :
    (d.told s reply rest).Confirmed ↔ s = .commit ∧ reply.failure? = none := by
  unfold Confirmed told
  simp

/-- A delivery that was passed over was so for a row that is there. -/
structure Sound (kept : List Delivery) (d : Delivery) : Prop where
  onCourse : d.OnCourse
  passedOver : ∀ s reply, (s, reply) ∈ d.log → reply.failure? = none → reply.affected = 0 →
    ∀ row, s.eventRow? = some row → row ∈ rowsOf kept

theorem Sound.taken (kept : List Delivery) (c : PartnerCredit) : Sound kept (taken c) :=
  ⟨rfl, fun _ _ among => absurd among List.not_mem_nil⟩

/-- What is there stays there. -/
theorem Sound.keep {kept : List Delivery} {d : Delivery} (h : Sound kept d) (e : Delivery) :
    Sound (e :: kept) d :=
  ⟨h.onCourse, fun s reply among carried untouched row inserts =>
    List.mem_append_right _ (h.passedOver s reply among carried untouched row inserts)⟩

/-- It goes on with a reply that is honest. -/
theorem Sound.told {kept : List Delivery} {d : Delivery} (h : Sound kept d) {s : Statement}
    {next : DatabaseReply → Program Statement (fun _ => DatabaseReply) (Outcome Receipt)}
    (calls : d.rest = .call s next) {reply : DatabaseReply}
    (honest : reply.failure? = none → reply.affected = 0 →
      ∀ row, s.eventRow? = some row → row ∈ rowsOf kept) :
    Sound kept (d.told s reply (next reply)) := by
  refine ⟨h.onCourse.told calls reply, fun s' reply' among => ?_⟩
  rcases List.mem_append.1 among with among | among
  · exact h.passedOver s' reply' among
  · cases List.mem_singleton.1 among
    exact honest

end Delivery

/-! ## All deliveries -/

namespace Deliveries

/-- **What always holds of the deliveries.** -/
structure Sound (w : Deliveries) : Prop where
  calls : ∀ d ∈ w.calls, d.Sound w.kept
  /-- Whatever took effect or may still do is a credit. -/
  credits : ∀ d ∈ w.kept ++ w.unsettled, IsCredit d.order d.work
  /-- The row of an event is there once. -/
  rows : (rowsOf w.kept).Nodup
  /-- A commit that was confirmed took effect. -/
  confirmed : ∀ e, w.calls.countP (fun d => d.order.event = e ∧ d.Confirmed)
    ≤ w.kept.countP fun d => d.order.event = e

theorem Sound.start : Sound ⟨[], [], []⟩ :=
  ⟨fun _ h => absurd h List.not_mem_nil, fun _ h => absurd h List.not_mem_nil, .nil,
    fun _ => Nat.le_refl 0⟩

section Told

variable {before after : List Delivery} {d d' : Delivery}

/-- What holds of all holds when one of them went on and it holds of that one. -/
theorem forall_told {P : Delivery → Prop} (all : ∀ x ∈ before ++ d :: after, P x) (one : P d') :
    ∀ x ∈ before ++ d' :: after, P x := by
  intro x hx
  rcases List.mem_append.1 hx with hx | hx
  · exact all x (List.mem_append_left _ hx)
  · rcases List.mem_cons.1 hx with rfl | hx
    · exact one
    · exact all x (List.mem_append_right _ (List.mem_cons_of_mem _ hx))

/-- When one of them went on no more than that one is new. -/
theorem countP_told (p : Delivery → Bool) :
    (before ++ d' :: after).countP p
      ≤ (before ++ d :: after).countP p + if p d' then 1 else 0 := by
  simp only [List.countP_append, List.countP_cons]
  omega

/-- When one of them went on and was not confirmed no more are confirmed. -/
theorem countP_confirmed_told {e : PartnerEvent} (unconfirmed : ¬ d'.Confirmed) :
    (before ++ d' :: after).countP (fun d => d.order.event = e ∧ d.Confirmed)
      ≤ (before ++ d :: after).countP fun d => d.order.event = e ∧ d.Confirmed := by
  refine Nat.le_trans (countP_told (d := d) _) (Nat.le_of_eq ?_)
  rw [if_neg (by simp [unconfirmed]), Nat.add_zero]

end Told

/-- A delivery that takes effect adds its row, and the row is new. -/
theorem nodup_rowsOf_cons {kept : List Delivery} {d : Delivery} (credit : IsCredit d.order d.work)
    (fresh : ∀ row ∈ d.rows, row ∉ rowsOf kept) (rows : (rowsOf kept).Nodup) :
    (rowsOf (d :: kept)).Nodup := by
  obtain ⟨row, -, only⟩ := credit.rows
  refine List.nodup_append.2 ⟨?_, rows, fun a ha b hb same => fresh a ha (same ▸ hb)⟩
  show (d.work.filterMap _).Nodup
  rw [only]
  exact List.pairwise_singleton _ row

/-- **Nothing that can happen breaks it.** -/
theorem Sound.step {w w' : Deliveries} (h : w.Sound) (step : w.Step w') : w'.Sound := by
  cases step with
  | deliver c =>
    refine { h with calls := List.forall_mem_cons.2 ⟨.taken _ c, h.calls⟩, confirmed := ?_ }
    intro e
    have unheard : ¬ (Delivery.taken c).Confirmed := by simp [Delivery.Confirmed, Delivery.taken]
    rw [List.countP_cons_of_neg (by simp [unheard])]
    exact h.confirmed e
  | @reply kept unsettled before after d s next reply calls plain honest =>
    refine { h with calls := ?_, confirmed := fun e => ?_ }
    · exact forall_told h.calls ((h.calls d (by simp)).told calls honest)
    · have unheard := fun heard => plain ((d.confirmed_told s reply (next reply)).1 heard).1
      exact Nat.le_trans (countP_confirmed_told unheard) (h.confirmed e)
  | @lose kept unsettled before after d next reply calls failed =>
    have one := h.calls d (by simp)
    have honest : reply.failure? = none → reply.affected = 0 →
        ∀ row, Statement.commit.eventRow? = some row → row ∈ rowsOf kept :=
      fun carried => absurd carried failed
    refine ⟨forall_told h.calls (one.told calls honest), fun x hx => ?_, h.rows, fun e => ?_⟩
    · rcases List.mem_append.1 hx with hx | hx
      · exact h.credits x (List.mem_append_left _ hx)
      · rcases List.mem_cons.1 hx with rfl | hx
        · exact one.onCourse.isCredit calls
        · exact h.credits x (List.mem_append_right _ hx)
    · have unheard := fun heard => failed ((d.confirmed_told .commit reply (next reply)).1 heard).2
      exact Nat.le_trans (countP_confirmed_told unheard) (h.confirmed e)
  | @keep kept unsettled before after d next reply calls fresh =>
    have one := h.calls d (by simp)
    have credit := one.onCourse.isCredit calls
    refine ⟨fun x hx => ?_, List.forall_mem_cons.2 ⟨credit, h.credits⟩,
      nodup_rowsOf_cons credit fresh h.rows, fun e => ?_⟩
    · refine (forall_told h.calls (one.told calls ?_) x hx).keep d
      rintro - - row ⟨⟩
    · -- whether or not this one is confirmed, it takes effect
      have room : (if decide ((d.told .commit reply (next reply)).order.event = e
            ∧ (d.told .commit reply (next reply)).Confirmed) then 1 else 0)
          ≤ if decide (d.order.event = e) then 1 else 0 := by
        by_cases same : d.order.event = e
        · simp only [same, decide_true, if_true]
          split <;> omega
        · have other : (d.told .commit reply (next reply)).order.event ≠ e := same
          simp [other]
      rw [List.countP_cons]
      exact Nat.le_trans (countP_told _) (Nat.add_le_add (h.confirmed e) room)
  | @settle kept before after calls d fresh =>
    have credit : IsCredit d.order d.work := h.credits d (by simp)
    refine ⟨fun x hx => (h.calls x hx).keep d, fun x hx => ?_,
      nodup_rowsOf_cons credit fresh h.rows, fun e => ?_⟩
    · refine h.credits x ?_
      simp only [List.cons_append, List.mem_cons, List.mem_append] at hx ⊢
      rcases hx with rfl | hx | hx | hx <;> simp [*]
    · exact Nat.le_trans (h.confirmed e) (List.sublist_cons_self d kept).countP_le

theorem Reachable.sound {w : Deliveries} (reach : w.Reachable) : w.Sound := by
  induction reach with
  | start => exact .start
  | step _ step ih => exact ih.step step

/-- The delivery that came last can be told several replies in a row. -/
theorem Reachable.exchanged {kept unsettled calls : List Delivery} {d : Delivery}
    (reach : Reachable ⟨kept, unsettled, d :: calls⟩) (log : List Exchange)
    {rest : Program Statement (fun _ => DatabaseReply) (Outcome Receipt)}
    (leads : d.rest.Leads log rest) (plain : ∀ e ∈ log, e.1 ≠ .commit)
    (honest : ∀ e ∈ log, e.2.failure? = none → e.2.affected = 0 →
      ∀ row, e.1.eventRow? = some row → row ∈ rowsOf kept) :
    Reachable ⟨kept, unsettled, ⟨d.order, d.log ++ log, rest⟩ :: calls⟩ := by
  induction log generalizing d with
  | nil =>
    cases leads
    rwa [List.append_nil]
  | cons e log ih =>
    obtain ⟨next, sends, leads⟩ := leads
    have told := reach.step (@Step.reply _ _ [] _ d _ next e.2 sends (plain e List.mem_cons_self)
      (honest e List.mem_cons_self))
    have others := ih told leads (fun e he => plain e (List.mem_cons_of_mem _ he))
      fun e he => honest e (List.mem_cons_of_mem _ he)
    rwa [Delivery.told, List.append_assoc] at others

namespace Sound

variable {w : Deliveries} (h : w.Sound)

include h

/-- The rows that are there are those of the events that took effect. -/
theorem map_rowsOf : (rowsOf w.kept).map some = w.kept.map (·.order.event.row?) := by
  have one : ∀ d ∈ w.kept, d.rows.map some = [d.order.event.row?] := fun d hd => by
    obtain ⟨row, event, only⟩ := (h.credits d (List.mem_append_left _ hd)).rows
    rw [event, Delivery.rows, only]
    rfl
  calc (rowsOf w.kept).map some
      = w.kept.flatMap fun d => d.rows.map some := List.map_flatMap
    _ = w.kept.flatMap fun d => [d.order.event.row?] := List.flatMap_congr one
    _ = w.kept.map (·.order.event.row?) := List.map_eq_flatMap.symm

/-- **An event takes effect once at most**, and what took effect is a credit. -/
theorem kept_cases (e : PartnerEvent) :
    w.kept.filter (fun d => d.order.event = e) = []
      ∨ ∃ d, w.kept.filter (fun d => d.order.event = e) = [d] ∧ d.order.event = e
        ∧ IsCredit d.order d.work := by
  have apart : (w.kept.filter fun d => d.order.event = e).Pairwise
      fun d d' => d.order.event ≠ d'.order.event := by
    refine List.Pairwise.filter _ ?_
    have rows : ((rowsOf w.kept).map some).Nodup :=
      List.pairwise_map.2 (h.rows.imp fun other same => other (Option.some.inj same))
    rw [h.map_rowsOf] at rows
    exact (List.pairwise_map.1 rows).imp fun other same => other (congrArg PartnerEvent.row? same)
  have members : ∀ d ∈ w.kept.filter (fun d => d.order.event = e),
      d.order.event = e ∧ IsCredit d.order d.work := fun d hd => by
    obtain ⟨among, event⟩ := List.mem_filter.1 hd
    exact ⟨of_decide_eq_true event, h.credits d (List.mem_append_left _ among)⟩
  generalize w.kept.filter (fun d => d.order.event = e) = those at apart members
  match those with
  | [] => exact .inl rfl
  | [d] => exact .inr ⟨d, rfl, members d List.mem_cons_self⟩
  | d :: d' :: _ =>
    have same : d.order.event = d'.order.event :=
      (members d (by simp)).1.trans (members d' (by simp)).1.symm
    exact absurd same (List.rel_of_pairwise_cons apart List.mem_cons_self)

/-- A row that is there is that of an event that took effect. -/
theorem kept_of_row {e : PartnerEvent} {row : String × String × Int} (event : e.row? = some row)
    (there : row ∈ rowsOf w.kept) : ∃ d ∈ w.kept, d.order.event = e := by
  have among : some row ∈ w.kept.map (·.order.event.row?) :=
    h.map_rowsOf ▸ List.mem_map_of_mem there
  obtain ⟨d, hd, same⟩ := List.mem_map.1 among
  exact ⟨d, hd, PartnerEvent.eq_of_row? same event⟩

/-- An event that was heard of took effect. -/
theorem kept_of_answered {e : PartnerEvent} {d : Delivery} (hd : d ∈ w.calls)
    (event : d.order.event = e) (answered : d.Succeeded ∨ d.Duplicated) :
    ∃ d' ∈ w.kept, d'.order.event = e := by
  rcases answered with succeeded | duplicated
  · have confirmed := (h.calls d hd).onCourse.confirmed succeeded
    have one : 0 < w.calls.countP fun d => d.order.event = e ∧ d.Confirmed :=
      List.countP_pos_iff.2 ⟨d, hd, decide_eq_true ⟨event, confirmed⟩⟩
    obtain ⟨d', hd', event'⟩ := List.countP_pos_iff.1 (Nat.lt_of_lt_of_le one (h.confirmed e))
    exact ⟨d', hd', of_decide_eq_true event'⟩
  · obtain ⟨relation, reply, partner, among, carried, untouched⟩ :=
      (h.calls d hd).onCourse.passedOver duplicated
    subst event
    exact h.kept_of_row (Option.map_eq_some_iff.2 ⟨relation, partner, rfl⟩)
      ((h.calls d hd).passedOver _ _ among carried untouched _ rfl)

end Sound

/-- **An event is credited once**, however often it is delivered, whatever fails
and whatever becomes of the commits that failed. At most one income is recorded
for it and at most one balance credited, and at most one delivery of it is
answered with a receipt. If one is, or one is refused as a duplicate, then
exactly one income of the event's user and source is recorded, and exactly one
credit of the same amount is made to that user. -/
theorem event_credited_once {w : Deliveries} (reach : w.Reachable) (e : PartnerEvent) :
    (w.keptFor e).countP (·.RecordsIncome) ≤ 1
      ∧ (w.keptFor e).countP (·.CreditsUser) ≤ 1
      ∧ w.calls.countP (fun d => d.order.event = e ∧ d.Succeeded) ≤ 1
      ∧ ((∃ d ∈ w.calls, d.order.event = e ∧ (d.Succeeded ∨ d.Duplicated)) →
        ∃ referrer amount share now rewardedAt,
          (w.keptFor e).filter (·.RecordsIncome)
              = [.insertIncome e.user referrer e.source amount share now]
            ∧ (w.keptFor e).filter (·.CreditsUser)
              = [.creditUser amount share rewardedAt e.user]) := by
  have sound := reach.sound
  have heard : w.calls.countP (fun d => d.order.event = e ∧ d.Succeeded)
      ≤ w.kept.countP fun d => d.order.event = e := by
    refine Nat.le_trans (List.countP_mono_left fun d hd answered => ?_) (sound.confirmed e)
    obtain ⟨event, succeeded⟩ := of_decide_eq_true answered
    exact decide_eq_true ⟨event, (sound.calls d hd).onCourse.confirmed succeeded⟩
  rw [List.countP_eq_length_filter (l := w.kept)] at heard
  unfold keptFor
  rcases sound.kept_cases e with none | ⟨d, only, rfl, credit⟩
  · rw [none] at heard ⊢
    refine ⟨Nat.zero_le 1, Nat.zero_le 1, Nat.le_succ_of_le heard, ?_⟩
    rintro ⟨d, hd, event, answered⟩
    obtain ⟨d', hd', event'⟩ := sound.kept_of_answered hd event answered
    have among : d' ∈ w.kept.filter fun d => d.order.event = e :=
      List.mem_filter.2 ⟨hd', decide_eq_true event'⟩
    rw [none] at among
    cases among
  · rw [only] at heard ⊢
    obtain ⟨referrer, share, rewardedAt, income, credited⟩ := credit.credits
    rw [List.flatMap_singleton, List.countP_eq_length_filter, List.countP_eq_length_filter,
      income, credited]
    exact ⟨Nat.le_refl 1, Nat.le_refl 1, heard, fun _ =>
      ⟨referrer, d.order.amount, share, d.order.now, rewardedAt, rfl, rfl⟩⟩

/-- A commit takes effect and the connection is lost before that is said. The
delivery is refused, the next one is a duplicate, and one credit was made. -/
theorem event_credited_once_of_lost_commit :
    let c : PartnerCredit := ⟨.offerwow, "k", 1, 50, 5, ⟨0, 0⟩⟩
    ∃ w : Deliveries, w.Reachable
      ∧ (∃ first second, w.calls = [second, first]
        ∧ first.rest = .done (Outcome.refuse (.unknown "commit: <driver>"))
        ∧ second.Duplicated)
      ∧ (w.keptFor c.event).countP (·.RecordsIncome) ≤ 1
      ∧ ∃ referrer amount share now rewardedAt,
        (w.keptFor c.event).filter (·.RecordsIncome)
            = [.insertIncome 1 referrer .offerwow amount share now]
          ∧ (w.keptFor c.event).filter (·.CreditsUser)
            = [.creditUser amount share rewardedAt 1] := by
  intro c
  let row : Row :=
    ⟨[("id", .int 1), ("email", .text "a@x"), ("address", .text "addr"), ("balance", .int 0),
      ("total_income", .int 0), ("total_income_from_referees", .int 0),
      ("referer_total_income", .int 0), ("referer_id", .null), ("reward_interval_secs", .int 300),
      ("rewarded_at", .null), ("created_at", .instant ⟨0, 0⟩)]⟩
  let unit : List Exchange :=
    [(.start, .changed 0), (.insertEvent "offerwow_callbacks" c.event 50 ⟨0, 0⟩, .changed 1),
      (.selectReferrer 1, .rows [⟨[("referer_id", .null)]⟩]), (.lockUsers [1], .rows [row]),
      (.insertIncome 1 none .offerwow 50 0 ⟨0, 0⟩, .rows [⟨[("id", .int 9)]⟩]),
      (.creditUser 50 0 none 1, .changed 1)]
  let again : List Exchange :=
    [(.start, .changed 0), (.insertEvent "offerwow_callbacks" c.event 50 ⟨0, 0⟩, .changed 0),
      (.rollback, .changed 0)]
  have sent := (Reachable.start.step (.deliver c)).exchanged unit
    ⟨_, rfl, _, rfl, _, rfl, _, rfl, _, rfl, _, rfl, rfl⟩ (by decide) (by decide)
  have lost := sent.step (@Step.keep _ _ [] _ _ _ .lost rfl (by decide))
  have refused := lost.exchanged [(.rollback, .lost)] ⟨_, rfl, rfl⟩ (by decide) (by decide)
  have repeated := (refused.step (.deliver c)).exchanged again
    ⟨_, rfl, _, rfl, _, rfl, rfl⟩ (by decide) (by decide)
  obtain ⟨once, -, -, exactly⟩ := event_credited_once repeated c.event
  exact ⟨_, repeated, ⟨_, _, rfl, rfl, rfl⟩, once,
    exactly ⟨_, List.mem_cons_self, rfl, .inr rfl⟩⟩

end Deliveries

end RewardLedger
