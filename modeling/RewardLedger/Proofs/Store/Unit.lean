import RewardLedger.Proofs.Store.Batch
import RewardLedger.Proofs.Store.Credit

/-!
# The units of a store in memory

Each of the five units is run from the start of a unit to one of its ends
(`UnitStep.Ends`). What a store makes of the end is the same for all of them:
it keeps what was written, goes back, or is disabled. So every write comes to
one of the ends that `Memory.Writes` lists, and nothing that is proved about
writes later on has to look at a unit again.
-/

namespace RewardLedger

namespace UnitStep

/-! ## The units -/

/-- **The ends that a unit can come to**, started on the tables `t`. -/
inductive Ends (t : Tables) (armed : Option FailPoint) (op : StoreOp) :
    Except Fault op.Answer × UnitState → Prop
  | refused {cause : Error} {w : WriteUnit} (why : t.Refuses op cause) (began : w.BeganOn t) :
    Ends t armed op (.error (.error cause), ⟨w, armed⟩)
  | stopped {p : FailPoint} {w : WriteUnit} (met : armed = some p) (reached : t.Reaches op p)
    (began : w.BeganOn t) : Ends t armed op (.error (.error p.failure), ⟨w, none⟩)
  | kept {a : op.Answer} {w : WriteUnit} (clear : ∀ p, armed = some p → ¬ t.Reaches op p)
    (room : t.HasRoom op) (did : t.Commits op a w.tables) :
    Ends t armed op (.ok a, ⟨w, armed⟩)
  | outOfRange {s : UnitState} (why : ¬ t.HasRoom op)
    (events : ∀ e ∈ t.events, e ∈ s.unit.tables.events) :
    Ends t armed op (.error .outOfRange, s)

section Ends

variable (t : Tables) (armed : Option FailPoint)

/-- A user is registered if the email is free. -/
theorem createUser_ends (user : NewUser) (now : Instant) :
    Ends t armed (.createUser user now) ((createUser user now).run ⟨.start t, armed⟩) := by
  simp only [createUser, run_bind, run_tables, WriteUnit.tables_start]
  cases hfree : t.userOfEmail? user.email with
  | some id =>
    have htaken : (some id).isSome = true := rfl
    simp only [if_pos htaken, run_bind, run_refuse]
    exact .refused ⟨by rw [hfree]; exact Option.some_ne_none id, rfl⟩
      (WriteUnit.beganOn_start t)
  | none =>
    have hfree' : ¬ (none : Option Int).isSome = true := Bool.false_ne_true
    simp only [if_neg hfree', run_bind, run_pure, run_write, run_tables]
    exact .kept (fun p _ h => by cases p <;> exact h) trivial ⟨hfree, rfl, rfl⟩

/-- A scheduled reward is credited if it is due, and counted into its day. -/
theorem creditReward_ends (keyed : t.UsersKeyed) (c : RewardCredit) :
    Ends t armed (.creditReward c) ((creditReward c).run ⟨.start t, armed⟩) := by
  -- the credit is one block; only its ends matter from here on
  have hends := credit_ends (WriteUnit.beganOn_start t) keyed
    .reward c.user c.amount c.referrerAmount c.now armed
  rw [WriteUnit.tables_start] at hends
  simp only [creditReward, run_bind]
  generalize (credit .reward c.user c.amount c.referrerAmount c.now).run
    ⟨.start t, armed⟩ = r at hends ⊢
  cases hends with
  | noRow hu began => exact .refused (.inl ⟨hu, rfl⟩) began
  | notDue hu _ early began => exact .refused (.inr ⟨_, hu, early, rfl⟩) began
  | stopped hu due met began => exact .stopped met ⟨_, hu, due rfl⟩ began
  | outOfRange hu early why events =>
    refine .outOfRange (fun room => why ?_) fun e he => events ▸ he
    obtain ⟨hdue, hfit, -⟩ := room _ hu (early rfl)
    exact ⟨fun _ => hdue, hfit⟩
  | @paid u w hu due clear room booked =>
    have hdue : u.rewardDue? c.now = some true := due rfl
    have hnot : u.rewardDue? c.now ≠ some false := by rw [hdue]; decide
    let i := t.incomeOf .reward u c.amount c.referrerAmount c.now
    -- the credit did not touch the day, so its total is still that of the beginning
    have htotal : w.tables.totalOf c.now.day = t.totalOf c.now.day := by rw [booked]; rfl
    have hcount := run_countInto c.now.day
      (show (t.receiptOf .reward u c.amount c.referrerAmount c.now).income.amount + _
        = i.amount + i.referrerAmount from rfl) ⟨w, armed⟩
    simp only [htotal] at hcount
    simp only [hcount]
    by_cases hday : Amount.Fits (i.amount + i.referrerAmount)
        ∧ Amount.Fits (t.totalOf c.now.day + (i.amount + i.referrerAmount))
    · rw [if_pos hday]
      refine .kept ?_ ?_ ⟨u, hu, hdue, rfl, ?_⟩
      · intro p hp hreach
        cases p with
        | afterIncome => exact clear hp
        | afterEvent => exact hreach
        | afterDebit => exact hreach
      · intro v hv _
        rw [hu] at hv
        cases hv
        exact ⟨hdue, room, hday⟩
      · unfold WriteUnit.putDayTotal
        rw [booked]
        rfl
    · rw [if_neg hday]
      refine .outOfRange (fun room => hday (room u hu hnot).2.2) fun e he => ?_
      rw [booked]
      exact he

/-- A partner's event is credited once. -/
theorem creditPartner_ends (keyed : t.UsersKeyed) (c : PartnerCredit)
    (hpartner : c.source.IsPartner) :
    Ends t armed (.creditPartner c) ((creditPartner c).run ⟨.start t, armed⟩) := by
  simp only [creditPartner, run_bind, run_tables, WriteUnit.tables_start]
  by_cases hknown : c.event ∈ t.events
  · simp only [if_pos hknown, run_bind, run_refuse]
    exact .refused (.inl ⟨hknown, rfl⟩) (WriteUnit.beganOn_start t)
  · -- the event is remembered first, and the credit begins on the tables with it
    have hbegan := (WriteUnit.beganOn_start t).addEvent c.event
    simp only [if_neg hknown, run_bind, run_write, run_passFailPoint]
    by_cases hmet : armed = some .afterEvent
    · rw [if_pos hmet]
      exact .stopped hmet hknown hbegan
    · simp only [if_neg hmet]
      have hends := credit_ends hbegan keyed c.source c.user c.amount c.referrerAmount c.now
        armed
      generalize (credit c.source c.user c.amount c.referrerAmount c.now).run
        ⟨(WriteUnit.start t).addEvent c.event, armed⟩ = r at hends ⊢
      cases hends with
      | noRow hu began =>
        have why : t.Refuses (.creditPartner c) (.noRowForUser c.user) :=
          .inr ⟨hknown, hu, rfl⟩
        exact .refused why began
      | notDue _ reward => exact absurd (reward ▸ hpartner) (by decide)
      | @stopped u w hu _ met began =>
        have reached : t.Reaches (.creditPartner c) .afterIncome := ⟨hknown, u, hu⟩
        exact .stopped met reached began
      | outOfRange hu _ why events =>
        have noRoom : ¬ t.HasRoom (.creditPartner c) := fun room =>
          why ⟨fun h => absurd (h ▸ hpartner) (by decide), room hknown _ hu⟩
        refine .outOfRange noRoom fun e he => ?_
        rw [events]
        exact List.mem_cons_of_mem c.event he
      | @paid u w hu _ clear room booked =>
        have did : t.Commits (.creditPartner c)
            (t.receiptOf c.source u c.amount c.referrerAmount c.now) w.tables :=
          ⟨hpartner, hknown, u, hu, rfl, booked⟩
        refine .kept ?_ ?_ did
        · intro p hp hreach
          cases p with
          | afterIncome => exact clear hp
          | afterEvent => exact hmet hp
          | afterDebit => exact hreach
        · intro _ v hv
          rw [show t.users.get? c.user = some u from hu] at hv
          cases hv
          exact room

/-- A withdrawal is created if the balance covers it. -/
theorem createWithdrawal_ends (keyed : t.UsersKeyed) (order : NewWithdrawal) :
    Ends t armed (.createWithdrawal order)
      ((createWithdrawal order).run ⟨.start t, armed⟩) := by
  simp only [createWithdrawal, run_bind, run_tables, WriteUnit.tables_start]
  have hstart : (WriteUnit.start t).BeganOn t := WriteUnit.beganOn_start t
  cases hcover : (t.users.get? order.user).filter (order.amount ≤ ·.balance) with
  | none =>
    simp only [run_refuse]
    refine .refused ⟨fun u hu => ?_, rfl⟩ hstart
    rw [hu, Option.filter_eq_none_iff] at hcover
    have hless := hcover u rfl
    rw [decide_eq_true_eq] at hless
    exact Int.not_le.1 hless
  | some u =>
    obtain ⟨hu, hcovers⟩ := Option.filter_eq_some_iff.1 hcover
    rw [decide_eq_true_eq] at hcovers
    have hid : u.id = order.user := keyed _ _ hu
    rw [← hid] at hu
    -- a negative amount is covered by every balance, but what is left may not fit
    simp only [run_bind, run_sub]
    by_cases hroom : Amount.Fits (u.balance - order.amount)
    · simp only [if_pos hroom, run_write, run_passFailPoint]
      have hbegan : ((WriteUnit.start t).putUser
          { u with balance := u.balance - order.amount }).BeganOn t := hstart.putUser hu
      by_cases hmet : armed = some .afterDebit
      · rw [if_pos hmet]
        exact .stopped hmet ⟨u, hid ▸ hu, hcovers⟩ hbegan
      · rw [if_neg hmet]
        refine .kept ?_ ?_ ⟨u, hid ▸ hu, hcovers, rfl, ?_⟩
        · intro p hp hreach
          cases p with
          | afterIncome => exact hreach
          | afterEvent => exact hreach
          | afterDebit => exact hmet hp
        · intro v hv _
          rw [← hid, hu] at hv
          cases hv
          exact hroom
        · unfold Tables.payOut
          rw [← Tables.insert_debit keyed hu hid.symm]
          rfl
    · simp only [if_neg hroom]
      exact .outOfRange (fun room => hroom (room u (hid ▸ hu) hcovers)) fun _ he => he

/-- A batch is moved as a whole. -/
theorem advance_ends (keyed : t.WithdrawalsKeyed) (ids : List Int)
    (current next : WithdrawalStatus) (transaction : Option String) (now : Instant) :
    Ends t armed (.advanceWithdrawals ids current next transaction now)
      ((advance ids current next transaction now).run ⟨.start t, armed⟩) := by
  obtain ⟨w, hw, htables, hrun⟩ := run_advance keyed rfl current next transaction now armed
  rw [hrun]
  by_cases hall : (t.inStatus current (distinctAscending ids)).length
      = (distinctAscending ids).length
  · rw [if_pos hall]
    exact .kept (fun p _ h => by cases p <;> exact h) trivial ⟨hall, rfl, htables⟩
  · rw [if_neg hall]
    exact .refused ⟨hall, rfl⟩ hw

end Ends

end UnitStep

namespace Memory

/-- **What a store makes of the end of a unit.** -/
theorem writes_of_ends {m : Memory} {op : StoreOp} {work : UnitStep op.Answer}
    (on : m.disabled = false)
    (ends : UnitStep.Ends m.tables m.armed op (work.run ⟨.start m.tables, m.armed⟩)) :
    m.Writes op (m.transact work).1 (m.transact work).2 := by
  unfold transact
  rw [if_neg (ne_true_of_eq_false on)]
  generalize work.run ⟨.start m.tables, m.armed⟩ = r at ends
  cases ends with
  | refused why began =>
    show m.Writes op (.refuse _) { m with tables := WriteUnit.rollback _ }
    rw [began.rollback_eq]
    exact .refused on why
  | stopped met reached began =>
    show m.Writes op (.refuse _) { m with tables := WriteUnit.rollback _, armed := none }
    rw [began.rollback_eq]
    exact .stopped on met reached
  | kept clear room did => exact .kept on clear room did
  | outOfRange why events => exact .outOfRange on why rfl events

/-- A disabled store refuses every unit. -/
theorem transact_of_disabled {α : Type} {m : Memory} (off : m.disabled = true)
    (work : UnitStep α) : m.transact work = (.refuse disabledError, m) := if_pos off

/-- A unit is run by a store that is usable. -/
theorem writes_transact {m : Memory} {op : StoreOp} {work : UnitStep op.Answer}
    (ends : m.disabled = false →
      UnitStep.Ends m.tables m.armed op (work.run ⟨.start m.tables, m.armed⟩)) :
    m.Writes op (m.transact work).1 (m.transact work).2 := by
  cases off : m.disabled with
  | true =>
    rw [transact_of_disabled off]
    exact .disabled off
  | false => exact writes_of_ends off (ends off)

/-- **Every write comes to one of its ends**, on tables whose rows stand under
their identifiers. -/
theorem writes_answer {m : Memory} (users : m.disabled = false → m.tables.UsersKeyed)
    (withdrawals : m.disabled = false → m.tables.WithdrawalsKeyed) {op : StoreOp}
    (write : op.IsWrite) : m.Writes op (m.answer op).1 (m.answer op).2 := by
  cases op with
  | createUser user now =>
    exact writes_transact fun _ => UnitStep.createUser_ends _ _ user now
  | creditReward c =>
    exact writes_transact fun on => UnitStep.creditReward_ends _ _ (users on) c
  | creditPartner c =>
    have hanswer : m.answer (.creditPartner c)
        = if c.source.IsPartner then m.transact (UnitStep.creditPartner c)
          else (.refuse (.invalidSource c.source.name), m) := rfl
    rw [hanswer]
    by_cases hpartner : c.source.IsPartner
    · rw [if_pos hpartner]
      exact writes_transact fun on => UnitStep.creditPartner_ends _ _ (users on) c hpartner
    · rw [if_neg hpartner]
      exact .invalid (if_neg hpartner)
  | createWithdrawal order =>
    exact writes_transact fun on => UnitStep.createWithdrawal_ends _ _ (users on) order
  | advanceWithdrawals ids current next transaction now =>
    exact writes_transact fun on =>
      UnitStep.advance_ends _ _ (withdrawals on) ids current next transaction now
  | _ => cases write

end Memory

end RewardLedger
