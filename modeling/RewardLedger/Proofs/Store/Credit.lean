import RewardLedger.Proofs.Store.Contract
import RewardLedger.Proofs.Store.Rollback
import RewardLedger.Proofs.Store.Steps

/-!
# What a credit comes to

Both kinds of credit run the same steps in the middle of their units: look up
the user, check that a scheduled reward is due, pay the referrer, record the
income, meet a fail point, pay the user. This module runs them once, from any
point in a unit, and lists the ends that they can come to (`credit_ends`).

A credit that stops half way has written something, and nothing is said about
what: only that going back leads to where the unit began (`WriteUnit.BeganOn`).
-/

namespace RewardLedger.UnitStep

/-! ## The parts of a credit -/

/-- The referrer's row is written if there is one and the sums fit. -/
theorem run_creditReferrer (referrer : Option Int) (share : Int) (s : UnitState) :
    (creditReferrer referrer share).run s
      = match referrer.bind s.unit.tables.users.get? with
        | none => (.ok false, s)
        | some r =>
          if Amount.Fits (r.balance + share) ∧ Amount.Fits (r.totalFromReferees + share) then
            let r' := { r with
              balance := r.balance + share
              totalFromReferees := r.totalFromReferees + share }
            (.ok true, { s with unit := s.unit.putUser r' })
          else (.error .outOfRange, s) := by
  simp only [creditReferrer, run_bind, run_tables]
  cases referrer.bind s.unit.tables.users.get? with
  | none => rfl
  | some r =>
    simp only [run_bind, run_add]
    by_cases hb : Amount.Fits (r.balance + share)
    · by_cases ht : Amount.Fits (r.totalFromReferees + share)
      · simp only [if_pos hb, if_pos ht, if_pos (And.intro hb ht)]
        rfl
      · simp only [if_pos hb, if_neg ht, if_neg fun h : _ ∧ _ => ht h.2]
    · simp only [if_neg hb, if_neg fun h : _ ∧ _ => hb h.1]

/-- A scheduled reward that is not due stops the unit before it writes. -/
theorem run_requireDue (source : IncomeSource) (user : Int) (u : User) (now : Instant)
    (s : UnitState) :
    (requireDue source user u now).run s
      = if source = .reward then match u.rewardDue? now with
          | none => (.error .outOfRange, s)
          | some false => (.error (.error (.rewardNotDue user)), s)
          | some true => (.ok ⟨⟩, s)
        else (.ok ⟨⟩, s) := by
  unfold requireDue
  split
  · cases u.rewardDue? now with
    | none => rfl
    | some due => cases due <;> rfl
  · rfl

/-- A reward that is due, or no scheduled reward at all, lets the unit go on. -/
theorem run_requireDue_of_due {source : IncomeSource} {u : User} {now : Instant}
    (h : source = .reward → u.rewardDue? now = some true) (user : Int) (s : UnitState) :
    (requireDue source user u now).run s = (.ok ⟨⟩, s) := by
  rw [run_requireDue]
  split
  · next hs => rw [h hs]
  · rfl

/-- Recording an income always succeeds. -/
theorem run_recordIncome (source : IncomeSource) (user : Int) (referrer : Option Int)
    (amount share : Int) (now : Instant) (s : UnitState) :
    (recordIncome source user referrer amount share now).run s
      = let i : Income :=
          ⟨s.unit.tables.counters.incomes + 1, user, referrer, source, amount, share, now⟩
        (.ok i, { s with unit := s.unit.nextIncome.addIncome i }) := rfl

/-- The user's row is written if the sums fit. -/
theorem run_creditUser {i : Income} {u : User} {s : UnitState}
    (hu : s.unit.tables.users.get? i.user = some u) (hid : u.id = i.user) :
    (creditUser i).run s
      = if Amount.Fits (u.withIncome i).balance ∧ Amount.Fits (u.withIncome i).totalIncome
            ∧ Amount.Fits (u.withIncome i).totalToReferrer then
          (.ok ⟨⟩, { s with unit := s.unit.putUser (u.withIncome i) })
        else (.error .outOfRange, s) := by
  rw [User.withIncome_of_user hid.symm]
  simp only [creditUser, run_bind, run_tables, hu, run_add]
  by_cases hb : Amount.Fits (u.balance + i.amount)
  · by_cases hi : Amount.Fits (u.totalIncome + i.amount)
    · by_cases ht : Amount.Fits (u.totalToReferrer + i.referrerAmount)
      · simp only [if_pos hb, if_pos hi, if_pos ht, if_pos (And.intro hb (And.intro hi ht))]
        rfl
      · simp only [if_pos hb, if_pos hi, if_neg ht, if_neg fun h : _ ∧ _ ∧ _ => ht h.2.2]
    · simp only [if_pos hb, if_neg hi, if_neg fun h : _ ∧ _ ∧ _ => hi h.2.1]
  · simp only [if_neg hb, if_neg fun h : _ ∧ _ ∧ _ => hb h.1]

/-! ## What a credit comes to -/

section Credit

variable {t₀ : Tables} {s : UnitState} {u : User} {i : Income} {offered : Int}

/-- The share is paid if the referrer's sums fit. -/
theorem creditReferrer_paid (began : s.unit.BeganOn t₀) (keyed : s.unit.tables.UsersKeyed)
    (hi : i.referrer = u.referrer)
    (hshare : i.referrerAmount
      = if (s.unit.tables.referrerOf? u).isSome then offered else 0)
    (room : ∀ r, s.unit.tables.referrerOf? u = some r →
      Amount.Fits (r.balance + i.referrerAmount)
        ∧ Amount.Fits (r.totalFromReferees + i.referrerAmount)) :
    ∃ w : WriteUnit, (creditReferrer u.referrer offered).run s
        = (.ok (s.unit.tables.referrerOf? u).isSome, { s with unit := w })
      ∧ w.BeganOn t₀
      ∧ w.tables = { s.unit.tables with
          users := s.unit.tables.users.map (·.withShare i) } := by
  rw [run_creditReferrer]
  cases hr : s.unit.tables.referrerOf? u with
  | none =>
    -- without a row nothing of the offer gets into the income
    have hzero : i.referrerAmount = 0 := by rw [hshare, hr]; rfl
    rw [show u.referrer.bind s.unit.tables.users.get? = none from hr,
      Tables.map_withShare_of_none hzero]
    exact ⟨s.unit, rfl, began, rfl⟩
  | some r =>
    have hoffered : i.referrerAmount = offered := by rw [hshare, hr]; rfl
    have hfit := room r hr
    rw [hoffered] at hfit
    obtain ⟨href, hget⟩ := Tables.referrer_of_referrerOf? keyed hr
    rw [show u.referrer.bind s.unit.tables.users.get? = some r from hr]
    show ∃ w : WriteUnit, ite _ _ _ = _ ∧ _
    rw [if_pos hfit]
    refine ⟨_, rfl, began.putUser hget, ?_⟩
    rw [← Tables.insert_withShare keyed hr hi,
      User.withShare_of_referrer (hi.trans href), hoffered]
    rfl

/-- Otherwise a number is out of range. -/
theorem creditReferrer_outOfRange
    (hshare : i.referrerAmount
      = if (s.unit.tables.referrerOf? u).isSome then offered else 0)
    (room : ¬ ∀ r, s.unit.tables.referrerOf? u = some r →
      Amount.Fits (r.balance + i.referrerAmount)
        ∧ Amount.Fits (r.totalFromReferees + i.referrerAmount)) :
    (creditReferrer u.referrer offered).run s = (.error .outOfRange, s) := by
  rw [run_creditReferrer]
  cases hr : s.unit.tables.referrerOf? u with
  | none => exact absurd (fun r h => by rw [hr] at h; cases h) room
  | some r =>
    have hoffered : i.referrerAmount = offered := by rw [hshare, hr]; rfl
    rw [show u.referrer.bind s.unit.tables.users.get? = some r from hr]
    refine if_neg fun hfit => room fun r' hr' => ?_
    rw [hr] at hr'
    cases hr'
    rw [hoffered]
    exact hfit

/-- With the share paid and the income recorded, paying the amount completes
the credit if the user's sums fit. -/
theorem creditUser_books {t : Tables} (keyed : t.UsersKeyed)
    (hu : t.users.get? i.user = some u) {w : WriteUnit} (hw : w.tables = t.halfBook i)
    (armed : Option FailPoint) :
    let fits := Amount.Fits (u.post i).balance ∧ Amount.Fits (u.post i).totalIncome
      ∧ Amount.Fits (u.post i).totalToReferrer
    (fits ∧ ∃ w' : WriteUnit, (creditUser i).run ⟨w, armed⟩ = (.ok ⟨⟩, ⟨w', armed⟩)
        ∧ w'.tables = t.book i)
      ∨ (¬ fits ∧ (creditUser i).run ⟨w, armed⟩ = (.error .outOfRange, ⟨w, armed⟩)) := by
  intro fits
  have hid : u.id = i.user := keyed _ _ hu
  -- the user may be its own referrer, so the row that is read has its share by now
  have husers : w.tables.users = t.users.map (·.withShare i) := by rw [hw]; rfl
  have hget : w.tables.users.get? i.user = some (u.withShare i) := by
    rw [husers, Table.get?_map, hu]
    rfl
  have hkeyed : w.tables.UsersKeyed := by
    intro k v hv
    rw [husers] at hv
    exact keyed.map (f := (·.withShare i)) (fun _ => rfl) k v hv
  have hrun := run_creditUser (s := ⟨w, armed⟩) hget hid
  by_cases hfit : fits
  · refine .inl ⟨hfit, _, hrun.trans (if_pos hfit), ?_⟩
    show { w.tables with
      users := w.tables.users.insert u.id ((u.withShare i).withIncome i) } = t.book i
    rw [show u.id = (u.withShare i).id from rfl, Tables.insert_withIncome hkeyed hget,
      husers, Table.map_map, hw]
    rfl
  · exact .inr ⟨hfit, hrun.trans (if_neg hfit)⟩

/-- **The ends that a credit can come to**, on the tables `t` of a unit that
began on the tables `t₀`, each with what led to it and what is left. -/
inductive CreditEnds (t₀ t : Tables) (armed : Option FailPoint) (source : IncomeSource)
    (user amount offered : Int) (now : Instant) : Except Fault Receipt × UnitState → Prop
  | noRow {w : WriteUnit} (hu : t.users.get? user = none) (began : w.BeganOn t₀) :
    CreditEnds t₀ t armed source user amount offered now
      (.error (.error (.noRowForUser user)), ⟨w, armed⟩)
  | notDue {u : User} {w : WriteUnit} (hu : t.users.get? user = some u)
    (reward : source = .reward) (early : u.rewardDue? now = some false)
    (began : w.BeganOn t₀) :
    CreditEnds t₀ t armed source user amount offered now
      (.error (.error (.rewardNotDue user)), ⟨w, armed⟩)
  | stopped {u : User} {w : WriteUnit} (hu : t.users.get? user = some u)
    (due : source = .reward → u.rewardDue? now = some true)
    (met : armed = some .afterIncome) (began : w.BeganOn t₀) :
    CreditEnds t₀ t armed source user amount offered now
      (.error (.error FailPoint.afterIncome.failure), ⟨w, none⟩)
  | paid {u : User} {w : WriteUnit} (hu : t.users.get? user = some u)
    (due : source = .reward → u.rewardDue? now = some true)
    (clear : armed ≠ some .afterIncome)
    (room : t.CreditFits u (t.incomeOf source u amount offered now))
    (booked : w.tables = t.book (t.incomeOf source u amount offered now)) :
    CreditEnds t₀ t armed source user amount offered now
      (.ok (t.receiptOf source u amount offered now), ⟨w, armed⟩)
  | outOfRange {u : User} {s : UnitState} (hu : t.users.get? user = some u)
    (early : source = .reward → u.rewardDue? now ≠ some false)
    (why : ¬ ((source = .reward → u.rewardDue? now = some true)
      ∧ t.CreditFits u (t.incomeOf source u amount offered now)))
    (events : s.unit.tables.events = t.events) :
    CreditEnds t₀ t armed source user amount offered now (.error .outOfRange, s)

variable {w : WriteUnit} (began : w.BeganOn t₀) (keyed : w.tables.UsersKeyed)

include began keyed

/-- What is left of a credit after its checks: the share, the record, the fail
point and the amount. -/
theorem credit_ends_of_due {source : IncomeSource} {now : Instant}
    (hu : w.tables.users.get? u.id = some u)
    (due : source = .reward → u.rewardDue? now = some true) (amount offered : Int)
    (armed : Option FailPoint) :
    CreditEnds t₀ w.tables armed source u.id amount offered now
      ((credit source u.id amount offered now).run ⟨w, armed⟩) := by
  let i := w.tables.incomeOf source u amount offered now
  have early : source = .reward → u.rewardDue? now ≠ some false := by
    intro h
    rw [due h]
    decide
  simp only [credit, run_bind, run_tables, hu, run_requireDue_of_due due]
  by_cases hroom : ∀ r, w.tables.referrerOf? u = some r →
      Amount.Fits (r.balance + i.referrerAmount)
        ∧ Amount.Fits (r.totalFromReferees + i.referrerAmount)
  · -- the share is paid, and the record says so
    obtain ⟨w', hrun, hw', htables⟩ :=
      creditReferrer_paid (s := ⟨w, armed⟩) (i := i) began keyed
        rfl rfl hroom
    have hi : (⟨w'.tables.counters.incomes + 1, u.id, u.referrer, source, amount,
        if (w.tables.referrerOf? u).isSome then offered else 0, now⟩ : Income) = i := by
      rw [htables]
      rfl
    have hhalf : (w'.nextIncome.addIncome i).tables = w.tables.halfBook i := by
      show { w'.tables with
        incomes := w'.tables.incomes ++ [i]
        counters := { w'.tables.counters with
          incomes := w'.tables.counters.incomes + 1 } } = _
      rw [htables]
      rfl
    have hbegan : (w'.nextIncome.addIncome i).BeganOn t₀ := hw'.nextIncome.addIncome i
    simp only [hrun, run_recordIncome, run_passFailPoint, hi]
    -- the fail point is met with the income recorded and the amount not yet paid
    by_cases harmed : armed = some .afterIncome
    · rw [if_pos harmed]
      exact .stopped hu due harmed hbegan
    · rw [if_neg harmed]
      obtain ⟨hfit, w'', hrun', hbook⟩ | ⟨hfit, hrun'⟩ :=
        creditUser_books keyed hu hhalf armed
      · simp only [hrun']
        exact .paid hu due harmed ⟨hroom, hfit⟩ hbook
      · simp only [hrun']
        exact .outOfRange hu early (fun h => hfit h.2.2) (by
          rw [hhalf]
          rfl)
  · simp only [creditReferrer_outOfRange (s := ⟨w, armed⟩) (i := i) rfl hroom]
    exact .outOfRange hu early (fun h => hroom h.2.1) rfl

/-- **A credit comes to one of these ends.** -/
theorem credit_ends (source : IncomeSource) (user amount offered : Int) (now : Instant)
    (armed : Option FailPoint) :
    CreditEnds t₀ w.tables armed source user amount offered now
      ((credit source user amount offered now).run ⟨w, armed⟩) := by
  cases hu : w.tables.users.get? user with
  | none =>
    simp only [credit, run_bind, run_tables, hu]
    exact .noRow hu began
  | some u =>
    have hid : u.id = user := keyed user u hu
    subst hid
    by_cases due : source = .reward → u.rewardDue? now = some true
    · exact credit_ends_of_due began keyed hu due amount offered armed
    · obtain ⟨hreward, hnot⟩ := Classical.not_imp.1 due
      simp only [credit, run_bind, run_tables, hu, run_requireDue, if_pos hreward]
      cases hd : u.rewardDue? now with
      | none => exact .outOfRange hu (fun _ => by rw [hd]; decide) (fun h => due h.1) rfl
      | some due =>
        cases due with
        | false => exact .notDue hu hreward hd began
        | true => exact absurd hd hnot

end Credit

/-- What a credit paid out is counted if the sums fit. -/
theorem run_countInto (day : Day) {r : Receipt} {paid : Int}
    (hpaid : r.income.amount + r.income.referrerAmount = paid) (s : UnitState) :
    (countInto day r).run s
      = if Amount.Fits paid ∧ Amount.Fits (s.unit.tables.totalOf day + paid) then
          (.ok ⟨⟩, { s with unit := s.unit.putDayTotal day (s.unit.tables.totalOf day + paid) })
        else (.error .outOfRange, s) := by
  have hrun : (inRange r.disbursed?).run s = _ :=
    run_add r.income.amount r.income.referrerAmount s
  rw [hpaid] at hrun
  simp only [countInto, run_bind, run_tables, hrun]
  by_cases hsum : Amount.Fits paid
  · simp only [if_pos hsum, run_add]
    by_cases hday : Amount.Fits (s.unit.tables.totalOf day + paid)
    · simp only [if_pos hday, if_pos (And.intro hsum hday)]
      rfl
    · simp only [if_neg hday, if_neg fun h : _ ∧ _ => hday h.2]
  · simp only [if_neg hsum, if_neg fun h : _ ∧ _ => hsum h.1]

end RewardLedger.UnitStep
