import RewardLedger.Proofs.Books
import RewardLedger.Proofs.Store.Midway

/-!
# No balance is overdrawn

A withdrawal is taken from a balance only if the balance covers it, and the
store checks that in the same unit. Whoever asks for the withdrawal may have
looked at the balance long before: a sweep reads the balances of all users and
then asks for them one by one, twice if it has to, while requests and other
sweeps are at work on the same users. None of that can pay out more than was
earned.

The bound is on what was ever paid out, so it is a statement about runs. It
rests on the books, by which a balance is what was earned less what was
withdrawn (`Tables.Balanced`), and on balances that never fall below zero
(`Tables.Solvent`). Both have to survive a credit that is abandoned half way,
where the books no longer balance; what is left of them is that the writes of a
credit only ever add (`UnitStep.keeps_credit`).
-/

namespace RewardLedger

/-! ## Solvency -/

namespace Tables

/-- What a user earned: the amounts of its own incomes, and the shares in those
of its referees. -/
def earnedBy (t : Tables) (user : Int) : Int :=
  t.sumOf (·.user = user) (·.amount) + t.sumOf (·.referrer = some user) (·.referrerAmount)

/-- **No balance is below zero, and nobody withdrew more than it earned.** -/
structure Solvent (t : Tables) : Prop where
  balance : ∀ k u, t.users.get? k = some u → 0 ≤ u.balance
  covered : ∀ user, t.withdrawnBy user ≤ t.earnedBy user

theorem solvent_empty : Solvent .empty where
  balance := by intro k u hu; cases hu
  covered := fun _ => Int.le_refl _

namespace Solvent

variable {t t' : Tables} (h : t.Solvent)

include h

/-- Tables with the same incomes and withdrawals stay solvent as long as no
balance falls below zero. -/
theorem of_same (incomes : t'.incomes = t.incomes)
    (withdrawn : ∀ user, t'.withdrawnBy user = t.withdrawnBy user)
    (balance : ∀ k u, t'.users.get? k = some u → 0 ≤ u.balance) : t'.Solvent where
  balance := balance
  covered := by
    intro user
    have earned : t'.earnedBy user = t.earnedBy user := by
      unfold earnedBy sumOf
      rw [incomes]
    rw [withdrawn, earned]
    exact h.covered user

/-- A row whose balance is not below zero can be put. -/
theorem putUser (k : Int) {u : User} (hu : 0 ≤ u.balance) :
    { t with users := t.users.insert k u }.Solvent := by
  refine h.of_same rfl (fun _ => rfl) fun j v hv => ?_
  rw [Table.get?_insert] at hv
  split at hv
  · rw [← Option.some.inj hv]
    exact hu
  · exact h.balance j v hv

/-- An income that takes nothing away can be added. -/
theorem addIncome {i : Income} (amount : 0 ≤ i.amount) (share : 0 ≤ i.referrerAmount) :
    { t with incomes := t.incomes ++ [i] }.Solvent where
  balance := h.balance
  covered := by
    intro user
    have more := h.covered user
    have own : { t with incomes := t.incomes ++ [i] }.sumOf (·.user = user) (·.amount)
        = t.sumOf (·.user = user) (·.amount) + if i.user = user then i.amount else 0 :=
      sumOf_book i
    have shares : { t with incomes := t.incomes ++ [i] }.sumOf (·.referrer = some user)
          (·.referrerAmount)
        = t.sumOf (·.referrer = some user) (·.referrerAmount)
          + if i.referrer = some user then i.referrerAmount else 0 := sumOf_book i
    show t.withdrawnBy user ≤ _ + _
    unfold earnedBy at more
    rw [own, shares]
    split <;> split <;> omega

/-- **A withdrawal that the balance covers** leaves everybody solvent, for the
balance is what was earned less what was withdrawn. -/
theorem payOut (wf : t.WellFormed) (balanced : t.Balanced) {order : NewWithdrawal} {u : User}
    (hu : t.users.get? order.user = some u) (cover : order.amount ≤ u.balance) :
    (t.payOut (order.row (t.counters.withdrawals + 1))).Solvent where
  balance := by
    intro k v hv
    obtain ⟨w, hw, rfl⟩ := Table.get?_map_eq_some_iff.1 hv
    have positive := h.balance k w hw
    show 0 ≤ w.balance - if order.user = w.id then order.amount else 0
    split
    · next huser =>
      rw [huser, wf.users_keyed k w hw, hw] at hu
      cases hu
      omega
    · omega
  covered := by
    intro user
    rw [withdrawnBy_payOut wf rfl]
    show _ + (if order.user = user then order.amount else 0) ≤ t.earnedBy user
    split
    · next huser =>
      subst huser
      have books := balanced.users _ u hu
      have total := books.balance
      rw [books.totalIncome, books.totalFromReferees, wf.users_keyed _ u hu] at total
      unfold earnedBy
      omega
    · have more := h.covered user
      omega

end Solvent

end Tables

/-! ## Credits that stop half way -/

/-- **A row has come to another** by being credited: every number in it is at
least as great. -/
structure User.AtMost (u v : User) : Prop where
  balance : u.balance ≤ v.balance
  totalIncome : u.totalIncome ≤ v.totalIncome
  totalFromReferees : u.totalFromReferees ≤ v.totalFromReferees
  totalToReferrer : u.totalToReferrer ≤ v.totalToReferrer

namespace User.AtMost

theorem refl (u : User) : u.AtMost u :=
  ⟨Int.le_refl _, Int.le_refl _, Int.le_refl _, Int.le_refl _⟩

theorem trans {u v w : User} (first : u.AtMost v) (second : v.AtMost w) : u.AtMost w where
  balance := Int.le_trans first.balance second.balance
  totalIncome := Int.le_trans first.totalIncome second.totalIncome
  totalFromReferees := Int.le_trans first.totalFromReferees second.totalFromReferees
  totalToReferrer := Int.le_trans first.totalToReferrer second.totalToReferrer

end User.AtMost

namespace Tables

/-- **A property that gains do not break**: a row may be put in the place of one that was
at most as great, an income that takes nothing away may be recorded, and neither the
events nor the numbering nor the totals of the days matter. -/
structure AdmitsGains (P : Tables → Prop) : Prop where
  put {t : Tables} {k : Int} {u : User} (v : User) (h : P t) (hu : t.users.get? k = some u)
    (same : v.id = u.id) (more : u.AtMost v) : P { t with users := t.users.insert v.id v }
  record {t : Tables} (i : Income) (h : P t) (amount : 0 ≤ i.amount)
    (share : 0 ≤ i.referrerAmount) : P { t with incomes := t.incomes ++ [i] }
  aside (t : Tables) events counters dayTotals (h : P t) :
    P { t with events, counters, dayTotals }

theorem admitsGains_solvent : AdmitsGains Solvent where
  put v h hu _ more := h.putUser v.id (Int.le_trans (h.balance _ _ hu) more.balance)
  record _ h amount share := h.addIncome amount share
  aside _ _ _ _ h := h.of_same rfl (fun _ => rfl) h.balance

end Tables

namespace UnitStep

variable {P : Tables → Prop} (gains : Tables.AdmitsGains P)

include gains

/-- Paying a share that takes nothing away is a gain. -/
theorem keeps_creditReferrer (referrer : Option Int) {share : Int} (gives : 0 ≤ share) :
    (creditReferrer referrer share).Keeps P := by
  intro s h
  rw [run_creditReferrer]
  cases hr : referrer.bind s.unit.tables.users.get? with
  | none => exact h
  | some r =>
    obtain ⟨k, -, hk⟩ := Option.bind_eq_some_iff.1 hr
    have more (n : Int) : n ≤ n + share := by omega
    dsimp only
    split
    · exact gains.put _ h hk rfl ⟨more _, Int.le_refl _, more _, Int.le_refl _⟩
    · exact h

/-- So is paying an amount. -/
theorem keeps_creditUser {i : Income} (gives : 0 ≤ i.amount) (share : 0 ≤ i.referrerAmount) :
    (creditUser i).Keeps P := by
  intro s h
  simp only [creditUser, run_bind, run_tables]
  cases hu : s.unit.tables.users.get? i.user with
  | none => exact h
  | some u =>
    have more (n : Int) : n ≤ n + i.amount := by omega
    simp only [run_bind, run_add]
    -- nothing is written unless all three sums fit
    by_cases hb : Amount.Fits (u.balance + i.amount)
    · by_cases hi : Amount.Fits (u.totalIncome + i.amount)
      · by_cases ht : Amount.Fits (u.totalToReferrer + i.referrerAmount)
        · simp only [if_pos hb, if_pos hi, if_pos ht]
          exact gains.put _ h hu rfl
            ⟨more _, more _, Int.le_refl _, Int.le_add_of_nonneg_right share⟩
        · simp only [if_pos hb, if_pos hi, if_neg ht]
          exact h
      · simp only [if_pos hb, if_neg hi]
        exact h
    · simp only [if_neg hb]
      exact h

/-- Recording an income that takes nothing away is none the worse. -/
theorem keeps_recordIncome (source : IncomeSource) (user : Int) (referrer : Option Int)
    {amount share : Int} (now : Instant) (gives : 0 ≤ amount) (shares : 0 ≤ share) :
    (recordIncome source user referrer amount share now).Keeps P := by
  intro s h
  rw [run_recordIncome]
  have added := gains.record
    ⟨s.unit.tables.counters.incomes + 1, user, referrer, source, amount, share, now⟩ h gives shares
  exact gains.aside _ _ _ _ added

/-- **A credit that takes nothing away only adds**, wherever it stops. -/
theorem keeps_credit (source : IncomeSource) (user : Int) {amount offered : Int} (now : Instant)
    (gives : 0 ≤ amount) (share : 0 ≤ offered) :
    (credit source user amount offered now).Keeps P := by
  unfold credit
  refine keeps_tables.bind fun t => ?_
  cases t.users.get? user with
  | none => exact keeps_refuse _
  | some u =>
    refine (keeps_requireDue source user u now).bind fun _ => ?_
    refine (keeps_creditReferrer gains u.referrer share).bind fun credited => ?_
    have paid : 0 ≤ if credited = true then offered else 0 := by
      split <;> omega
    refine (keeps_recordIncome gains source user u.referrer now gives paid).bind_of_run ?_
    intro i s s' recorded
    rw [run_recordIncome] at recorded
    cases recorded
    refine (keeps_passFailPoint _).bind fun _ => ?_
    exact (keeps_creditUser gains gives paid).bind fun _ => keeps_pure _

/-- So does a scheduled reward. -/
theorem keeps_creditReward {c : RewardCredit} (gives : 0 ≤ c.amount)
    (share : 0 ≤ c.referrerAmount) : (creditReward c).Keeps P := by
  refine (keeps_credit gains .reward c.user c.now gives share).bind fun receipt => ?_
  refine Keeps.bind ?_ fun _ => keeps_pure _
  refine (keeps_inRange _).bind fun _ => keeps_tables.bind fun _ => ?_
  exact (keeps_inRange _).bind fun _ => keeps_write fun w h => gains.aside w.tables _ _ _ h

/-- So does the event of a partner. -/
theorem keeps_creditPartner {c : PartnerCredit} (gives : 0 ≤ c.amount)
    (share : 0 ≤ c.referrerAmount) : (creditPartner c).Keeps P := by
  refine keeps_tables.bind fun t => ?_
  by_cases known : c.event ∈ t.events
  · rw [if_pos known]
    exact keeps_refuse _
  · rw [if_neg known]
    have remembered : (write (·.addEvent c.event)).Keeps P :=
      keeps_write fun w h => gains.aside w.tables _ _ _ h
    exact remembered.bind fun _ => (keeps_passFailPoint _).bind fun _ =>
      keeps_credit gains c.source c.user c.now gives share

end UnitStep

/-! ## Requests to a store -/

namespace StoreOp

/-- A credit takes nothing away, neither by its amount nor by its share. -/
def Gives : StoreOp → Prop
  | creditReward c => 0 ≤ c.amount ∧ 0 ≤ c.referrerAmount
  | creditPartner c => 0 ≤ c.amount ∧ 0 ≤ c.referrerAmount
  | _ => True

/-- The request is for a withdrawal. -/
def Withdraws : StoreOp → Prop
  | createWithdrawal _ => True
  | _ => False

/-- A withdrawal is of a positive amount. -/
def TakesPositive : StoreOp → Prop
  | createWithdrawal order => 0 < order.amount
  | _ => True

theorem takesPositive_of_not_withdraws {op : StoreOp} (never : ¬ op.Withdraws) :
    op.TakesPositive := by
  cases op with
  | createWithdrawal order => exact absurd trivial never
  | _ => trivial

end StoreOp

/-- **Every number in a row can be held.** -/
structure User.Fits (u : User) : Prop where
  balance : Amount.Fits u.balance
  totalIncome : Amount.Fits u.totalIncome
  totalFromReferees : Amount.Fits u.totalFromReferees
  totalToReferrer : Amount.Fits u.totalToReferrer

namespace Tables

/-- Every balance can be held. -/
def BalancesFit (t : Tables) : Prop := ∀ k u, t.users.get? k = some u → Amount.Fits u.balance

/-- Every number in every row can be held. -/
def RowsFit (users : Table User) : Prop := ∀ k u, users.get? k = some u → u.Fits

/-- The rows fit after a credit whose sums fit. -/
theorem RowsFit.post {t : Tables} (h : RowsFit t.users) (keyed : t.UsersKeyed)
    {source : IncomeSource} {u : User} {amount offered : Int} {now : Instant} {i : Income}
    (hu : t.users.get? u.id = some u) (hi : i = t.incomeOf source u amount offered now)
    (room : t.CreditFits u i) : RowsFit (t.users.map (·.post i)) := by
  intro k v hv
  obtain ⟨w, hw, rfl⟩ := Table.get?_map_eq_some_iff.1 hv
  have huser : i.user = u.id := by rw [hi]; rfl
  have href : i.referrer = u.referrer := by rw [hi]; rfl
  have row := h k w hw
  -- the share is paid to the row of the referrer, which has room for it
  have shared : Amount.Fits (w.balance + i.shareFor w.id)
      ∧ Amount.Fits (w.totalFromReferees + i.shareFor w.id) := by
    unfold Income.shareFor
    split
    · next named =>
      refine room.1 w ?_
      unfold referrerOf?
      rw [← href, named, keyed k w hw]
      exact hw
    · rw [Int.add_zero, Int.add_zero]
      exact ⟨row.balance, row.totalFromReferees⟩
  by_cases own : w.id = u.id
  · have same : w = u := by
      rw [← keyed k w hw, own, hu] at hw
      exact (Option.some.inj hw).symm
    subst same
    exact ⟨room.2.1, room.2.2.1, shared.2, room.2.2.2⟩
  · have amountFor : i.amountFor w.id = 0 := if_neg fun h => own (h.symm.trans huser)
    have shareOf : i.shareOf w.id = 0 := if_neg fun h => own (h.symm.trans huser)
    constructor
    · rw [User.balance_post, amountFor, Int.add_zero]
      exact shared.1
    · rw [User.totalIncome_post, amountFor, Int.add_zero]
      exact row.totalIncome
    · exact shared.2
    · rw [User.totalToReferrer_post, shareOf, Int.add_zero]
      exact row.totalToReferrer

/-- A write that is kept leaves rows that can be held. -/
theorem Commits.rowsFit {t t' : Tables} {op : StoreOp} {a : op.Answer}
    (did : t.Commits op a t') (room : t.HasRoom op) (keyed : t.UsersKeyed)
    (h : RowsFit t.users) : RowsFit t'.users := by
  cases op with
  | createUser user now =>
    obtain ⟨-, rfl, rfl⟩ := did
    intro k v hv
    obtain ⟨-, rfl⟩ | hv := new_or_old_of_register hv
    · exact ⟨Amount.fits_zero, Amount.fits_zero, Amount.fits_zero, Amount.fits_zero⟩
    · exact h k v hv
  | creditReward c =>
    obtain ⟨u, hu, due, rfl, rfl⟩ := did
    have early : u.rewardDue? c.now ≠ some false := by
      rw [due]
      decide
    exact h.post keyed (keyed _ _ hu ▸ hu) rfl (room u hu early).2.1
  | creditPartner c =>
    obtain ⟨-, fresh, u, hu, rfl, rfl⟩ := did
    exact h.post keyed (keyed _ _ hu ▸ hu) rfl (room fresh u hu)
  | createWithdrawal order =>
    obtain ⟨u, hu, cover, rfl, rfl⟩ := did
    intro k v hv
    obtain ⟨w, hw, rfl⟩ := Table.get?_map_eq_some_iff.1 hv
    refine { h k w hw with balance := ?_ }
    show Amount.Fits (w.balance - if order.user = w.id then order.amount else 0)
    split
    · next huser =>
      have same : w = u := by
        rw [huser, keyed k w hw, hw] at hu
        exact Option.some.inj hu
      rw [same]
      exact room u hu cover
    · rw [Int.sub_zero]
      exact (h k w hw).balance
  | advanceWithdrawals ids current next transaction now =>
    obtain ⟨-, -, rfl⟩ := did
    exact h
  | _ => exact did.elim

end Tables

namespace Memory

/-- **Every number in the rows of a usable store can be held.** -/
theorem Reachable.rowsFit {m : Memory} (reach : m.Reachable) (on : m.disabled = false) :
    Tables.RowsFit m.tables.users := by
  induction reach with
  | empty => intro k u hu; cases hu
  | @perform m c reach ih =>
    have before : m.disabled = false := reach.usable_of_after [c] on
    have fit := ih before
    cases c with
    | request op =>
      by_cases write : op.IsWrite
      · have ends := reach.writes write
        change (m.answer op).2.disabled = false at on
        show Tables.RowsFit (m.answer op).2.tables.users
        generalize (m.answer op).1 = r, (m.answer op).2 = m' at ends on ⊢
        cases ends with
        | kept _ _ room did =>
          exact did.rowsFit room (reach.wellFormed before).users_keyed fit
        | outOfRange _ _ off => exact absurd off (ne_true_of_eq_false on)
        | _ => exact fit
      · have same : (m.answer op).2 = m := answer_of_not_write m write
        show Tables.RowsFit (m.answer op).2.tables.users
        rw [same]
        exact fit
    | addPolicy p =>
      exact transact_write_keeps (P := fun t => Tables.RowsFit t.users) fit fit
    | addBand b =>
      exact transact_write_keeps (P := fun t => Tables.RowsFit t.users) fit fit
    | arm p => exact fit

/-- **Every balance in a usable store can be held.** -/
theorem Reachable.balancesFit {m : Memory} (reach : m.Reachable) (on : m.disabled = false) :
    m.tables.BalancesFit :=
  fun k u hu => (reach.rowsFit on k u hu).balance

/-- A withdrawal of a positive amount never leaves the range. -/
theorem Reachable.hasRoom_createWithdrawal {m : Memory} (reach : m.Reachable)
    (on : m.disabled = false) {order : NewWithdrawal} (positive : 0 < order.amount) :
    m.tables.HasRoom (.createWithdrawal order) := by
  intro u hu cover
  have most := (reach.balancesFit on _ u hu).2
  rw [Amount.fits_iff]
  unfold Amount.greatest at most
  omega

/-- The tables are those of before if a write is refused. -/
theorem Reachable.tables_of_refused {m : Memory} (reach : m.Reachable) {op : StoreOp}
    (write : op.IsWrite) {cause : Error} (refused : (m.answer op).1 = .error (.error cause)) :
    (m.answer op).2.tables = m.tables := by
  have ends := reach.writes write
  generalize (m.answer op).1 = r, (m.answer op).2 = m' at ends refused ⊢
  cases ends with
  | kept => cases refused
  | outOfRange => cases refused
  | _ => rfl

/-- **A store keeps what its units keep**, whatever comes of a request. -/
theorem Reachable.keeps_answer {m : Memory} (reach : m.Reachable) {P : Tables → Prop}
    (h : P m.tables) {op : StoreOp} (keeps : op.UnitKeeps P) : P (m.answer op).2.tables := by
  by_cases write : op.IsWrite
  · have refused : ∀ cause, (m.answer op).1 = .error (.error cause) →
        (m.answer op).2.tables = m.tables := fun _ h => reach.tables_of_refused write h
    cases op with
    | createUser | creditReward | createWithdrawal | advanceWithdrawals =>
      exact transact_keeps keeps h refused
    | creditPartner c =>
      by_cases partner : c.source.IsPartner
      · have same : m.answer (.creditPartner c) = m.transact (UnitStep.creditPartner c) :=
          if_pos partner
        rw [same] at refused ⊢
        exact transact_keeps keeps h refused
      · have same : m.answer (.creditPartner c) = (.refuse (.invalidSource c.source.name), m) :=
          if_neg partner
        rw [same]
        exact h
    | _ => cases write
  · rw [answer_of_not_write m write]
    exact h

/-- **Every request keeps everybody solvent**, whatever comes of it, as long as
credits take nothing away and withdrawals are of positive amounts. -/
theorem Reachable.solvent_answer {m : Memory} (reach : m.Reachable) (h : m.tables.Solvent)
    {op : StoreOp} (gives : op.Gives) (positive : op.TakesPositive) :
    (m.answer op).2.tables.Solvent := by
  by_cases write : op.IsWrite
  · have ends := reach.writes write
    cases op with
    | creditReward c =>
      exact reach.keeps_answer h
        (UnitStep.keeps_creditReward Tables.admitsGains_solvent gives.1 gives.2)
    | creditPartner c =>
      exact reach.keeps_answer h
        (UnitStep.keeps_creditPartner Tables.admitsGains_solvent gives.1 gives.2)
    | createUser user now =>
      generalize (m.answer (.createUser user now)).1 = r,
        (m.answer (.createUser user now)).2 = m' at ends ⊢
      cases ends with
      | kept _ _ _ did =>
        obtain ⟨-, rfl, rfl⟩ := did
        let new := user.row (m.tables.counters.users + 1) now
        have put := h.putUser new.id (u := new) (Int.le_refl 0)
        exact put.of_same rfl (fun _ => rfl) put.balance
      | outOfRange _ why => exact absurd trivial why
      | _ => exact h
    | createWithdrawal order =>
      generalize (m.answer (.createWithdrawal order)).1 = r,
        (m.answer (.createWithdrawal order)).2 = m' at ends ⊢
      cases ends with
      | kept on _ _ did =>
        obtain ⟨u, hu, cover, rfl, rfl⟩ := did
        exact h.payOut (reach.wellFormed on) (reach.balanced on) hu cover
      | outOfRange on why => exact absurd (reach.hasRoom_createWithdrawal on positive) why
      | _ => exact h
    | advanceWithdrawals ids current next transaction now =>
      generalize (m.answer (.advanceWithdrawals ids current next transaction now)).1 = r,
        (m.answer (.advanceWithdrawals ids current next transaction now)).2 = m' at ends ⊢
      cases ends with
      | kept _ _ _ did =>
        obtain ⟨-, -, rfl⟩ := did
        exact h.of_same rfl (Tables.withdrawnBy_advance _ current next transaction now) h.balance
      | outOfRange _ why => exact absurd trivial why
      | _ => exact h
    | _ => cases write
  · rw [answer_of_not_write m write]
    exact h

end Memory

end RewardLedger
