import RewardLedger.Proofs.Store.Posting
import RewardLedger.Proofs.Store.Steps

/-!
# What holds wherever a unit stops

A unit that is abandoned is not taken back, and the tables stay as it left them:
half of a credit may be written. A property of the tables that is to hold even
then has to be kept by every single write, not only by the unit as a whole.

A step **keeps** a property if the property holds of the tables in which the
step stops, however it stops. A chain of steps keeps what each of them keeps
(`Keeps.bind`), so for a whole unit only its writes have to be looked at, and a
store keeps what the units keep that it runs (`Memory.transact_keeps`). Most
properties do not depend on all of the tables, and are kept by every unit that
only writes to others (`Tables.IgnoresAccounts`); of the rows of users all units but one
change no more than what is held (`Tables.IgnoresHoldings`).
-/

namespace RewardLedger

namespace UnitStep

variable {α β : Type}

/-- **A step keeps a property of the tables**, wherever it stops. -/
def Keeps (P : Tables → Prop) (x : UnitStep α) : Prop :=
  ∀ s : UnitState, P s.unit.tables → P (x.run s).2.unit.tables

variable {P : Tables → Prop}

theorem keeps_pure (a : α) : (pure a : UnitStep α).Keeps P := fun _ h => h

theorem keeps_refuse (cause : Error) : (refuse cause : UnitStep α).Keeps P := fun _ h => h

theorem keeps_tables : tables.Keeps P := fun _ h => h

/-- A number that may be out of range stops a unit where it stands. -/
theorem keeps_inRange (n : Option Int) : (inRange n).Keeps P := by
  cases n with
  | none => exact fun _ h => h
  | some n => exact keeps_pure n

/-- Meeting a fail point writes nothing. -/
theorem keeps_passFailPoint (p : FailPoint) : (passFailPoint p).Keeps P := by
  intro s h
  rw [run_passFailPoint]
  split <;> exact h

/-- A write keeps what holds of the tables that it makes. -/
theorem keeps_write {f : WriteUnit → WriteUnit} (h : ∀ w, P w.tables → P (f w).tables) :
    (write f).Keeps P := fun s => h s.unit

/-- **A chain of steps** keeps what each of its steps keeps. The later ones need
to do so only for what the first can give. -/
theorem Keeps.bind_of_run {x : UnitStep α} {f : α → UnitStep β} (hx : x.Keeps P)
    (hf : ∀ a s s', x.run s = (.ok a, s') → (f a).Keeps P) : (x >>= f).Keeps P := by
  intro s h
  have first := hx s h
  rw [run_bind]
  cases hrun : x.run s with
  | mk o s' =>
    rw [hrun] at first
    cases o with
    | ok a => exact hf a s s' hrun s' first
    | error fault => exact first

theorem Keeps.bind {x : UnitStep α} {f : α → UnitStep β} (hx : x.Keeps P)
    (hf : ∀ a, (f a).Keeps P) : (x >>= f).Keeps P :=
  hx.bind_of_run fun a _ _ _ => hf a

/-- What a step does with the tables may rest on the property that they have. -/
theorem keeps_tables_bind {f : Tables → UnitStep β} (hf : ∀ t, P t → (f t).Keeps P) :
    (tables >>= f).Keeps P := by
  intro s h
  rw [run_bind, run_tables]
  exact hf _ h s h

/-- A check that a reward is due writes nothing. -/
theorem keeps_requireDue (source : IncomeSource) (user : Int) (u : User) (now : Instant) :
    (requireDue source user u now).Keeps P := by
  unfold requireDue
  split
  · split
    · exact fun _ h => h
    · exact keeps_refuse _
    · exact keeps_pure _
  · exact keeps_pure _

end UnitStep

/-! ## What the units write to -/

namespace Tables

/-- **A property that does not depend on the accounts**: on who is registered, what was
earned and which events are known. -/
def IgnoresAccounts (P : Tables → Prop) : Prop :=
  ∀ (t : Tables) users emails incomes events counters, P t →
    P { t with users, emails, incomes, events, counters }

/-- **A property that does not depend on what the users hold**, only on who they are: a
row may be put in the place of one that was read while the property held, as long as the
profile stays. -/
structure IgnoresHoldings (P : Tables → Prop) : Prop where
  put {t t' : Tables} {k : Int} {u v : User} (read : P t) (hu : t.users.get? k = some u)
    (same : v.profile = u.profile) (h : P t') : P { t' with users := t'.users.insert v.id v }
  record (t : Tables) incomes events counters (h : P t) : P { t with incomes, events, counters }

/-- What does not depend on the accounts does not depend on what is in them. -/
theorem IgnoresAccounts.holdings {P : Tables → Prop} (ignores : IgnoresAccounts P) :
    IgnoresHoldings P where
  put _ _ _ h := ignores _ _ _ _ _ _ h
  record t _ _ _ h := ignores t _ _ _ _ _ h

/-- A property that does not depend on the totals of the days. -/
def IgnoresDays (P : Tables → Prop) : Prop :=
  ∀ (t : Tables) dayTotals, P t → P { t with dayTotals }

/-- A property that does not depend on the withdrawals. -/
def IgnoresWithdrawals (P : Tables → Prop) : Prop :=
  ∀ (t : Tables) withdrawals, P t → P { t with withdrawals }

end Tables

namespace UnitStep

variable {P : Tables → Prop}

/-- A new user is put among the accounts. -/
theorem keeps_createUser (ignores : Tables.IgnoresAccounts P) (user : NewUser) (now : Instant) :
    (createUser user now).Keeps P := by
  refine Keeps.bind keeps_tables fun t => ?_
  by_cases taken : (t.userOfEmail? user.email).isSome
  · rw [if_pos taken]
    exact keeps_refuse _
  · rw [if_neg taken]
    refine Keeps.bind (keeps_write fun w h => ?_) fun _ => Keeps.bind keeps_tables fun _ =>
      Keeps.bind (keeps_write fun w h => ?_) fun _ => keeps_pure _
    all_goals exact ignores w.tables _ _ _ _ _ h

section Holdings

variable (ignores : Tables.IgnoresHoldings P)

include ignores

/-- A row that was read may be put back with another balance. -/
theorem keeps_putUser {t : Tables} {k : Int} {u v : User} (read : P t)
    (hu : t.users.get? k = some u) (same : v.profile = u.profile) :
    (write (·.putUser v)).Keeps P :=
  keeps_write fun _ h => ignores.put read hu same h

/-- **A credit writes to what users hold only**, wherever it stops. -/
theorem keeps_creditHoldings (source : IncomeSource) (user amount offered : Int)
    (now : Instant) : (credit source user amount offered now).Keeps P := by
  refine Keeps.bind keeps_tables fun t => ?_
  cases t.users.get? user with
  | none => exact keeps_refuse _
  | some u =>
    have share : (creditReferrer u.referrer offered).Keeps P := by
      refine keeps_tables_bind fun t read => ?_
      cases hr : u.referrer.bind t.users.get? with
      | none => exact keeps_pure _
      | some r =>
        obtain ⟨k, -, hk⟩ := Option.bind_eq_some_iff.1 hr
        refine Keeps.bind (keeps_inRange _) fun _ => Keeps.bind (keeps_inRange _) fun _ => ?_
        exact Keeps.bind (keeps_putUser ignores read hk rfl) fun _ => keeps_pure _
    have recorded (credited : Bool) : (recordIncome source user u.referrer amount
        (if credited then offered else 0) now).Keeps P :=
      fun s h => ignores.record s.unit.tables _ _ _ h
    have paid (i : Income) : (creditUser i).Keeps P := by
      refine keeps_tables_bind fun t read => ?_
      cases hu : t.users.get? i.user with
      | none => exact keeps_refuse _
      | some row =>
        refine Keeps.bind (keeps_inRange _) fun _ => Keeps.bind (keeps_inRange _) fun _ => ?_
        exact Keeps.bind (keeps_inRange _) fun _ => keeps_putUser ignores read hu rfl
    refine Keeps.bind (keeps_requireDue source user u now) fun _ => Keeps.bind share fun _ => ?_
    refine Keeps.bind (recorded _) fun i => Keeps.bind (keeps_passFailPoint _) fun _ => ?_
    exact Keeps.bind (paid i) fun _ => keeps_pure _

/-- A scheduled reward is counted into its day as well. -/
theorem keeps_creditRewardHoldings (days : Tables.IgnoresDays P) (c : RewardCredit) :
    (creditReward c).Keeps P := by
  refine Keeps.bind (keeps_creditHoldings ignores _ _ _ _ _) fun receipt =>
    Keeps.bind ?_ fun _ => keeps_pure _
  refine Keeps.bind (keeps_inRange _) fun _ => Keeps.bind keeps_tables fun _ => ?_
  exact Keeps.bind (keeps_inRange _) fun _ => keeps_write fun w h => days w.tables _ h

/-- The event of a partner is remembered as well. -/
theorem keeps_creditPartnerHoldings (c : PartnerCredit) : (creditPartner c).Keeps P := by
  refine Keeps.bind keeps_tables fun t => ?_
  by_cases known : c.event ∈ t.events
  · rw [if_pos known]
    exact keeps_refuse _
  · rw [if_neg known]
    refine Keeps.bind (keeps_write fun w h => ignores.record w.tables _ _ _ h) fun _ => ?_
    exact Keeps.bind (keeps_passFailPoint _) fun _ => keeps_creditHoldings ignores _ _ _ _ _

/-- A withdrawal is taken from a balance, and created. -/
theorem keeps_createWithdrawal (withdrawals : Tables.IgnoresWithdrawals P)
    (order : NewWithdrawal) : (createWithdrawal order).Keeps P := by
  refine keeps_tables_bind fun t read => ?_
  cases hu : (t.users.get? order.user).filter (order.amount ≤ ·.balance) with
  | none => exact keeps_refuse _
  | some u =>
    have there := (Option.filter_eq_some_iff.1 hu).1
    refine Keeps.bind (keeps_inRange _) fun _ =>
      Keeps.bind (keeps_putUser ignores read there rfl) fun _ => ?_
    refine Keeps.bind (keeps_passFailPoint _) fun _ => Keeps.bind (keeps_write fun w h => ?_)
      fun _ => Keeps.bind keeps_tables fun _ => Keeps.bind (keeps_write fun w h => ?_)
        fun _ => keeps_pure _
    · exact ignores.record w.tables _ _ _ h
    · exact withdrawals w.tables _ h

end Holdings

/-- A batch writes to the withdrawals only. -/
theorem keeps_advance (withdrawals : Tables.IgnoresWithdrawals P) (ids : List Int)
    (current next : WithdrawalStatus) (transaction : Option String) (now : Instant) :
    (advance ids current next transaction now).Keeps P := by
  have each (ids : List Int) : (advanceEach current next transaction now ids).Keeps P := by
    induction ids with
    | nil => exact keeps_pure _
    | cons id rest ih =>
      refine Keeps.bind keeps_tables fun t => ?_
      cases (t.withdrawals.get? id).filter (·.status = current) with
      | none => exact ih
      | some x =>
        refine Keeps.bind (keeps_write fun w h => withdrawals w.tables _ h) fun _ => ?_
        exact Keeps.bind ih fun _ => keeps_pure _
  refine Keeps.bind (each _) fun affected => ?_
  by_cases short : affected ≠ (distinctAscending ids).length
  · rw [if_pos short]
    exact Keeps.bind (keeps_refuse _) fun _ => keeps_pure _
  · rw [if_neg short]
    exact keeps_pure _

end UnitStep

/-- **The unit that serves a request keeps a property**, if there is one. -/
def StoreOp.UnitKeeps (P : Tables → Prop) : StoreOp → Prop
  | createUser u now => (UnitStep.createUser u now).Keeps P
  | creditReward c => (UnitStep.creditReward c).Keeps P
  | creditPartner c => (UnitStep.creditPartner c).Keeps P
  | createWithdrawal order => (UnitStep.createWithdrawal order).Keeps P
  | advanceWithdrawals ids current next transaction now =>
    (UnitStep.advance ids current next transaction now).Keeps P
  | _ => True

/-- **A store keeps what its unit keeps**, whether the unit is kept, refused or
abandoned, as long as a unit that is refused leaves the tables as they were. -/
theorem Memory.transact_keeps {α : Type} {P : Tables → Prop} {work : UnitStep α} {m : Memory}
    (keeps : work.Keeps P) (h : P m.tables)
    (refused : ∀ cause, (m.transact work).1 = .error (.error cause) →
      (m.transact work).2.tables = m.tables) : P (m.transact work).2.tables := by
  unfold transact at refused ⊢
  split
  · exact h
  · next on =>
    rw [if_neg on] at refused
    have stopped := keeps ⟨.start m.tables, m.armed⟩ h
    generalize work.run ⟨.start m.tables, m.armed⟩ = r at stopped refused ⊢
    obtain ⟨o, s⟩ := r
    cases o with
    | ok a => exact stopped
    | error fault =>
      cases fault with
      | outOfRange => exact stopped
      | error cause =>
        have same := refused cause rfl
        dsimp only at same ⊢
        rw [same]
        exact h

end RewardLedger
