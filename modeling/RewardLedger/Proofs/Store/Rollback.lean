import RewardLedger.Proofs.Store.Table
import RewardLedger.Store.WriteUnit

/-!
# Going back to where a unit began

A unit that is refused has to leave the tables as it found them. The journal
is replayed from its newest entry to its oldest, so it is enough that every
single write is undone by the entry it journals: the tables that result are
those before the write, with the older journal still to be replayed.

Two things keep that from being immediate. Replaying an entry must not look at
the tables that only grow, which are cut back to the savepoint once the whole
journal has been replayed (`undo_grown`). And a user's row may only be put in
the place of a row that is there, because taking back a row that was new also
takes back an email. `BeganOn` collects what every write keeps, and each write
of a unit has one lemma that says it does.
-/

namespace RewardLedger.WriteUnit

/-! ## The tables that only grow -/

/-- The tables with other lists of incomes, policies and bands, and other
identifiers given out. -/
def grown (t : Tables) (incomes : List Income) (policies : List RewardPolicy)
    (bands : List RewardBand) (counters : Counters) : Tables :=
  { t with incomes, policies, bands, counters }

/-- Taking a write back neither reads nor changes the tables that only grow. -/
theorem undo_grown (t : Tables) (e : Undo) (incomes : List Income)
    (policies : List RewardPolicy) (bands : List RewardBand) (counters : Counters) :
    undo (grown t incomes policies bands counters) e
      = grown (undo t e) incomes policies bands counters := by
  cases e with
  | user id before =>
    cases before with
    | some u => rfl
    | none =>
      simp only [undo, grown]
      cases t.users.get? id <;> rfl
  | withdrawal id before => cases before <;> rfl
  | dayTotal day before => cases before <;> rfl
  | event e => rfl

/-- Replaying a journal neither reads nor changes the tables that only grow. -/
theorem foldl_undo_grown (journal : List Undo) (t : Tables) (incomes : List Income)
    (policies : List RewardPolicy) (bands : List RewardBand) (counters : Counters) :
    journal.foldl undo (grown t incomes policies bands counters)
      = grown (journal.foldl undo t) incomes policies bands counters := by
  induction journal generalizing t with
  | nil => rfl
  | cons e rest ih => rw [List.foldl_cons, undo_grown, ih, List.foldl_cons]

/-- **Going back, in two halves**: the rows under keys come from the journal,
everything else from the savepoint. -/
theorem rollback_eq_grown (w : WriteUnit) :
    w.rollback = grown (w.journal.foldl undo w.tables)
      (w.tables.incomes.take w.savepoint.incomes)
      (w.tables.policies.take w.savepoint.policies)
      (w.tables.bands.take w.savepoint.bands) w.savepoint.counters := by
  have h := foldl_undo_grown w.journal w.tables w.tables.incomes w.tables.policies
    w.tables.bands w.tables.counters
  -- the tables are grown by what they have themselves
  rw [show grown w.tables w.tables.incomes w.tables.policies w.tables.bands
    w.tables.counters = w.tables from rfl] at h
  unfold rollback truncate
  rw [h]
  rfl

/-- Going back depends on the tables that only grow through what the savepoint
leaves of them. -/
theorem rollback_grown {w : WriteUnit} {incomes : List Income}
    {policies : List RewardPolicy} {bands : List RewardBand} (counters : Counters)
    (hi : incomes.take w.savepoint.incomes
      = w.tables.incomes.take w.savepoint.incomes)
    (hp : policies.take w.savepoint.policies
      = w.tables.policies.take w.savepoint.policies)
    (hb : bands.take w.savepoint.bands = w.tables.bands.take w.savepoint.bands) :
    { w with tables := grown w.tables incomes policies bands counters }.rollback
      = w.rollback := by
  rw [rollback_eq_grown, rollback_eq_grown]
  simp only [foldl_undo_grown]
  show grown _ (incomes.take _) (policies.take _) (bands.take _) _ = _
  rw [hi, hp, hb]
  rfl

/-! ## Rows that are put back -/

theorem undo_withdrawal (t : Tables) (id : Int) (before : Option Withdrawal) :
    undo t (.withdrawal id before)
      = { t with withdrawals := t.withdrawals.putBack id before } := by
  cases before <;> rfl

theorem undo_dayTotal (t : Tables) (day : Int) (before : Option Int) :
    undo t (.dayTotal day before)
      = { t with dayTotals := t.dayTotals.putBack day before } := by
  cases before <;> rfl

/-! ## What every write keeps -/

/-- **The unit began on the tables `t`**: going back leads to them, and none of
the tables that only grow has been cut below the savepoint. -/
structure BeganOn (w : WriteUnit) (t : Tables) : Prop where
  rollback_eq : w.rollback = t
  incomes_le : w.savepoint.incomes ≤ w.tables.incomes.length
  policies_le : w.savepoint.policies ≤ w.tables.policies.length
  bands_le : w.savepoint.bands ≤ w.tables.bands.length

/-- A unit begins on the tables it is started on. -/
theorem beganOn_start (t : Tables) : (start t).BeganOn t :=
  ⟨rollback_start t, Nat.le_refl _, Nat.le_refl _, Nat.le_refl _⟩

namespace BeganOn

variable {w : WriteUnit} {t : Tables}

/-- **A write is undone by the entry it journals.** All writes under a key are
of this form. -/
theorem journaled (h : w.BeganOn t) {tables : Tables} {e : Undo}
    (hundo : undo tables e = w.tables) (hi : tables.incomes = w.tables.incomes)
    (hp : tables.policies = w.tables.policies) (hb : tables.bands = w.tables.bands) :
    BeganOn ⟨tables, e :: w.journal, w.savepoint⟩ t where
  rollback_eq := by
    rw [← h.rollback_eq]
    show truncate (List.foldl undo (undo tables e) w.journal) w.savepoint = _
    rw [hundo]
    rfl
  incomes_le := by rw [hi]; exact h.incomes_le
  policies_le := by rw [hp]; exact h.policies_le
  bands_le := by rw [hb]; exact h.bands_le

/-- A row of a user can be changed. It has to be there already, or going back
would free an email that is taken. -/
theorem putUser (h : w.BeganOn t) {u before : User}
    (hb : w.tables.users.get? u.id = some before) : (w.putUser u).BeganOn t := by
  refine h.journaled ?_ rfl rfl rfl
  rw [hb]
  show { w.tables with users := (w.tables.users.insert u.id u).insert u.id before } = _
  rw [Table.insert_insert, Table.insert_of_get? hb]

/-- A new user can be registered, under an identifier and with an email that are
free. -/
theorem addUser (h : w.BeganOn t) {u : User} (fresh : w.tables.users.get? u.id = none)
    (free : w.tables.userOfEmail? u.email = none) : (w.addUser u).BeganOn t := by
  refine h.journaled ?_ rfl rfl rfl
  have new : (w.tables.users.insert u.id u).get? u.id = some u := by
    rw [Table.get?_insert, if_pos rfl]
  have others : ∀ e ∈ w.tables.emails, e.1 ≠ u.email :=
    fun e listed => (bne_iff_ne.1 (List.lookup_eq_none_iff.1 free e listed)).symm
  have emails : ((u.email, u.id) :: w.tables.emails.filter fun e => e.1 ≠ u.email).filter
      (fun e => e.1 ≠ u.email) = w.tables.emails := by
    rw [List.filter_cons_of_neg (by simp), List.filter_filter, List.filter_eq_self]
    intro e listed
    simpa using others e listed
  rw [fresh]
  simp only [undo, new]
  rw [Table.erase_insert u fresh, emails]

/-- A row of a withdrawal can be put under any key, new or not. -/
theorem putWithdrawalAt (h : w.BeganOn t) (id : Int) (x : Withdrawal) :
    (w.putWithdrawalAt id x).BeganOn t := by
  refine h.journaled ?_ rfl rfl rfl
  rw [undo_withdrawal, Table.putBack_insert]

/-- A row of a withdrawal can be put, new or not. -/
theorem putWithdrawal (h : w.BeganOn t) (x : Withdrawal) : (w.putWithdrawal x).BeganOn t :=
  h.putWithdrawalAt x.id x

/-- The total of a day can be put, new or not. -/
theorem putDayTotal (h : w.BeganOn t) (day : Day) (total : Int) :
    (w.putDayTotal day total).BeganOn t := by
  refine h.journaled ?_ rfl rfl rfl
  rw [undo_dayTotal, Table.putBack_insert]

/-- An event can be remembered. -/
theorem addEvent (h : w.BeganOn t) (e : PartnerEvent) : (w.addEvent e).BeganOn t := by
  refine h.journaled ?_ rfl rfl rfl
  show { w.tables with events := (e :: w.tables.events).erase e } = _
  rw [List.erase_cons_head]

/-- **What only grows can grow.** All writes without an entry in the journal are of
this form. -/
theorem grow (h : w.BeganOn t) {incomes : List Income} {policies : List RewardPolicy}
    {bands : List RewardBand} (counters : Counters) (hi : w.tables.incomes <+: incomes)
    (hp : w.tables.policies <+: policies) (hb : w.tables.bands <+: bands) :
    BeganOn { w with tables := grown w.tables incomes policies bands counters } t where
  rollback_eq := by
    rw [← h.rollback_eq]
    obtain ⟨_, rfl⟩ := hi
    obtain ⟨_, rfl⟩ := hp
    obtain ⟨_, rfl⟩ := hb
    exact rollback_grown counters (List.take_append_of_le_length h.incomes_le)
      (List.take_append_of_le_length h.policies_le) (List.take_append_of_le_length h.bands_le)
  incomes_le := Nat.le_trans h.incomes_le hi.length_le
  policies_le := Nat.le_trans h.policies_le hp.length_le
  bands_le := Nat.le_trans h.bands_le hb.length_le

/-- An income can be added. -/
theorem addIncome (h : w.BeganOn t) (i : Income) : (w.addIncome i).BeganOn t :=
  h.grow w.tables.counters (List.prefix_append _ _) List.prefix_rfl List.prefix_rfl

/-- A policy can be added. -/
theorem addPolicy (h : w.BeganOn t) (p : RewardPolicy) : (w.addPolicy p).BeganOn t :=
  h.grow w.tables.counters List.prefix_rfl (List.prefix_append _ _) List.prefix_rfl

/-- A band can be added. -/
theorem addBand (h : w.BeganOn t) (b : RewardBand) : (w.addBand b).BeganOn t :=
  h.grow w.tables.counters List.prefix_rfl List.prefix_rfl (List.prefix_append _ _)

/-- Identifiers can be given out. -/
theorem count (h : w.BeganOn t) (counters : Counters) :
    BeganOn { w with tables.counters := counters } t :=
  h.grow counters List.prefix_rfl List.prefix_rfl List.prefix_rfl

/-- The identifier of an income can be given out. -/
theorem nextIncome (h : w.BeganOn t) : w.nextIncome.BeganOn t := h.count _

end BeganOn

end RewardLedger.WriteUnit
