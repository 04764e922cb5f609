import RewardLedger.Proofs.Store.Posting
import RewardLedger.Store.Memory

/-!
# What a write comes to

A store in memory runs a write as a unit that writes row by row, journals what
it replaces and goes back when it is refused half way. None of that shows: a
write either does all that it is meant to do or nothing. This module says what
it is meant to do, on the tables and without a journal, so that what holds of
every write can be shown by looking at five kinds of change.

`Tables.Commits` says which change a write makes and what it answers,
`Tables.Refuses` for which cause it is refused, `Tables.Reaches` which fail
points it gets to and `Tables.HasRoom` when all its sums stay in range.
`Memory.Writes` puts them together: it lists the ends that a write can come to.
-/

namespace RewardLedger

/-- The row of a user who is just registered. -/
def NewUser.row (user : NewUser) (id : Int) (now : Instant) : User where
  id := id
  email := user.email
  address := user.address
  balance := 0
  totalIncome := 0
  totalFromReferees := 0
  totalToReferrer := 0
  referrer := user.referrer
  rewardInterval := user.rewardInterval
  rewardedAt := none
  createdAt := now

/-- The row of a withdrawal that is just created. -/
def NewWithdrawal.row (order : NewWithdrawal) (id : Int) : Withdrawal where
  id := id
  user := order.user
  address := order.address
  amount := order.amount
  status := .pending
  transaction := none
  createdAt := order.now
  updatedAt := order.now

namespace Withdrawal

/-- A withdrawal moved to another status. -/
def advanced (next : WithdrawalStatus) (transaction : Option String) (now : Instant)
    (w : Withdrawal) : Withdrawal :=
  { w with
    status := next
    transaction := transaction.or w.transaction
    updatedAt := now }

/-- A withdrawal moved to another status if it is one of a batch and in the
status that the batch is expected in. -/
def advancedIn (batch : List Int) (current next : WithdrawalStatus)
    (transaction : Option String) (now : Instant) (w : Withdrawal) : Withdrawal :=
  if w.id ∈ batch ∧ w.status = current then w.advanced next transaction now else w

section Advanced

variable (batch : List Int) (current next : WithdrawalStatus) (transaction : Option String)
  (now : Instant) (w : Withdrawal)

@[simp] theorem id_advancedIn :
    (w.advancedIn batch current next transaction now).id = w.id := by
  unfold advancedIn
  split <;> rfl

@[simp] theorem user_advancedIn :
    (w.advancedIn batch current next transaction now).user = w.user := by
  unfold advancedIn
  split <;> rfl

@[simp] theorem amount_advancedIn :
    (w.advancedIn batch current next transaction now).amount = w.amount := by
  unfold advancedIn
  split <;> rfl

end Advanced

end Withdrawal

namespace Tables

/-! ## The changes -/

/-- The tables with a new user. -/
def register (t : Tables) (u : User) : Tables :=
  { t with
    users := t.users.insert u.id u
    emails := (u.email, u.id) :: t.emails.filter fun e => e.1 ≠ u.email
    counters := { t.counters with users := u.id } }

/-- A look-up after a registration finds the new row, or what it found before. -/
theorem get?_users_register (t : Tables) (u : User) (k : Int) :
    (t.register u).users.get? k = if k = u.id then some u else t.users.get? k :=
  Table.get?_insert t.users u.id k u

/-- A row after a registration is the new one, or it was there before. -/
theorem new_or_old_of_register {t : Tables} {u v : User} {k : Int}
    (hv : (t.register u).users.get? k = some v) :
    k = u.id ∧ v = u ∨ t.users.get? k = some v := by
  rw [get?_users_register] at hv
  split at hv
  · next hk => exact .inl ⟨hk, (Option.some.inj hv).symm⟩
  · exact .inr hv

/-- The receipt of a credit. -/
def receiptOf (t : Tables) (source : IncomeSource) (u : User) (amount offered : Int)
    (now : Instant) : Receipt :=
  ⟨t.incomeOf source u amount offered now, u.address, (t.referrerOf? u).isSome⟩

/-- The tables with a withdrawal created and taken from its user's balance. -/
def payOut (t : Tables) (w : Withdrawal) : Tables :=
  { t with
    users := t.users.map (·.debit w)
    withdrawals := t.withdrawals.insert w.id w
    counters := { t.counters with withdrawals := w.id } }

/-- Every row of a withdrawal stands under the withdrawal's identifier. -/
def WithdrawalsKeyed (t : Tables) : Prop :=
  ∀ k w, t.withdrawals.get? k = some w → w.id = k

/-- The members of a batch that are in a status. -/
def inStatus (t : Tables) (status : WithdrawalStatus) (ids : List Int) : List Int :=
  ids.filter fun id => ((t.withdrawals.get? id).filter (·.status = status)).isSome

/-- The tables with the members of a batch that are in a status moved to
another. -/
def advance (t : Tables) (ids : List Int) (current next : WithdrawalStatus)
    (transaction : Option String) (now : Instant) : Tables :=
  { t with
    withdrawals := t.withdrawals.map (·.advancedIn ids current next transaction now) }

/-- **What a write does when it is kept**: the checks it passed, its answer and
the tables it leaves. -/
def Commits (t : Tables) : (op : StoreOp) → op.Answer → Tables → Prop
  | .createUser user now, a, t' =>
    t.userOfEmail? user.email = none ∧ a = user.row (t.counters.users + 1) now
      ∧ t' = t.register a
  | .creditReward c, a, t' =>
    ∃ u, t.users.get? c.user = some u ∧ u.rewardDue? c.now = some true
      ∧ a = t.receiptOf .reward u c.amount c.referrerAmount c.now
      ∧ t' = (t.book a.income).countDay a.income
  | .creditPartner c, a, t' =>
    c.source.IsPartner ∧ c.event ∉ t.events
      ∧ ∃ u, t.users.get? c.user = some u
        ∧ a = t.receiptOf c.source u c.amount c.referrerAmount c.now
        ∧ t' = (t.remember c.event).book a.income
  | .createWithdrawal order, a, t' =>
    ∃ u, t.users.get? order.user = some u ∧ order.amount ≤ u.balance
      ∧ a = order.row (t.counters.withdrawals + 1) ∧ t' = t.payOut a
  | .advanceWithdrawals ids current next transaction now, a, t' =>
    let batch := distinctAscending ids
    (t.inStatus current batch).length = batch.length ∧ a = batch.length
      ∧ t' = t.advance batch current next transaction now
  | _, _, _ => False

/-! ## The checks -/

/-- **For which cause a write is refused** by what the tables hold. -/
def Refuses (t : Tables) : StoreOp → Error → Prop
  | .createUser user _, e =>
    t.userOfEmail? user.email ≠ none ∧ e = .duplicateEmail user.email
  | .creditReward c, e =>
    (t.users.get? c.user = none ∧ e = .noRowForUser c.user)
      ∨ ∃ u, t.users.get? c.user = some u ∧ u.rewardDue? c.now = some false
        ∧ e = .rewardNotDue c.user
  | .creditPartner c, e =>
    (c.event ∈ t.events ∧ e = .duplicate c.source c.key c.user)
      ∨ (c.event ∉ t.events ∧ t.users.get? c.user = none ∧ e = .noRowForUser c.user)
  | .createWithdrawal order, e =>
    (∀ u, t.users.get? order.user = some u → u.balance < order.amount)
      ∧ e = .insufficientBalance order.user order.amount
  | .advanceWithdrawals ids current _ _ _, e =>
    let batch := distinctAscending ids
    (t.inStatus current batch).length ≠ batch.length
      ∧ e = .batchMismatch batch.length (t.inStatus current batch).length
  | _, _ => False

/-- A write **gets to a fail point** when it passes the checks before it. -/
def Reaches (t : Tables) : StoreOp → FailPoint → Prop
  | .creditReward c, .afterIncome =>
    ∃ u, t.users.get? c.user = some u ∧ u.rewardDue? c.now = some true
  | .creditPartner c, .afterEvent => c.event ∉ t.events
  | .creditPartner c, .afterIncome =>
    c.event ∉ t.events ∧ ∃ u, t.users.get? c.user = some u
  | .createWithdrawal order, .afterDebit =>
    ∃ u, t.users.get? order.user = some u ∧ order.amount ≤ u.balance
  | _, _ => False

/-- The sums of a credit to a user fit: those in the referrer's row, and then
those in the user's own. -/
def CreditFits (t : Tables) (u : User) (i : Income) : Prop :=
  (∀ r, t.referrerOf? u = some r →
      Amount.Fits (r.balance + i.referrerAmount)
        ∧ Amount.Fits (r.totalFromReferees + i.referrerAmount))
    ∧ Amount.Fits (u.post i).balance
    ∧ Amount.Fits (u.post i).totalIncome
    ∧ Amount.Fits (u.post i).totalToReferrer

/-- **Every number that a write has to compute stays in range**, if the write
gets as far as computing it. -/
def HasRoom (t : Tables) : StoreOp → Prop
  | .creditReward c =>
    ∀ u, t.users.get? c.user = some u → u.rewardDue? c.now ≠ some false →
      let i := t.incomeOf .reward u c.amount c.referrerAmount c.now
      u.rewardDue? c.now = some true ∧ t.CreditFits u i
        ∧ Amount.Fits (i.amount + i.referrerAmount)
        ∧ Amount.Fits (t.totalOf c.now.day + (i.amount + i.referrerAmount))
  | .creditPartner c =>
    c.event ∉ t.events → ∀ u, t.users.get? c.user = some u →
      t.CreditFits u (t.incomeOf c.source u c.amount c.referrerAmount c.now)
  | .createWithdrawal order =>
    ∀ u, t.users.get? order.user = some u → order.amount ≤ u.balance →
      Amount.Fits (u.balance - order.amount)
  | _ => True

end Tables

/-- What a write is refused for before the store is asked. -/
def StoreOp.invalid? : StoreOp → Option Error
  | .creditPartner c =>
    if c.source.IsPartner then none else some (.invalidSource c.source.name)
  | _ => none

/-- Only a credit for the event of a partner that is none is refused so. -/
theorem StoreOp.invalid?_eq_some {op : StoreOp} {cause : Error}
    (h : op.invalid? = some cause) :
    ∃ c, op = .creditPartner c ∧ ¬ c.source.IsPartner
      ∧ cause = .invalidSource c.source.name := by
  cases op with
  | creditPartner c =>
    have hcheck : (if c.source.IsPartner then none else some (.invalidSource c.source.name))
        = some cause := h
    split at hcheck
    · cases hcheck
    · next hpartner =>
      cases hcheck
      exact ⟨c, rfl, hpartner, rfl⟩
  | _ => cases h

/-- **The ends that a write can come to** on a store, each with what led to it,
what is answered and what is left. Only a write that is kept changes the tables
of a store that can still be used. -/
inductive Memory.Writes (m : Memory) (op : StoreOp) : op.Reply → Memory → Prop
  /-- It was refused before the store was asked. -/
  | invalid {cause : Error} (why : op.invalid? = some cause) :
    Writes m op (.refuse cause) m
  /-- The store had been disabled. -/
  | disabled (off : m.disabled = true) :
    Writes m op (.refuse Memory.disabledError) m
  /-- A check failed. -/
  | refused {cause : Error} (on : m.disabled = false)
    (why : m.tables.Refuses op cause) : Writes m op (.refuse cause) m
  /-- It got to the fail point that was armed, and disarmed it. -/
  | stopped {p : FailPoint} (on : m.disabled = false) (armed : m.armed = some p)
    (reached : m.tables.Reaches op p) :
    Writes m op (.refuse p.failure) { m with armed := none }
  /-- It was kept. -/
  | kept {a : op.Answer} {t : Tables} (on : m.disabled = false)
    (clear : ∀ p, m.armed = some p → ¬ m.tables.Reaches op p)
    (room : m.tables.HasRoom op) (did : m.tables.Commits op a t) :
    Writes m op (.ok a) { m with tables := t }
  /-- A number left its range, and the store was disabled where the unit stood.
  No event is forgotten on the way. -/
  | outOfRange {m' : Memory} (on : m.disabled = false) (why : ¬ m.tables.HasRoom op)
    (off : m'.disabled = true) (events : ∀ e ∈ m.tables.events, e ∈ m'.tables.events) :
    Writes m op (.error .outOfRange) m'

end RewardLedger
