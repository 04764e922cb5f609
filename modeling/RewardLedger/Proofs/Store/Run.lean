import Mathlib.Data.List.Basic
import RewardLedger.Proofs.Store.Unit

/-!
# Runs of a store in memory

A run is any sequence of commands given to an empty store: requests, and the
ways to set a store up, which are setting a policy, adding a band and arming a
fail point. Commands are served one after the other, so an order in which
concurrent callers are served is a run as well.

What can be said about all runs is said about steps of the tables
(`Tables.Step`). A command that leaves the store usable has either left the
tables alone or taken one such step (`Memory.perform_moves`), whether it was
refused, stopped at a fail point or rolled back on the way; so a property of
the tables that every step keeps holds after every run (`Memory.Reachable.tables`).
The property that all others build on is that the tables refer to each other
as they should, `Tables.WellFormed`.
-/

namespace RewardLedger

/-! ## Commands -/

namespace Memory

/-- What can be done to a store. -/
inductive Command where
  | request (op : StoreOp)
  | addPolicy (policy : RewardPolicy)
  | addBand (band : RewardBand)
  | arm (point : FailPoint)
  deriving DecidableEq

/-- The reply to a command. -/
@[reducible] def Command.Reply : Command → Type
  | request op => op.Reply
  | addPolicy _ => Outcome PUnit
  | addBand _ => Outcome PUnit
  | arm _ => Unit

/-- Carry out a command. -/
def perform (m : Memory) : (c : Command) → c.Reply × Memory
  | .request op => m.answer op
  | .addPolicy policy => m.addPolicy policy
  | .addBand band => m.addBand band
  | .arm point => ((), m.arm point)

/-- The reply tells that the command was abandoned where it stood. -/
def Command.Abandoned : (c : Command) → c.Reply → Prop
  | .request _, r => r = .error .outOfRange
  | .addPolicy _, r => r = .error .outOfRange
  | .addBand _, r => r = .error .outOfRange
  | .arm _, _ => False

/-- The store after a run. -/
def after (m : Memory) (run : List Command) : Memory :=
  run.foldl (fun m c => (m.perform c).2) m

/-- The replies that a run is given, each with its command. -/
def log (m : Memory) : List Command → List (Σ c : Command, c.Reply)
  | [] => []
  | c :: rest => ⟨c, (m.perform c).1⟩ :: (m.perform c).2.log rest

/-- **The store can be in this state**: a run from an empty store leads to it. -/
inductive Reachable : Memory → Prop
  | empty : Reachable .empty
  | perform {m : Memory} (c : Command) (reach : m.Reachable) : Reachable (m.perform c).2

/-- Every run from a state that can be reached stays among those states. -/
theorem Reachable.after {m : Memory} (reach : m.Reachable) (run : List Command) :
    (m.after run).Reachable := by
  induction run generalizing m with
  | nil => exact reach
  | cons c rest ih => exact ih (reach.perform c)

theorem after_append (m : Memory) (first second : List Command) :
    m.after (first ++ second) = (m.after first).after second :=
  List.foldl_append

/-- The states that can be reached are those that runs lead to. -/
theorem reachable_iff {m : Memory} :
    m.Reachable ↔ ∃ run, Memory.empty.after run = m := by
  constructor
  · intro reach
    induction reach with
    | empty => exact ⟨[], rfl⟩
    | perform c _ ih =>
      obtain ⟨run, rfl⟩ := ih
      exact ⟨run ++ [c], after_append _ run [c]⟩
  · rintro ⟨run, rfl⟩
    exact Reachable.empty.after run

end Memory

/-! ## Steps of the tables -/

namespace Tables

/-- **One step of the tables**: what a write that is kept does, or a policy or a
band added. -/
inductive Step (t : Tables) : Tables → Prop
  | register (user : NewUser) (now : Instant) (free : t.userOfEmail? user.email = none) :
    Step t (t.register (user.row (t.counters.users + 1) now))
  | reward {u : User} {i : Income} (amount offered : Int) (now : Instant)
    (hu : t.users.get? u.id = some u) (due : u.rewardDue? now = some true)
    (hi : i = t.incomeOf .reward u amount offered now) : Step t ((t.book i).countDay i)
  | partner {u : User} {i : Income} {source : IncomeSource} (key : String)
    (amount offered : Int) (now : Instant) (hu : t.users.get? u.id = some u)
    (hsource : source.IsPartner) (fresh : ⟨source, key, u.id⟩ ∉ t.events)
    (hi : i = t.incomeOf source u amount offered now) :
    Step t ((t.remember ⟨source, key, u.id⟩).book i)
  | payOut {u : User} (order : NewWithdrawal) (hu : t.users.get? u.id = some u)
    (user : order.user = u.id) (covered : order.amount ≤ u.balance) :
    Step t (t.payOut (order.row (t.counters.withdrawals + 1)))
  | advance (batch : List Int) (current next : WithdrawalStatus)
    (transaction : Option String) (now : Instant) :
    Step t (t.advance batch current next transaction now)
  | policy (p : RewardPolicy) : Step t { t with policies := t.policies ++ [p] }
  | band (b : RewardBand) : Step t { t with bands := t.bands ++ [b] }

/-- A write that is kept takes a step. -/
theorem Commits.step {t t' : Tables} {op : StoreOp} {a : op.Answer}
    (did : t.Commits op a t') (keyed : t.UsersKeyed) : t.Step t' := by
  cases op with
  | createUser user now =>
    obtain ⟨free, rfl, rfl⟩ := did
    exact .register user now free
  | creditReward c =>
    obtain ⟨u, hu, due, rfl, rfl⟩ := did
    exact .reward c.amount c.referrerAmount c.now (keyed _ _ hu ▸ hu) due rfl
  | creditPartner c =>
    obtain ⟨hpartner, fresh, u, hu, rfl, rfl⟩ := did
    have hevent : c.event = ⟨c.source, c.key, u.id⟩ := by
      rw [keyed _ _ hu]
      rfl
    rw [hevent] at fresh ⊢
    exact .partner c.key c.amount c.referrerAmount c.now (keyed _ _ hu ▸ hu) hpartner
      fresh rfl
  | createWithdrawal order =>
    obtain ⟨u, hu, covered, rfl, rfl⟩ := did
    exact .payOut order (keyed _ _ hu ▸ hu) (keyed _ _ hu).symm covered
  | advanceWithdrawals ids current next transaction now =>
    obtain ⟨-, -, rfl⟩ := did
    exact .advance _ current next transaction now
  | _ => exact did.elim

/-! ## How the tables refer to each other -/

/-- **The tables refer to each other as they should**: rows stand under their
identifiers, which were given out in order, and whatever names a user names one
who is there. A referrer need not be there. -/
structure WellFormed (t : Tables) : Prop where
  users_keyed : t.UsersKeyed
  withdrawals_keyed : t.WithdrawalsKeyed
  user_le : ∀ k u, t.users.get? k = some u → k ≤ t.counters.users
  withdrawal_le : ∀ k w, t.withdrawals.get? k = some w → k ≤ t.counters.withdrawals
  income_user : ∀ i ∈ t.incomes, ∃ u, t.users.get? i.user = some u ∧ i.referrer = u.referrer
  withdrawal_user : ∀ k w, t.withdrawals.get? k = some w →
    ∃ u, t.users.get? w.user = some u

theorem wellFormed_empty : WellFormed .empty where
  users_keyed := by intro k u h; cases h
  withdrawals_keyed := by intro k w h; cases h
  user_le := by intro k u h; cases h
  withdrawal_le := by intro k w h; cases h
  income_user := by intro i h; cases h
  withdrawal_user := by intro k w h; cases h

namespace WellFormed

variable {t : Tables} (wf : t.WellFormed)

include wf

/-- A new user gets an identifier that no row has. -/
theorem fresh_user {k : Int} (hk : t.counters.users < k) : t.users.get? k = none := by
  cases hu : t.users.get? k with
  | none => rfl
  | some u => exact absurd (wf.user_le k u hu) (Int.not_le.2 hk)

/-- Whoever has no row has no incomes. -/
theorem user_ne_of_absent {k : Int} (hk : t.users.get? k = none) :
    ∀ i ∈ t.incomes, ¬ i.user = k := by
  intro i hi hu
  obtain ⟨v, hv, -⟩ := wf.income_user i hi
  rw [hu, hk] at hv
  cases hv

/-- A user who is there stays there when a new one is registered. -/
theorem get?_register {k : Int} {u v : User} (hv : t.users.get? k = some v)
    (hu : u.id = t.counters.users + 1) : (t.register u).users.get? k = some v := by
  have hne : k ≠ u.id := by
    have := wf.user_le k v hv
    omega
  rw [get?_users_register, if_neg hne, hv]

theorem register {u : User} (hu : u.id = t.counters.users + 1) : (t.register u).WellFormed where
  users_keyed := by
    intro k v hv
    obtain ⟨rfl, rfl⟩ | hv := new_or_old_of_register hv
    · rfl
    · exact wf.users_keyed k v hv
  withdrawals_keyed := wf.withdrawals_keyed
  user_le := by
    intro k v hv
    show k ≤ u.id
    obtain ⟨rfl, -⟩ | hv := new_or_old_of_register hv
    · exact Int.le_refl _
    · have := wf.user_le k v hv
      omega
  withdrawal_le := wf.withdrawal_le
  income_user := by
    intro i hi
    obtain ⟨v, hv, hr⟩ := wf.income_user i hi
    exact ⟨v, wf.get?_register hv hu, hr⟩
  withdrawal_user := by
    intro k w hw
    obtain ⟨v, hv⟩ := wf.withdrawal_user k w hw
    exact ⟨v, wf.get?_register hv hu⟩

/-- Rows of users may be changed in place, as long as the identifier and the
referrer stay. -/
theorem mapUsers {f : User → User} (hid : ∀ u, (f u).id = u.id)
    (href : ∀ u, (f u).referrer = u.referrer) :
    { t with users := t.users.map f }.WellFormed where
  users_keyed := wf.users_keyed.map hid
  withdrawals_keyed := wf.withdrawals_keyed
  user_le := by
    intro k v hv
    obtain ⟨u, hu, -⟩ := Table.get?_map_eq_some_iff.1 hv
    exact wf.user_le k u hu
  withdrawal_le := wf.withdrawal_le
  income_user := by
    intro i hi
    obtain ⟨u, hu, hr⟩ := wf.income_user i hi
    refine ⟨f u, ?_, hr.trans (href u).symm⟩
    exact Table.get?_map_eq_some_iff.2 ⟨_, hu, rfl⟩
  withdrawal_user := by
    intro k w hw
    obtain ⟨u, hu⟩ := wf.withdrawal_user k w hw
    refine ⟨f u, ?_⟩
    exact Table.get?_map_eq_some_iff.2 ⟨_, hu, rfl⟩

/-- An income of a user who is there can be booked. -/
theorem book {i : Income} {u : User} (hu : t.users.get? i.user = some u)
    (hr : i.referrer = u.referrer) : (t.book i).WellFormed :=
  have posted := wf.mapUsers (f := (·.post i)) (fun _ => rfl) (fun _ => rfl)
  { posted with
    income_user := by
      intro j hj
      rcases List.mem_append.1 hj with hj | hj
      · exact posted.income_user j hj
      · rw [List.mem_singleton.1 hj]
        refine ⟨u.post i, ?_, hr⟩
        exact Table.get?_map_eq_some_iff.2 ⟨_, hu, rfl⟩ }

/-- Withdrawals of users who are there can be put, under an identifier that was
given out. -/
theorem putWithdrawal {w : Withdrawal} {n : Int} (hid : w.id = n)
    (hn : t.counters.withdrawals ≤ n) (hu : ∃ u, t.users.get? w.user = some u) :
    { t with
      withdrawals := t.withdrawals.insert w.id w
      counters := { t.counters with withdrawals := n } }.WellFormed where
  users_keyed := wf.users_keyed
  withdrawals_keyed := wf.withdrawals_keyed.insert w
  user_le := wf.user_le
  withdrawal_le := by
    intro k x hx
    show k ≤ n
    rw [Table.get?_insert] at hx
    split at hx
    · next hk => exact Int.le_of_eq (hk.trans hid)
    · exact Int.le_trans (wf.withdrawal_le k x hx) hn
  income_user := wf.income_user
  withdrawal_user := by
    intro k x hx
    rw [Table.get?_insert] at hx
    split at hx
    · rw [← Option.some.inj hx]
      exact hu
    · exact wf.withdrawal_user k x hx

/-- A withdrawal can be created and taken from a balance. -/
theorem payOut {u : User} {w : Withdrawal} (hu : t.users.get? w.user = some u)
    (hid : w.id = t.counters.withdrawals + 1) : (t.payOut w).WellFormed := by
  have debited := wf.mapUsers (f := (·.debit w)) (fun _ => rfl) (fun _ => rfl)
  refine debited.putWithdrawal (n := w.id) rfl ?_ ⟨u.debit w, ?_⟩
  · show t.counters.withdrawals ≤ w.id
    omega
  · exact Table.get?_map_eq_some_iff.2 ⟨_, hu, rfl⟩

/-- Withdrawals can be moved. -/
theorem advance (batch : List Int) (current next : WithdrawalStatus)
    (transaction : Option String) (now : Instant) :
    (t.advance batch current next transaction now).WellFormed := by
  -- a row that was moved is still the row of the same withdrawal of the same user
  have moved : ∀ k x, (t.advance batch current next transaction now).withdrawals.get? k
      = some x → ∃ w, t.withdrawals.get? k = some w ∧ x.id = w.id ∧ x.user = w.user := by
    intro k x hx
    obtain ⟨w, hw, rfl⟩ := Table.get?_map_eq_some_iff.1 hx
    exact ⟨w, hw, w.id_advancedIn .., w.user_advancedIn ..⟩
  exact
    { wf with
      withdrawals_keyed := by
        intro k x hx
        obtain ⟨w, hw, hid, -⟩ := moved k x hx
        rw [hid, wf.withdrawals_keyed k w hw]
      withdrawal_le := by
        intro k x hx
        obtain ⟨w, hw, -⟩ := moved k x hx
        exact wf.withdrawal_le k w hw
      withdrawal_user := by
        intro k x hx
        obtain ⟨w, hw, -, huser⟩ := moved k x hx
        rw [huser]
        exact wf.withdrawal_user k w hw }

/-- **Every step keeps the references.** -/
theorem step {t' : Tables} (h : t.Step t') : t'.WellFormed := by
  cases h with
  | register user now => exact wf.register rfl
  | reward amount offered now hu due hi =>
    subst hi
    exact { wf.book hu rfl with }
  | @partner u i source key amount offered now hu hsource fresh hi =>
    subst hi
    have remembered : (t.remember ⟨source, key, u.id⟩).WellFormed := { wf with }
    exact remembered.book hu rfl
  | payOut order hu user => exact wf.payOut (user ▸ hu) rfl
  | advance batch current next transaction now =>
    exact wf.advance batch current next transaction now
  | policy => exact { wf with }
  | band => exact { wf with }

end WellFormed

end Tables

/-! ## The order of the incomes -/

namespace Tables

/-- No step takes an income back. -/
theorem Step.incomes_prefix {t t' : Tables} (step : t.Step t') :
    t.incomes <+: t'.incomes := by
  cases step with
  | reward => exact List.prefix_append _ _
  | partner => exact List.prefix_append _ _
  | _ => exact List.prefix_rfl

/-- **Incomes are numbered in the order in which they were recorded**, and the
last number is that which was given out last, or a lower one. -/
structure IncomesNumbered (t : Tables) : Prop where
  ascend : t.incomes.Pairwise fun i j => i.id < j.id
  le : ∀ i ∈ t.incomes, i.id ≤ t.counters.incomes

theorem incomesNumbered_empty : IncomesNumbered .empty := ⟨.nil, fun _ h => nomatch h⟩

/-- An income with the next number can be booked. -/
theorem IncomesNumbered.book {t : Tables} (h : t.IncomesNumbered) {i : Income}
    (next : i.id = t.counters.incomes + 1) : (t.book i).IncomesNumbered where
  ascend := by
    refine List.pairwise_append.2 ⟨h.ascend, List.pairwise_singleton _ i, fun j hj k hk => ?_⟩
    cases List.mem_singleton.1 hk
    exact Int.lt_of_le_of_lt (h.le j hj) (by omega)
  le := by
    intro j hj
    rcases List.mem_append.1 hj with hj | hj
    · exact Int.le_trans (h.le j hj) (by show t.counters.incomes ≤ i.id; omega)
    · cases List.mem_singleton.1 hj
      exact Int.le_refl _

/-- **Every step keeps the numbers in order.** -/
theorem IncomesNumbered.step {t t' : Tables} (h : t.IncomesNumbered) (step : t.Step t') :
    t'.IncomesNumbered := by
  cases step with
  | reward amount offered now hu due hi =>
    have booked := h.book (congrArg Income.id hi)
    exact ⟨booked.ascend, booked.le⟩
  | @partner u i source key amount offered now hu hsource fresh hi =>
    have remembered : (t.remember ⟨source, key, u.id⟩).IncomesNumbered := ⟨h.ascend, h.le⟩
    exact remembered.book (congrArg Income.id hi)
  | _ => exact ⟨h.ascend, h.le⟩

end Tables

/-! ## Runs -/

namespace Memory

/-- A read leaves the store as it is. -/
theorem answer_of_not_write (m : Memory) {op : StoreOp} (read : ¬ op.IsWrite) :
    (m.answer op).2 = m := by
  cases op with
  | createUser | creditReward | creditPartner | createWithdrawal | advanceWithdrawals =>
    exact absurd trivial read
  | _ => rfl

/-- So does a write that is refused before the store is asked. -/
theorem answer_of_invalid (m : Memory) {op : StoreOp} {cause : Error}
    (why : op.invalid? = some cause) : m.answer op = (.refuse cause, m) := by
  obtain ⟨c, rfl, stranger, rfl⟩ := StoreOp.invalid?_eq_some why
  exact if_neg stranger

/-- A store that is usable answers from its tables. -/
theorem read_of_usable {α : Type} {m : Memory} (on : m.disabled = false)
    (query : Tables → α) : m.read query = .ok (query m.tables) :=
  if_neg (ne_true_of_eq_false on)

/-- A disabled store answers nothing. -/
theorem read_of_disabled {α : Type} {m : Memory} (off : m.disabled = true)
    (query : Tables → α) : m.read query = .refuse disabledError := if_pos off

/-- A read is never abandoned. -/
theorem answer_ne_outOfRange (m : Memory) {op : StoreOp} (read : ¬ op.IsWrite) :
    (m.answer op).1 ≠ .error .outOfRange := by
  have hread : ∀ {α : Type} (query : Tables → α), m.read query ≠ .error .outOfRange := by
    intro α query
    cases off : m.disabled with
    | true =>
      rw [read_of_disabled off]
      exact fun h => nomatch h
    | false =>
      rw [read_of_usable off]
      exact fun h => nomatch h
  cases op with
  | createUser | creditReward | creditPartner | createWithdrawal | advanceWithdrawals =>
    exact absurd trivial read
  | user id =>
    intro h
    have hrow := hread (·.users.get? id)
    change m.user id = _ at h
    unfold user at h
    split at h
    · cases h
    · cases h
    · next e he =>
      cases h
      exact hrow he
  | close => exact fun h => nomatch h
  | _ =>
    -- every other read is one query
    dsimp only [answer]
    exact hread _

/-- The user that is answered is the one with that row. -/
theorem user_eq_ok_iff {m : Memory} {id : Int} {u : User} :
    m.user id = .ok u ↔ m.disabled = false ∧ m.tables.users.get? id = some u := by
  unfold user
  cases off : m.disabled with
  | true =>
    rw [read_of_disabled off]
    constructor
    · intro h
      cases h
    · rintro ⟨h, -⟩
      cases h
  | false =>
    rw [read_of_usable off]
    cases m.tables.users.get? id with
    | none =>
      constructor
      · intro h
        cases h
      · rintro ⟨-, h⟩
        cases h
    | some v =>
      constructor
      · intro h
        cases h
        exact ⟨rfl, rfl⟩
      · rintro ⟨-, h⟩
        cases h
        rfl

/-- A unit of one write is kept. -/
theorem transact_write {m : Memory} (on : m.disabled = false) (f : WriteUnit → WriteUnit) :
    m.transact (UnitStep.write f)
      = (.ok ⟨⟩, { m with tables := (f (.start m.tables)).tables }) := by
  unfold transact
  rw [if_neg (ne_true_of_eq_false on)]
  rfl

/-- A unit of one write leaves the tables as they were, or as the write makes
them. -/
theorem transact_write_keeps {P : Tables → Prop} {m : Memory} {f : WriteUnit → WriteUnit}
    (before : P m.tables) (after : P (f (.start m.tables)).tables) :
    P (m.transact (UnitStep.write f)).2.tables := by
  cases off : m.disabled with
  | true =>
    rw [transact_of_disabled off]
    exact before
  | false =>
    rw [transact_write off]
    exact after

/-- **What a command can do to a store.** -/
inductive Moves (m : Memory) : Memory → Prop
  /-- The tables are as they were. -/
  | same {m' : Memory} (tables : m'.tables = m.tables) (disabled : m'.disabled = m.disabled) :
    Moves m m'
  /-- The tables took one step. -/
  | step {m' : Memory} (on : m.disabled = false) (on' : m'.disabled = false)
    (step : m.tables.Step m'.tables) : Moves m m'
  /-- The store was disabled. No event is forgotten on the way. -/
  | fault {m' : Memory} (on : m.disabled = false) (off : m'.disabled = true)
    (events : ∀ e ∈ m.tables.events, e ∈ m'.tables.events) : Moves m m'

/-- A store that is disabled stays disabled. -/
theorem Moves.disabled {m m' : Memory} (moves : m.Moves m') (off : m.disabled = true) :
    m'.disabled = true := by
  cases moves with
  | same _ disabled => rw [disabled, off]
  | step on => exact absurd off (ne_true_of_eq_false on)
  | fault _ off' => exact off'

/-- A unit of one write makes the step that the write is. -/
theorem moves_write {m : Memory} {f : WriteUnit → WriteUnit}
    (step : m.tables.Step (f (.start m.tables)).tables) :
    m.Moves (m.transact (UnitStep.write f)).2 := by
  cases off : m.disabled with
  | true =>
    rw [transact_of_disabled off]
    exact .same rfl rfl
  | false =>
    rw [transact_write off]
    exact .step off off step

/-- A write moves the store. -/
theorem Writes.moves {m m' : Memory} {op : StoreOp} {r : op.Reply} (ends : m.Writes op r m')
    (wf : m.disabled = false → m.tables.WellFormed) : m.Moves m' := by
  cases ends with
  | invalid => exact .same rfl rfl
  | disabled => exact .same rfl rfl
  | refused => exact .same rfl rfl
  | stopped => exact .same rfl rfl
  | kept on _ _ did => exact .step on on (did.step (wf on).users_keyed)
  | outOfRange on _ off events => exact .fault on off events

/-- A write disables the store exactly when it is abandoned. -/
theorem Writes.disabled_iff {m m' : Memory} {op : StoreOp} {r : op.Reply}
    (ends : m.Writes op r m') :
    m'.disabled = true ↔ m.disabled = true ∨ r = .error .outOfRange := by
  cases ends with
  | outOfRange _ _ off => exact iff_of_true off (.inr rfl)
  | _ => exact ⟨.inl, fun h => h.elim id fun impossible => nomatch impossible⟩

/-- So does a unit of one write, which is never abandoned. -/
theorem disabled_transact_write (m : Memory) (f : WriteUnit → WriteUnit) :
    (m.transact (UnitStep.write f)).2.disabled = true
      ↔ m.disabled = true ∨ (m.transact (UnitStep.write f)).1 = .error .outOfRange := by
  cases off : m.disabled with
  | true =>
    rw [transact_of_disabled off]
    exact iff_of_true off (.inl rfl)
  | false =>
    rw [transact_write off, off]
    exact ⟨.inl, fun h => h.elim id fun impossible => nomatch impossible⟩

/-- **Every command moves the store** in one of these ways. -/
theorem perform_moves {m : Memory} (wf : m.disabled = false → m.tables.WellFormed)
    (c : Command) : m.Moves (m.perform c).2 := by
  cases c with
  | request op =>
    show m.Moves (m.answer op).2
    by_cases write : op.IsWrite
    · exact (writes_answer (fun on => (wf on).users_keyed)
        (fun on => (wf on).withdrawals_keyed) write).moves wf
    · rw [answer_of_not_write m write]
      exact .same rfl rfl
  | addPolicy p => exact moves_write (.policy p)
  | addBand b => exact moves_write (.band b)
  | arm p => exact .same rfl rfl

/-- The tables of a store that is usable are well-formed. -/
theorem Reachable.wellFormed {m : Memory} (reach : m.Reachable) (on : m.disabled = false) :
    m.tables.WellFormed := by
  induction reach with
  | empty => exact Tables.wellFormed_empty
  | @perform m c _ ih =>
    -- what the command does is known only because the tables were well-formed before
    cases perform_moves ih c with
    | same tables disabled =>
      rw [tables]
      exact ih (disabled.symm.trans on)
    | step on' _ step => exact (ih on').step step
    | fault _ off => exact absurd off (ne_true_of_eq_false on)

section Reachable

variable {m : Memory} (reach : m.Reachable)

include reach

/-- Every command to a store that can be reached moves it. -/
theorem Reachable.moves (c : Command) : m.Moves (m.perform c).2 :=
  perform_moves reach.wellFormed c

/-- **Every write to a store that can be reached comes to one of its ends.** -/
theorem Reachable.writes {op : StoreOp} (write : op.IsWrite) :
    m.Writes op (m.answer op).1 (m.answer op).2 :=
  writes_answer (fun on => (reach.wellFormed on).users_keyed)
    (fun on => (reach.wellFormed on).withdrawals_keyed) write

/-- A write that is answered was kept. -/
theorem Reachable.commits {op : StoreOp} (write : op.IsWrite) {a : op.Answer}
    (answered : (m.answer op).1 = .ok a) :
    m.disabled = false ∧ m.tables.Commits op a (m.answer op).2.tables := by
  have ends := reach.writes write
  rw [answered] at ends
  generalize (m.answer op).2 = m' at ends
  cases ends with
  | kept on _ _ did => exact ⟨on, did⟩

/-- A command disables the store exactly when it is abandoned. -/
theorem Reachable.disabled_perform (c : Command) :
    (m.perform c).2.disabled = true ↔ m.disabled = true ∨ c.Abandoned (m.perform c).1 := by
  cases c with
  | request op =>
    by_cases write : op.IsWrite
    · exact (reach.writes write).disabled_iff
    · show (m.answer op).2.disabled = true ↔ _ ∨ (m.answer op).1 = .error .outOfRange
      rw [answer_of_not_write m write]
      exact ⟨.inl, fun h => h.elim id fun out => absurd out (m.answer_ne_outOfRange write)⟩
  | addPolicy p => exact m.disabled_transact_write _
  | addBand b => exact m.disabled_transact_write _
  | arm p => exact (or_false _).symm.to_iff

/-- A store stays usable as long as no request is abandoned. -/
theorem Reachable.usable_answer {op : StoreOp} (on : m.disabled = false)
    (calm : (m.answer op).1 ≠ .error .outOfRange) : (m.answer op).2.disabled = false := by
  refine eq_false_of_ne_true fun off => ?_
  obtain off | abandoned := (reach.disabled_perform (.request op)).1 off
  · exact ne_true_of_eq_false on off
  · exact calm abandoned

/-- **A store is disabled after a run** exactly when a command of it was
abandoned, or it was disabled before. -/
theorem Reachable.disabled_after (run : List Command) :
    (m.after run).disabled = true
      ↔ m.disabled = true ∨ ∃ entry ∈ m.log run, entry.1.Abandoned entry.2 := by
  induction run generalizing m with
  | nil =>
    refine ⟨.inl, fun h => h.elim id ?_⟩
    rintro ⟨entry, hentry, -⟩
    cases hentry
  | cons c rest ih =>
    refine (ih (reach.perform c)).trans ?_
    rw [reach.disabled_perform c, or_assoc]
    refine or_congr_right ?_
    show _ ↔ ∃ entry ∈ ⟨c, (m.perform c).1⟩ :: (m.perform c).2.log rest, _
    rw [List.exists_mem_cons_iff]

/-- **What every step of well-formed tables keeps holds after every run** that
leaves the store usable. -/
theorem Reachable.tables {P : Tables → Prop} (empty : P .empty)
    (keeps : ∀ t t', t.WellFormed → P t → t.Step t' → P t') (on : m.disabled = false) :
    P m.tables := by
  induction reach with
  | empty => exact empty
  | @perform m c reach ih =>
    cases reach.moves c with
    | same tables disabled =>
      rw [tables]
      exact ih (disabled.symm.trans on)
    | step on' _ step => exact keeps _ _ (reach.wellFormed on') (ih on') step
    | fault _ off => exact absurd off (ne_true_of_eq_false on)

/-- The incomes of a store that is usable are numbered in order. -/
theorem Reachable.incomesNumbered (on : m.disabled = false) : m.tables.IncomesNumbered :=
  reach.tables Tables.incomesNumbered_empty (fun _ _ _ h step => h.step step) on

/-- A store that is usable after a run was usable before it. -/
theorem Reachable.usable_of_after (run : List Command)
    (on : (m.after run).disabled = false) : m.disabled = false := by
  induction run generalizing m with
  | nil => exact on
  | cons c rest ih =>
    have on' : (m.perform c).2.disabled = false := ih (reach.perform c) on
    cases off : m.disabled with
    | true => exact absurd ((reach.moves c).disabled off) (ne_true_of_eq_false on')
    | false => rfl

end Reachable

end Memory

end RewardLedger
