import Mathlib.Data.List.ReduceOption
import RewardLedger.Proofs.History
import RewardLedger.Proofs.Settling

/-!
# Withdrawals move forward

Two checks keep a withdrawal in its pipeline, and neither is enough alone. The
settlement refuses a move that the pipeline does not have, and never looks at a
withdrawal. The store looks at the withdrawals of a batch, and moves them from
the status that it is told to any other that it is told. A batch that is delivered
twice, or that overlaps another one, passes the first check as well as the other
does, and is refused by the second, because the status has gone on in between.

What a turn can do to the row of a withdrawal is said once (`Withdrawal.Change`).
All the rest is read off the **course** of the withdrawal, which is the list of the
rows that it had, with the moves between them. No status can be left twice, since
every move goes on to a later stage.
-/

namespace RewardLedger

/-! ## Stages of the pipeline -/

namespace WithdrawalStatus

/-- How far along the pipeline a status is. -/
def stage : WithdrawalStatus → Nat
  | pending => 0
  | processing => 1
  | processed => 2
  | rejected => 2

theorem Advances.stage_lt {a b : WithdrawalStatus} (h : a.Advances b) : a.stage < b.stage := by
  cases h <;> decide

/-- Nothing advances from what is processed or rejected. -/
theorem not_advances_of_final {a : WithdrawalStatus} (final : a = processed ∨ a = rejected)
    (b : WithdrawalStatus) : ¬ a.Advances b := by
  obtain rfl | rfl := final <;> exact nofun

end WithdrawalStatus

/-! ## The course of a withdrawal -/

namespace Withdrawal

/-- **A move of a withdrawal** by a batch that succeeded. -/
structure Move where
  current : WithdrawalStatus
  next : WithdrawalStatus
  /-- The payment that the batch named, if it named one. -/
  transaction : Option String
  deriving DecidableEq, Repr

/-- **What can happen to the row of a withdrawal at once**, and the move that did
it, if it was moved. -/
inductive Change : Option Withdrawal → Option Move → Option Withdrawal → Prop
  | same (row : Option Withdrawal) : Change row none row
  | created {w : Withdrawal} (status : w.status = .pending) (unpaid : w.transaction = none) :
    Change none none (some w)
  | moved {w : Withdrawal} {m : Move} (now : Instant) (current : w.status = m.current)
    (allowed : m.current.Advances m.next) :
    Change (some w) (some m) (some (w.advanced m.next m.transaction now))

/-- **The course of a withdrawal**: its rows, oldest first, and the moves between
them. -/
inductive Course : List (Option Withdrawal) → List (Option Move) → Prop
  | now (row : Option Withdrawal) : Course [row] []
  | change {row row' : Option Withdrawal} {m : Option Move} {rows : List (Option Withdrawal)}
    {moves : List (Option Move)} (change : Change row m row') (rest : Course (row' :: rows) moves) :
    Course (row :: row' :: rows) (m :: moves)

/-- **What a withdrawal becomes**: it is never another withdrawal, it does not
leave a status that is final, and it is not without a payment again. -/
structure Becomes (w w' : Withdrawal) : Prop where
  id : w'.id = w.id
  user : w'.user = w.user
  address : w'.address = w.address
  amount : w'.amount = w.amount
  createdAt : w'.createdAt = w.createdAt
  final : w.status = .processed ∨ w.status = .rejected → w'.status = w.status
  paid : w.transaction.isSome → w'.transaction.isSome

theorem Becomes.refl (w : Withdrawal) : w.Becomes w :=
  ⟨rfl, rfl, rfl, rfl, rfl, fun _ => rfl, fun paid => paid⟩

theorem Becomes.trans {u v w : Withdrawal} (h : u.Becomes v) (h' : v.Becomes w) :
    u.Becomes w where
  id := h'.id.trans h.id
  user := h'.user.trans h.user
  address := h'.address.trans h.address
  amount := h'.amount.trans h.amount
  createdAt := h'.createdAt.trans h.createdAt
  final := fun final => (h'.final (h.final final ▸ final)).trans (h.final final)
  paid := fun paid => h'.paid (h.paid paid)

/-- A withdrawal that was there is still there, and is what it became. -/
def Kept (row row' : Option Withdrawal) : Prop :=
  ∀ w, row = some w → ∃ w', row' = some w' ∧ w.Becomes w'

namespace Change

variable {row row' : Option Withdrawal} {m : Option Move}

theorem kept (h : Change row m row') : Kept row row' := by
  intro w hw
  cases h with
  | same => exact ⟨w, hw, .refl w⟩
  | created => cases hw
  | @moved v m now current allowed =>
    cases hw
    refine ⟨_, rfl, rfl, rfl, rfl, rfl, rfl, fun final => ?_, fun paid => ?_⟩
    · exact absurd (current ▸ allowed) (WithdrawalStatus.not_advances_of_final final _)
    · show (m.transaction.or w.transaction).isSome
      rw [Option.isSome_or, paid, Bool.or_true]

end Change

namespace Course

variable {rows : List (Option Withdrawal)} {moves : List (Option Move)}

/-- A course goes on with what happens to the last row. -/
theorem snoc (course : Course rows moves) {row row' : Option Withdrawal} {m : Option Move}
    (last : rows.getLast? = some row) (change : Change row m row') :
    Course (rows ++ [row']) (moves ++ [m]) := by
  induction course with
  | now first =>
    cases last
    exact .change change (.now row')
  | change earlier _ ih => exact .change earlier (ih (by rwa [List.getLast?_cons_cons] at last))

/-- **A withdrawal is kept** along its whole course. -/
theorem pairwise_kept (course : Course rows moves) : rows.Pairwise Kept := by
  induction course with
  | now row => exact List.pairwise_singleton _ row
  | change change _ ih =>
    refine List.pairwise_cons.2 ⟨fun later hlater => ?_, ih⟩
    rcases List.mem_cons.1 hlater with rfl | hlater
    · exact change.kept
    · intro w hw
      obtain ⟨v, hv, first⟩ := change.kept w hw
      obtain ⟨x, hx, second⟩ := (List.pairwise_cons.1 ih).1 later hlater v hv
      exact ⟨x, hx, first.trans second⟩

/-- A course that begins without a withdrawal has a pending one first. -/
theorem head_pending (course : Course rows moves) (first : rows.head? = some none) :
    ∀ w ∈ rows.reduceOption.head?, w.status = .pending := by
  induction course with
  | now row =>
    cases first
    intro w hw
    cases hw
  | @change row row' m rows moves change _ ih =>
    cases first
    show ∀ w ∈ (row' :: rows).reduceOption.head?, w.status = .pending
    cases change with
    | same => exact ih rfl
    | created status =>
      intro w hw
      cases hw
      exact status

/-- **The statuses of a course** are the same as before or go on along the
pipeline. -/
theorem isChain_status (course : Course rows moves) :
    (rows.reduceOption.map (·.status)).IsChain fun a b => b = a ∨ a.Advances b := by
  induction course with
  | now row => cases row with
    | none => exact .nil
    | some w => exact .singleton w.status
  | @change row row' m rows moves change _ ih =>
    cases row with
    | none => exact ih
    | some w =>
      -- a row that was there is followed by another one
      have next : ∃ w', row' = some w' ∧ (w'.status = w.status ∨ w.status.Advances w'.status) := by
        cases change with
        | same => exact ⟨w, rfl, .inl rfl⟩
        | moved now current allowed => exact ⟨_, rfl, .inr (current ▸ allowed)⟩
      obtain ⟨w', rfl, step⟩ := next
      exact List.isChain_cons_cons.2 ⟨step, ih⟩

/-- A course never leaves a status that its withdrawal is past. -/
theorem current_ne (course : Course rows moves) {w : Withdrawal} {a : WithdrawalStatus}
    (first : rows.head? = some (some w)) (past : a.stage < w.status.stage) :
    ∀ m ∈ moves.reduceOption, m.current ≠ a := by
  induction course generalizing w with
  | now row =>
    intro m hm
    cases hm
  | @change row row' m rows moves change _ ih =>
    cases first
    cases change with
    | same => exact ih rfl past
    | @moved _ m now current allowed =>
      intro k hk
      rcases List.mem_cons.1 hk with rfl | hk
      · rintro rfl
        rw [current] at past
        exact absurd past (Nat.lt_irrefl _)
      · refine ih rfl (Nat.lt_trans past ?_) k hk
        rw [current]
        exact allowed.stage_lt

/-- **A status is left at most once.** -/
theorem countP_le_one (course : Course rows moves) (a : WithdrawalStatus) :
    moves.reduceOption.countP (fun m => m.current = a) ≤ 1 := by
  induction course with
  | now row => exact Nat.zero_le 1
  | @change row row' m rows moves change rest ih =>
    cases change with
    | same => exact ih
    | created => exact ih
    | @moved w m now current allowed =>
      show (m :: moves.reduceOption).countP _ ≤ 1
      rw [List.countP_cons]
      by_cases left : m.current = a
      · -- after this move the withdrawal is past the status
        have past : a.stage < (w.advanced m.next m.transaction now).status.stage :=
          left ▸ allowed.stage_lt
        have never : moves.reduceOption.countP (fun m => m.current = a) = 0 :=
          List.countP_eq_zero.2 fun k hk =>
            by simpa using rest.current_ne rfl past k hk
        rw [never]
        split <;> decide
      · rw [if_neg (by simpa using left)]
        exact ih

/-- **The payment of a withdrawal** is the last one that a move named, or the one
that it began with. -/
theorem transaction_eq (course : Course rows moves) {row row' : Option Withdrawal}
    (first : rows.head? = some row) (last : rows.getLast? = some row') :
    row'.bind (·.transaction)
      = (moves.reduceOption.filterMap (·.transaction)).getLast?.or (row.bind (·.transaction)) := by
  induction course generalizing row with
  | now only =>
    cases first
    cases last
    rfl
  | @change row₀ row₁ m rows moves change _ ih =>
    cases first
    rw [List.getLast?_cons_cons] at last
    rw [ih rfl last]
    cases change with
    | same => rfl
    | created _ unpaid => rw [Option.bind_some, unpaid]; rfl
    | @moved w m now current allowed =>
      show Option.or _ (m.transaction.or w.transaction)
        = (List.filterMap _ (m :: moves.reduceOption)).getLast?.or w.transaction
      rw [List.filterMap_cons]
      cases m.transaction with
      | none => rfl
      | some payment =>
        rw [List.getLast?_cons]
        cases (moves.reduceOption.filterMap (·.transaction)).getLast? <;> rfl

end Course

end Withdrawal

/-! ## What leaves withdrawals alone -/

namespace StoreOp

/-- The request creates a withdrawal, or moves some. -/
def Disburses : StoreOp → Prop
  | createWithdrawal _ => True
  | advanceWithdrawals .. => True
  | _ => False

theorem Disburses.isWrite {op : StoreOp} (h : op.Disburses) : op.IsWrite := by
  cases op <;> trivial

/-- **What the settlement lets through to a store**: withdrawals of positive amounts,
and moves that the pipeline has. -/
def Lawful : StoreOp → Prop
  | createWithdrawal order => 0 < order.amount
  | advanceWithdrawals _ current next _ _ => current.Advances next
  | _ => True

/-- The move that a withdrawal made by a request, given the reply to it. -/
def move? (id : Int) : (op : StoreOp) → op.Reply → Option Withdrawal.Move
  | advanceWithdrawals ids current next transaction _, .ok _ =>
    if id ∈ ids then some ⟨current, next, transaction⟩ else none
  | _, _ => none

theorem move?_refuse (id : Int) (op : StoreOp) (cause : Error) :
    op.move? id (.refuse cause) = none := by
  cases op <;> rfl

theorem move?_of_not_disburses (id : Int) {op : StoreOp} (never : ¬ op.Disburses)
    (r : op.Reply) : op.move? id r = none := by
  cases op with
  | createWithdrawal => rfl
  | advanceWithdrawals => exact absurd trivial never
  | _ => rfl

end StoreOp

namespace Memory

/-- **Whatever does not disburse leaves the withdrawals alone**, even if it is
abandoned half way. -/
theorem Reachable.withdrawals_answer {m : Memory} (reach : m.Reachable) {op : StoreOp}
    (never : ¬ op.Disburses) : (m.answer op).2.tables.withdrawals = m.tables.withdrawals := by
  let P (t : Tables) : Prop := t.withdrawals = m.tables.withdrawals
  have accounts : Tables.IgnoresAccounts P := fun _ _ _ _ _ _ h => h
  refine reach.keeps_answer (P := P) rfl ?_
  cases op with
  | createUser user now => exact UnitStep.keeps_createUser accounts user now
  | creditReward c => exact UnitStep.keeps_creditRewardHoldings accounts.holdings (fun _ _ h => h) c
  | creditPartner c => exact UnitStep.keeps_creditPartnerHoldings accounts.holdings c
  | createWithdrawal => exact absurd trivial never
  | advanceWithdrawals => exact absurd trivial never
  | _ => trivial

/-- So does every other command. -/
theorem Reachable.withdrawals_perform {m : Memory} (reach : m.Reachable) {c : Command}
    (never : c.AsksOnly fun op => ¬ op.Disburses) :
    (m.perform c).2.tables.withdrawals = m.tables.withdrawals := by
  cases c with
  | request op => exact reach.withdrawals_answer never
  | addPolicy p => exact transact_write_keeps (P := (·.withdrawals = _)) rfl rfl
  | addBand b => exact transact_write_keeps (P := (·.withdrawals = _)) rfl rfl
  | arm p => rfl

end Memory

/-! ## What disburses -/

namespace Tables

/-- All members of a batch are in the status, if as many are as there are. -/
theorem mem_status_of_length_inStatus {t : Tables} {status : WithdrawalStatus} {ids : List Int}
    (all : (t.inStatus status ids).length = ids.length) {id : Int} (hid : id ∈ ids) :
    ∃ w, t.withdrawals.get? id = some w ∧ w.status = status := by
  have found := List.length_filter_eq_length_iff.1 all id hid
  obtain ⟨w, hw⟩ := Option.isSome_iff_exists.1 found
  obtain ⟨hget, hstatus⟩ := Option.filter_eq_some_iff.1 hw
  exact ⟨w, hget, of_decide_eq_true hstatus⟩

/-- **What a write that is kept does to the row of a withdrawal**, if the settlement
let it through. -/
theorem Commits.change {t t' : Tables} {op : StoreOp} {a : op.Answer} (did : t.Commits op a t')
    (wf : t.WellFormed) (lawful : op.Lawful) (id : Int) :
    Withdrawal.Change (t.withdrawals.get? id) (op.move? id (.ok a))
      (t'.withdrawals.get? id) := by
  cases op with
  | createWithdrawal order =>
    obtain ⟨u, -, -, rfl, rfl⟩ := did
    show Withdrawal.Change _ none ((t.withdrawals.insert _ _).get? id)
    rw [Table.get?_insert]
    split
    · next new =>
      -- the identifier was not given out before, so there is no row under it
      have fresh : t.withdrawals.get? id = none := by
        cases hw : t.withdrawals.get? id with
        | none => rfl
        | some w =>
          have le := wf.withdrawal_le id w hw
          rw [new] at le
          exact absurd le (Int.not_le.2 (Int.lt_succ _))
      rw [fresh]
      exact .created rfl rfl
    · exact .same _
  | advanceWithdrawals ids current next transaction now =>
    obtain ⟨all, -, rfl⟩ := did
    show Withdrawal.Change _ (if id ∈ ids then _ else none) _
    by_cases named : id ∈ ids
    · have member := mem_distinctAscending.2 named
      obtain ⟨w, hw, hstatus⟩ := mem_status_of_length_inStatus all member
      rw [if_pos named, get?_advance_of_mem wf.withdrawals_keyed member hw hstatus, hw]
      exact .moved (m := ⟨current, next, transaction⟩) now hstatus lawful
    · have other : id ∉ distinctAscending ids := fun h => named (mem_distinctAscending.1 h)
      rw [if_neg named, get?_advance_of_not_mem wf.withdrawals_keyed other]
      exact .same _
  | createUser => obtain ⟨-, -, rfl⟩ := did; exact .same _
  | creditReward => obtain ⟨u, -, -, -, rfl⟩ := did; exact .same _
  | creditPartner => obtain ⟨-, -, u, -, -, rfl⟩ := did; exact .same _
  | _ => exact did.elim

end Tables

namespace Memory

/-- The row of a withdrawal, if it was created. -/
def withdrawal? (m : Memory) (id : Int) : Option Withdrawal := m.tables.withdrawals.get? id

/-- **What a request does to the row of a withdrawal**, if the settlement let it
through, whatever comes of the request. -/
theorem Reachable.change_answer {m : Memory} (reach : m.Reachable) {op : StoreOp}
    (lawful : op.Lawful) (id : Int) :
    Withdrawal.Change (m.withdrawal? id) (op.move? id (m.answer op).1)
      ((m.answer op).2.withdrawal? id) := by
  unfold withdrawal?
  by_cases disburses : op.Disburses
  · have ends := reach.writes disburses.isWrite
    generalize (m.answer op).1 = r, (m.answer op).2 = m' at ends ⊢
    cases ends with
    | kept on _ _ did => exact did.change (reach.wellFormed on) lawful id
    | outOfRange on why =>
      refine absurd ?_ why
      cases op with
      | createWithdrawal order => exact reach.hasRoom_createWithdrawal on lawful
      | advanceWithdrawals => trivial
      | _ => cases disburses
    | _ =>
      rw [StoreOp.move?_refuse]
      exact .same _
  · rw [StoreOp.move?_of_not_disburses id disburses, reach.withdrawals_answer disburses]
    exact .same _

/-- **A batch changes nothing but withdrawals**, whatever comes of it. -/
theorem Reachable.answer_advanceWithdrawals {m : Memory} (reach : m.Reachable) (ids : List Int)
    (current next : WithdrawalStatus) (transaction : Option String) (now : Instant) :
    ∃ ws, (m.answer (.advanceWithdrawals ids current next transaction now)).2.tables
      = { m.tables with withdrawals := ws } := by
  have ends := reach.writes
    (show (StoreOp.advanceWithdrawals ids current next transaction now).IsWrite from trivial)
  generalize (m.answer (.advanceWithdrawals ids current next transaction now)).1 = r,
    (m.answer (.advanceWithdrawals ids current next transaction now)).2 = m' at ends ⊢
  cases ends with
  | kept _ _ _ did =>
    obtain ⟨-, -, rfl⟩ := did
    exact ⟨_, rfl⟩
  | outOfRange _ why => exact absurd trivial why
  | _ => exact ⟨m.tables.withdrawals, rfl⟩

/-- **A batch is taken for its members**: it does not matter in which order they are
named, nor how often. -/
theorem answer_advanceWithdrawals_congr (m : Memory) {ids ids' : List Int}
    (same : ∀ id, id ∈ ids ↔ id ∈ ids') (current next : WithdrawalStatus)
    (transaction : Option String) (now : Instant) :
    m.answer (.advanceWithdrawals ids current next transaction now)
      = m.answer (.advanceWithdrawals ids' current next transaction now) := by
  have batch : distinctAscending ids = distinctAscending ids' :=
    distinctAscending_eq (pairwise_distinctAscending ids') fun id =>
      mem_distinctAscending.trans (same id).symm
  show m.transact (UnitStep.advance ids current next transaction now) = m.transact _
  unfold UnitStep.advance
  rw [batch]

end Memory

/-! ## Calls of the settlement -/

/-- **A call of the settlement.** -/
inductive Settlement.Call : {α : Type} → Program Effect Effect.Reply α → Prop
  | request (user : Int) (address : String) (amount : Int) :
    Call (request user address amount).run
  | advance (ids : List Int) (current next : WithdrawalStatus) (transaction : Option String) :
    Call (advance ids current next transaction).run
  | sweep (least : Int) : Call (sweep least).run

namespace Settlement

open ServiceStep

/-- A sweep asks for withdrawals of positive amounts only. -/
theorem performs_sweep {P : StoreOp → Prop} (least : Int)
    (looks : P (.withdrawableUsers least))
    (asks : ∀ order : NewWithdrawal, 0 < order.amount → P (.createWithdrawal order)) :
    (sweep least).run.Performs (Effect.AsksOnly P) := by
  refine performs_bind (performs_ask looks) fun users => ?_
  induction users with
  | nil => trivial
  | cons u rest ih =>
    have once : (observe (request u.id u.address u.balance)).run.Performs (Effect.AsksOnly P) :=
      performs_observe (performs_request fun positive now => asks ⟨_, _, _, now⟩ positive)
    refine performs_bind (performs_bind once fun o => ?_) fun o => ?_
    · obtain (_ | _) | _ := o
      · exact once
      · trivial
      · trivial
    · obtain (_ | _) | _ := o
      · exact performs_bind ih fun _ => trivial
      · trivial
      · exact performs_bind ih fun _ => trivial

/-- **The settlement lets nothing through that is not lawful.** -/
theorem Call.lawful {α : Type} {p : Program Effect Effect.Reply α} (call : Call p) :
    p.Performs (Effect.AsksOnly StoreOp.Lawful) := by
  cases call with
  | request => exact performs_request fun positive _ => positive
  | advance => exact performs_advance fun allowed _ => allowed
  | sweep least => exact performs_sweep least trivial fun _ positive => positive

end Settlement

/-! ## Histories of disbursement -/

/-- **Only the settlement disburses**, from an empty store on. Whatever else is done
to the service is done around it. -/
def Setting.disbursement : Setting where
  Initial s := s.store = .empty
  Begins p := Settlement.Call p
  Around s s' := s'.store = s.store ∨ ∃ c : Memory.Command,
    c.AsksOnly (fun op => ¬ op.Disburses) ∧ s'.store = (s.store.perform c).2
  reachable_of_initial := Service.reachable_of_empty
  disturbed_of_around := by
    rintro s s' (same | ⟨c, -, commanded⟩)
    · exact .inl same
    · exact .inr ⟨c, commanded⟩

/-- The move that a withdrawal made in a turn. -/
def Turn.move? (t : Turn) (id : Int) : Option Withdrawal.Move :=
  match t with
  | ⟨_, found, .store op⟩ => op.move? id (found.store.answer op).1
  | _ => none

/-- **What a lawful turn does to the row of a withdrawal.** -/
theorem Turn.change {t : Turn} (reach : t.found.store.Reachable)
    (lawful : t.effect.AsksOnly StoreOp.Lawful) (id : Int) :
    Withdrawal.Change (t.found.store.withdrawal? id) (t.move? id)
      (t.left.store.withdrawal? id) := by
  obtain ⟨task, found, effect⟩ := t
  unfold left
  rw [Effect.store_handle]
  cases effect with
  | store op => exact reach.change_answer lawful id
  | _ => exact .same _

namespace History

/-- The rows that a withdrawal had: before each turn, and now. -/
def rows (h : History) (id : Int) : List (Option Withdrawal) :=
  h.services.map (·.store.withdrawal? id)

/-- The moves that a withdrawal made, turn by turn. -/
def moves (h : History) (id : Int) : List (Option Withdrawal.Move) := h.turns.map (·.move? id)

theorem getLast?_rows (h : History) (id : Int) :
    (h.rows id).getLast? = some (h.pool.service.store.withdrawal? id) := by
  simp [rows, services]

/-- **A withdrawal only moves forward** along a history. -/
structure MovesForward (h : History) (id : Int) : Prop where
  course : Withdrawal.Course (h.rows id) (h.moves id)
  first : ∀ w ∈ (h.rows id).reduceOption.head?, w.status = .pending
  path : ((h.rows id).reduceOption.map (·.status)).IsChain fun a b => b = a ∨ a.Advances b
  /-- In particular it takes no step of the pipeline twice. -/
  once : ∀ a, (h.moves id).reduceOption.countP (fun m => m.current = a) ≤ 1
  kept : (h.rows id).Pairwise Withdrawal.Kept
  /-- Its payment is the last one that a batch named it with. -/
  transaction : ∀ w, h.pool.service.store.withdrawal? id = some w →
    w.transaction = ((h.moves id).reduceOption.filterMap (·.transaction)).getLast?

section Reachable

variable {h : History} (reach : h.Reachable .disbursement)

include reach

/-- The store may be given a command that does not disburse. -/
theorem Reachable.command (c : Memory.Command) (never : c.AsksOnly fun op => ¬ op.Disburses) :
    Reachable .disbursement
      { h with pool.service.store := (h.pool.service.store.perform c).2 } :=
  reach.step (.around (.inr ⟨c, never, rfl⟩))

/-- Every turn is lawful. -/
theorem Reachable.lawful {t : Turn} (ht : t ∈ h.turns) :
    t.effect.AsksOnly StoreOp.Lawful :=
  reach.performs (fun begins => begins.lawful) ht

/-- **The rows of a withdrawal follow its moves.** -/
theorem Reachable.course (id : Int) :
    (h.rows id).head? = some none ∧ Withdrawal.Course (h.rows id) (h.moves id) := by
  induction reach with
  | new initial =>
    refine ⟨?_, .now _⟩
    show some (Memory.withdrawal? _ id) = some none
    rw [initial]
    rfl
  | @step h h' reach step ih =>
    obtain ⟨first, course⟩ := ih
    have whole := reach.step step
    cases step with
    | start => exact ⟨first, course⟩
    | @act task α began e next calls =>
      let t : Turn := ⟨task, h.pool.service, e⟩
      have change := t.change reach.store (whole.lawful (t := t) (by simp [t])) id
      have rows : ∀ h' : History, h'.services = h.services ++ [t.left] →
          h'.rows id = h.rows id ++ [t.left.store.withdrawal? id] := by
        intro h' same
        rw [History.rows, same, List.map_append]
        rfl
      have moves : (h.turns ++ [t]).map (·.move? id) = h.moves id ++ [t.move? id] :=
        List.map_append
      rw [rows _ (by simp [services, t, Turn.left])]
      refine ⟨?_, ?_⟩
      · rw [List.head?_append, first]
        rfl
      · show Withdrawal.Course _ ((h.turns ++ [t]).map (·.move? id))
        rw [moves]
        exact course.snoc (h.getLast?_rows id) change
    | @around s aside =>
      -- whatever happens around leaves the row as it is
      have same : s.store.withdrawal? id = h.pool.service.store.withdrawal? id := by
        obtain same | ⟨c, never, commanded⟩ := aside
        · rw [same]
        · rw [commanded, Memory.withdrawal?, reach.store.withdrawals_perform never]
          rfl
      have rows : ({ h with pool.service := s } : History).rows id = h.rows id := by
        simp [History.rows, services, same]
      rw [rows]
      exact ⟨first, course⟩

/-- **Withdrawals only move forward.** In every history in which only the settlement
disburses, whatever the order of the turns and whatever comes of them: the rows of
each withdrawal follow the moves that batches made of it, from pending on along the
pipeline; it leaves each status once at most, and a final one never; it stays, with
what was ordered, and its payment is the last one that it was moved with. And no
batch changes anything but withdrawals. -/
theorem withdrawals_move_forward :
    (∀ id, h.MovesForward id)
      ∧ ∀ t ∈ h.turns, ∀ ids current next transaction now,
        t.effect = .store (.advanceWithdrawals ids current next transaction now) →
          ∃ ws, t.left.store.tables = { t.found.store.tables with withdrawals := ws } := by
  refine ⟨fun id => ?_, fun t ht ids current next transaction now batch => ?_⟩
  · obtain ⟨first, course⟩ := reach.course id
    exact
      { course
        first := course.head_pending first
        path := course.isChain_status
        once := course.countP_le_one
        kept := course.pairwise_kept
        transaction := by
          intro w hw
          have named := course.transaction_eq first (h.getLast?_rows id)
          rw [hw, Option.bind_none, Option.or_none] at named
          exact named }
  · unfold Turn.left
    rw [Effect.store_handle, batch]
    exact (reach.found ht).answer_advanceWithdrawals ids current next transaction now

end Reachable

/-- Two batches of the same withdrawals overlap, and the second is refused. Then
the first of them is finished with a payment, naming the withdrawal twice. -/
theorem withdrawals_move_forward_of_rival_batches :
    ∃ h : History, h.Reachable .disbursement
      ∧ h.pool.service.store.withdrawal? 1
        = some ⟨1, 1, "out", 60, .processed, some "tx", ⟨0, 0⟩, ⟨0, 0⟩⟩
      ∧ (h.moves 1).reduceOption
        = [⟨.pending, .processing, none⟩, ⟨.processing, .processed, some "tx"⟩]
      ∧ h.MovesForward 1 := by
  have started := Reachable.new (S := .disbursement) (s := Service.new Memory.empty 10 ⟨0, 0⟩) rfl
  have registered := started.command
    (.request (.createUser ⟨"a@x", "addr", none, 300⟩ ⟨0, 0⟩)) id
  have credited := registered.command
    (.request (.creditPartner ⟨.offertoro, "k", 1, 100, 0, ⟨0, 0⟩⟩)) id
  have requested := (credited.step (.start (.request 1 "out" 60))).run (n := 0) rfl
  -- both batches look at the clock before either of them asks the store
  have begun := (requested.step (.start (.advance [1] .pending .processing none))).step
    (.start (.advance [1] .pending .processing none))
  have looked := (begun.step (.act (n := 1) rfl)).step (.act (n := 2) rfl)
  have moved := (looked.run (n := 1) rfl).run (n := 2) rfl
  have named := (moved.step
    (.start (.advance [1, 1] .processing .processed (some "tx")))).step (.act (n := 3) rfl)
  have finished := named.step (.act (n := 3) rfl)
  -- to name the withdrawal twice comes to the same as to name it once
  have once (m : Memory) (now : Instant) :
      m.answer (.advanceWithdrawals [1, 1] .processing .processed (some "tx") now)
        = m.answer (.advanceWithdrawals [1] .processing .processed (some "tx") now) :=
    m.answer_advanceWithdrawals_congr (by simp) _ _ _ _
  refine ⟨_, finished, ?_, ?_, (withdrawals_move_forward finished).1 1⟩
  · simp only [Effect.store_handle, once]
    decide +kernel
  · simp only [moves, List.map_append, List.map_cons, List.map_nil, Turn.move?, once]
    decide +kernel

end History

end RewardLedger
