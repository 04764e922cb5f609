import Mathlib.Data.Finset.Card
import Mathlib.Data.Finset.Dedup
import RewardLedger.Proofs.Store.Run

/-!
# A batch moves as a whole

A batch names withdrawals in any order, some of them more than once and some that
do not exist. Only the set of what it names matters. A member is **ready** if it
stands in the status that the batch is expected in, and the batch is moved if
everything that it names is ready.

The members are moved one after the other, and how many were ready is only known
at the end. By then those before the last one may have been moved already, so a
batch that is refused has to be taken back.
-/

namespace RewardLedger

/-- A batch has as many members as it names withdrawals. -/
theorem length_distinctAscending (ids : List Int) :
    (distinctAscending ids).length = ids.toFinset.card := by
  rw [← List.toFinset_card_of_nodup (nodup_distinctAscending ids)]
  refine congrArg Finset.card (Finset.ext fun id => ?_)
  rw [List.mem_toFinset, List.mem_toFinset, mem_distinctAscending]

namespace Tables

/-- The withdrawals that a batch names and that are **ready** for it: they exist,
in the status that it is expected in. -/
def ready (t : Tables) (current : WithdrawalStatus) (ids : List Int) : Finset Int :=
  ids.toFinset.filter fun id => (t.withdrawals.get? id).map (·.status) = some current

variable {t : Tables} {ids : List Int} {id : Int} {current next : WithdrawalStatus}
  {transaction : Option String} {now : Instant}

theorem mem_ready :
    id ∈ t.ready current ids
      ↔ id ∈ ids ∧ ∃ w, t.withdrawals.get? id = some w ∧ w.status = current := by
  simp [ready]

theorem ready_eq_iff :
    t.ready current ids = ids.toFinset
      ↔ ∀ id ∈ ids, ∃ w, t.withdrawals.get? id = some w ∧ w.status = current := by
  simp [ready, Finset.filter_eq_self]

/-- The unit counts what is ready. -/
theorem length_inStatus_eq_card (t : Tables) (current : WithdrawalStatus) (ids : List Int) :
    (t.inStatus current (distinctAscending ids)).length = (t.ready current ids).card := by
  have distinct : (t.inStatus current (distinctAscending ids)).Nodup :=
    (nodup_distinctAscending ids).filter _
  rw [← List.toFinset_card_of_nodup distinct]
  refine congrArg Finset.card (Finset.ext fun id => ?_)
  simp only [inStatus, List.mem_toFinset, List.mem_filter, mem_distinctAscending, mem_ready,
    Option.isSome_filter, Option.any_eq_true, decide_eq_true_eq]

/-- As many are ready as there are if they all are. -/
theorem length_inStatus_eq_iff :
    (t.inStatus current (distinctAscending ids)).length = (distinctAscending ids).length
      ↔ t.ready current ids = ids.toFinset := by
  rw [length_inStatus_eq_card, length_distinctAscending]
  refine ⟨fun same => ?_, congrArg Finset.card⟩
  exact Finset.eq_of_subset_of_card_le (Finset.filter_subset _ _) (Nat.le_of_eq same.symm)

/-- **A batch was moved**, with all that it names, and nothing else was touched. -/
structure Moved (t : Tables) (ids : List Int) (next : WithdrawalStatus)
    (transaction : Option String) (now : Instant) (t' : Tables) : Prop where
  /-- A member keeps the payment that it had if the batch names none. -/
  member : ∀ id ∈ ids, ∃ w, t.withdrawals.get? id = some w
    ∧ t'.withdrawals.get? id = some { w with
        status := next
        transaction := transaction.or w.transaction
        updatedAt := now }
  other : ∀ id, id ∉ ids → t'.withdrawals.get? id = t.withdrawals.get? id
  rest : t' = { t with withdrawals := t'.withdrawals }

/-- A batch whose members are all ready is moved. -/
theorem moved_advance (keyed : t.WithdrawalsKeyed)
    (all : t.ready current ids = ids.toFinset) :
    t.Moved ids next transaction now
      (t.advance (distinctAscending ids) current next transaction now) where
  member id named := by
    obtain ⟨w, hw, status⟩ := ready_eq_iff.1 all id named
    exact ⟨w, hw, get?_advance_of_mem keyed (mem_distinctAscending.2 named) hw status⟩
  other _ other := get?_advance_of_not_mem keyed fun named =>
    other (mem_distinctAscending.1 named)
  rest := rfl

end Tables

namespace Memory

/-- **What a batch comes to**, for its answer and the store that it leaves. -/
structure Batched (m : Memory) (ids : List Int) (current next : WithdrawalStatus)
    (transaction : Option String) (now : Instant) (r : Outcome Nat) (m' : Memory) : Prop where
  granted : (∃ n, r = .ok n)
    ↔ m.disabled = false ∧ m.tables.ready current ids = ids.toFinset
  count : ∀ n, r = .ok n → n = ids.toFinset.card
  moved : ∀ n, r = .ok n →
    m.tables.Moved ids next transaction now m'.tables ∧ m' = { m with tables := m'.tables }
  /-- Those that were moved before the end are taken back. -/
  refused : m.disabled = false → m.tables.ready current ids ≠ ids.toFinset →
    r = .refuse (.batchMismatch ids.toFinset.card (m.tables.ready current ids).card) ∧ m' = m
  disabled : m.disabled = true → r = .refuse disabledError ∧ m' = m

/-- **A batch advances all of its withdrawals or none.** In every reachable store and
for every batch, whatever it names, how often and in which order: it is kept exactly
if the store is usable and everything that it names is ready. Then the answer is how
many withdrawals it names, each of them is in the new status, and nothing else of the
store is touched. A batch that names anything that is not ready is refused with both
numbers, and a store that was disabled refuses every batch. Either leaves the store
as it was. -/
theorem Reachable.batch_moves_all_or_nothing {m : Memory} (reach : m.Reachable)
    (ids : List Int) (current next : WithdrawalStatus) (transaction : Option String)
    (now : Instant) :
    m.Batched ids current next transaction now
      (m.answer (.advanceWithdrawals ids current next transaction now)).1
      (m.answer (.advanceWithdrawals ids current next transaction now)).2 := by
  have ends := reach.writes
    (show (StoreOp.advanceWithdrawals ids current next transaction now).IsWrite from trivial)
  generalize (m.answer (.advanceWithdrawals ids current next transaction now)).1 = r,
    (m.answer (.advanceWithdrawals ids current next transaction now)).2 = m' at ends ⊢
  cases ends with
  | invalid why => cases why
  | disabled off =>
    have unusable : m.disabled ≠ false := by
      rw [off]
      decide
    exact
      { granted := ⟨nofun, fun h => absurd h.1 unusable⟩
        count := nofun
        moved := nofun
        refused := fun on => absurd on unusable
        disabled := fun _ => ⟨rfl, rfl⟩ }
  | refused on why =>
    obtain ⟨mismatch, rfl⟩ := why
    have notAll : m.tables.ready current ids ≠ ids.toFinset := fun all =>
      mismatch (Tables.length_inStatus_eq_iff.2 all)
    refine
      { granted := ⟨nofun, fun h => absurd h.2 notAll⟩
        count := nofun
        moved := nofun
        refused := fun _ _ => ⟨?_, rfl⟩
        disabled := fun off => absurd off (ne_true_of_eq_false on) }
    rw [Tables.length_inStatus_eq_card, length_distinctAscending]
  | stopped _ _ reached => cases reached
  | kept on _ _ did =>
    obtain ⟨all, rfl, rfl⟩ := did
    have all : m.tables.ready current ids = ids.toFinset := Tables.length_inStatus_eq_iff.1 all
    refine
      { granted := ⟨fun _ => ⟨on, all⟩, fun _ => ⟨_, rfl⟩⟩
        count := ?_
        moved := fun _ _ =>
          ⟨Tables.moved_advance (reach.wellFormed on).withdrawals_keyed all, rfl⟩
        refused := fun _ notAll => absurd all notAll
        disabled := fun off => absurd off (ne_true_of_eq_false on) }
    intro n answered
    cases answered
    exact length_distinctAscending ids
  | outOfRange _ why => exact absurd trivial why

/-- Three withdrawals, one of them in work already. A batch that names this one after
another is refused, and so is one that names a withdrawal that there is not. The other
two are moved by a batch that names one of them twice. -/
theorem batch_moves_all_or_nothing_of_mixed_batches :
    let order (amount : Int) : Command := .request (.createWithdrawal ⟨1, "out", amount, ⟨0, 0⟩⟩)
    let m := empty.after
      [.request (.createUser ⟨"a@x", "addr", none, 300⟩ ⟨0, 0⟩),
        .request (.creditPartner ⟨.offertoro, "k", 1, 100, 0, ⟨0, 0⟩⟩),
        order 10, order 20, order 30,
        .request (.advanceWithdrawals [2] .pending .processing none ⟨5, 0⟩)]
    m.Reachable
      ∧ m.answer (.advanceWithdrawals [3, 2, 1, 3] .pending .processing none ⟨7, 0⟩)
        = (.refuse (.batchMismatch 3 2), m)
      ∧ m.answer (.advanceWithdrawals [1, -4] .pending .processing none ⟨7, 0⟩)
        = (.refuse (.batchMismatch 2 1), m)
      ∧ ∃ m', m.answer (.advanceWithdrawals [3, 1, 3] .pending .processed (some "tx") ⟨7, 0⟩)
          = (.ok 2, m')
        ∧ m.tables.Moved [3, 1, 3] .processed (some "tx") ⟨7, 0⟩ m'.tables := by
  intro order m
  have reach : m.Reachable := Reachable.empty.after _
  have late := (reach.batch_moves_all_or_nothing [3, 2, 1, 3] .pending .processing none
    ⟨7, 0⟩).refused (by decide +kernel) (by decide +kernel)
  have unknown := (reach.batch_moves_all_or_nothing [1, -4] .pending .processing none
    ⟨7, 0⟩).refused (by decide +kernel) (by decide +kernel)
  have whole := reach.batch_moves_all_or_nothing [3, 1, 3] .pending .processed (some "tx") ⟨7, 0⟩
  obtain ⟨n, answered⟩ := whole.granted.2 ⟨by decide +kernel, by decide +kernel⟩
  refine ⟨reach, Prod.ext (late.1.trans (by decide +kernel)) late.2,
    Prod.ext (unknown.1.trans (by decide +kernel)) unknown.2, _, Prod.ext ?_ rfl,
    (whole.moved n answered).1⟩
  rw [answered, whole.count n answered]
  rfl

/-- In a store that was disabled by a credit no batch is moved, although everything
that it names is ready. -/
theorem batch_unmoved_when_disabled :
    ¬ ∀ m : Memory, m.Reachable → ∀ (ids : List Int) (current next : WithdrawalStatus)
        (transaction : Option String) (now : Instant),
      ((∃ n, (m.answer (.advanceWithdrawals ids current next transaction now)).1 = .ok n)
        ↔ m.tables.ready current ids = ids.toFinset) := by
  intro h
  have overflown := Reachable.empty.after
    [.request (.createUser ⟨"a@x", "addr", none, 300⟩ ⟨0, 0⟩),
      .request (.creditPartner ⟨.offertoro, "k", 1, 100, 0, ⟨0, 0⟩⟩),
      .request (.createWithdrawal ⟨1, "out", 40, ⟨0, 0⟩⟩),
      .request (.creditPartner ⟨.offertoro, "l", 1, Amount.greatest, 0, ⟨0, 0⟩⟩)]
  obtain ⟨n, moved⟩ := (h _ overflown [1] .pending .processing none ⟨0, 0⟩).2 (by decide)
  cases moved

end Memory

end RewardLedger
