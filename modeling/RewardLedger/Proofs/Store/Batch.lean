import RewardLedger.Proofs.Store.Contract
import RewardLedger.Proofs.Store.Rollback
import RewardLedger.Proofs.Store.Steps

/-!
# Moving a batch of withdrawals

A batch is moved one withdrawal after the other, and the unit is refused at the
end if one of them was not in the status it was expected in. Because the
members of the batch are distinct, the order does not matter and no withdrawal
is seen twice: moving them one by one comes to moving all of them at once
(`Tables.advance`).
-/

namespace RewardLedger

/-- A list without its repetitions has none. -/
theorem nodup_eraseDups (ids : List Int) : ids.eraseDups.Nodup := by
  cases ids with
  | nil => exact List.nodup_nil
  | cons id rest =>
    rw [List.eraseDups_cons, List.nodup_cons]
    refine ⟨fun hmem => ?_, nodup_eraseDups _⟩
    have hne := (List.mem_filter.1 (List.mem_eraseDups.1 hmem)).2
    simp at hne
termination_by ids.length
decreasing_by exact Nat.lt_succ_of_le (List.length_filter_le _ _)

/-- The members of a batch are distinct. -/
theorem nodup_distinctAscending (ids : List Int) : (distinctAscending ids).Nodup :=
  nodup_eraseDups _

/-- A list without its repetitions is left of the list. -/
theorem eraseDups_sublist (ids : List Int) : ids.eraseDups.Sublist ids := by
  cases ids with
  | nil => exact List.Sublist.refl _
  | cons id rest =>
    rw [List.eraseDups_cons]
    exact ((eraseDups_sublist _).trans List.filter_sublist).cons_cons id
termination_by ids.length
decreasing_by exact Nat.lt_succ_of_le (List.length_filter_le _ _)

/-- The members of a batch ascend. -/
theorem pairwise_distinctAscending (ids : List Int) :
    (distinctAscending ids).Pairwise fun a b => a < b := by
  have ordered : (ids.mergeSort (· ≤ ·)).Pairwise fun a b => a ≤ b := by
    refine (List.pairwise_mergeSort ?_ ?_ ids).imp of_decide_eq_true
    · intro a b c hab hbc
      exact decide_eq_true (Int.le_trans (of_decide_eq_true hab) (of_decide_eq_true hbc))
    · intro a b
      rw [Bool.or_eq_true, decide_eq_true_eq, decide_eq_true_eq]
      exact Int.le_total a b
  refine List.Pairwise.imp₂ (fun _ _ le ne => Int.lt_iff_le_and_ne.2 ⟨le, ne⟩)
    (ordered.sublist (eraseDups_sublist _)) (nodup_distinctAscending ids)

/-- A batch has the members that were named. -/
theorem mem_distinctAscending {ids : List Int} {id : Int} :
    id ∈ distinctAscending ids ↔ id ∈ ids := by
  rw [distinctAscending, List.mem_eraseDups, List.mem_mergeSort]

/-- A batch is the one list that ascends and has the members that were named. -/
theorem distinctAscending_eq {ids batch : List Int} (ascending : batch.Pairwise (· < ·))
    (members : ∀ id, id ∈ batch ↔ id ∈ ids) : distinctAscending ids = batch := by
  have distinct : batch.Nodup := ascending.imp Int.ne_of_lt
  have same : (distinctAscending ids).Perm batch :=
    (List.perm_ext_iff_of_nodup (nodup_distinctAscending ids) distinct).2 fun id =>
      mem_distinctAscending.trans (members id).symm
  exact same.eq_of_pairwise (fun _ _ _ _ before after => absurd after (Int.lt_asymm before))
    (pairwise_distinctAscending ids) ascending

namespace Tables

/-- Withdrawals stay under their identifiers when one is put. -/
theorem WithdrawalsKeyed.insert {t : Tables} (keyed : t.WithdrawalsKeyed) (x : Withdrawal) :
    { t with withdrawals := t.withdrawals.insert x.id x }.WithdrawalsKeyed :=
  Table.keyed_insert keyed x

variable {t : Tables} {id : Int} {ids : List Int} {current next : WithdrawalStatus}
  {transaction : Option String} {now : Instant} {x : Withdrawal}

/-- An empty batch moves nothing. -/
theorem advance_nil : t.advance [] current next transaction now = t := by
  have hsame : t.withdrawals.map (·.advancedIn [] current next transaction now)
      = t.withdrawals := by
    refine Table.ext_get? fun k => ?_
    rw [Table.get?_map]
    cases t.withdrawals.get? k with
    | none => rfl
    | some w => exact congrArg some (if_neg fun h => List.not_mem_nil h.1)
  unfold advance
  rw [hsame]

/-- A withdrawal that is not in the status is not moved. -/
theorem advance_cons_of_none (keyed : t.WithdrawalsKeyed)
    (hx : (t.withdrawals.get? id).filter (·.status = current) = none) :
    t.advance (id :: ids) current next transaction now
      = t.advance ids current next transaction now := by
  unfold advance
  refine congrArg (fun ws => { t with withdrawals := ws }) (Table.ext_get? fun k => ?_)
  rw [Table.get?_map, Table.get?_map]
  refine Option.map_congr fun w hw => ?_
  have hne : w.id = id → w.status ≠ current := by
    intro hid hs
    rw [← hid, keyed k w hw, hw, Option.filter_eq_none_iff] at hx
    exact hx w rfl (decide_eq_true hs)
  refine if_congr ⟨fun h => ⟨?_, h.2⟩, fun h => ⟨List.mem_cons_of_mem id h.1, h.2⟩⟩ rfl rfl
  exact (List.mem_cons.1 h.1).resolve_left fun hid => hne hid h.2

/-- A withdrawal that is in the status is moved, and the rest of the batch
after it. -/
theorem advance_cons_of_some (keyed : t.WithdrawalsKeyed) (hnew : id ∉ ids)
    (hx : (t.withdrawals.get? id).filter (·.status = current) = some x) :
    t.advance (id :: ids) current next transaction now
      = { t with
          withdrawals := t.withdrawals.insert x.id (x.advanced next transaction now)
        }.advance ids current next transaction now := by
  obtain ⟨hget, hs⟩ := Option.filter_eq_some_iff.1 hx
  rw [decide_eq_true_eq] at hs
  have hid : x.id = id := keyed id x hget
  unfold advance
  refine congrArg (fun ws => { t with withdrawals := ws }) (Table.ext_get? fun k => ?_)
  rw [Table.get?_map, Table.get?_map, Table.get?_insert]
  by_cases hk : k = x.id
  · have hpos : x.advancedIn (id :: ids) current next transaction now
        = x.advanced next transaction now := if_pos ⟨hid ▸ List.mem_cons_self, hs⟩
    -- once moved it is not among the rest of the batch, and is left alone
    have hneg : (x.advanced next transaction now).advancedIn ids current next transaction now
        = x.advanced next transaction now := if_neg fun h => hnew (hid ▸ h.1)
    rw [if_pos hk, hk, hid, hget, Option.map_some, Option.map_some, hpos, hneg]
  · rw [if_neg hk]
    refine Option.map_congr fun w hw => ?_
    have hne : w.id ≠ id := by
      rw [keyed k w hw, ← hid]
      exact hk
    refine if_congr (and_congr_left fun _ => ?_) rfl rfl
    rw [List.mem_cons, or_iff_right hne]

/-- A member of a batch that is in the status is moved. -/
theorem get?_advance_of_mem (keyed : t.WithdrawalsKeyed) (named : id ∈ ids)
    (hx : t.withdrawals.get? id = some x) (status : x.status = current) :
    (t.advance ids current next transaction now).withdrawals.get? id
      = some (x.advanced next transaction now) := by
  have member : x.id ∈ ids := by rwa [keyed id x hx]
  show (t.withdrawals.map _).get? id = _
  rw [Table.get?_map, hx]
  exact congrArg some (if_pos ⟨member, status⟩)

/-- What a batch does not name is left as it was. -/
theorem get?_advance_of_not_mem (keyed : t.WithdrawalsKeyed) (other : id ∉ ids) :
    (t.advance ids current next transaction now).withdrawals.get? id
      = t.withdrawals.get? id := by
  show (t.withdrawals.map _).get? id = _
  rw [Table.get?_map]
  cases hw : t.withdrawals.get? id with
  | none => rfl
  | some w => exact congrArg some (if_neg fun h => other (keyed id w hw ▸ h.1))

theorem inStatus_cons_of_none
    (hx : (t.withdrawals.get? id).filter (·.status = current) = none) :
    t.inStatus current (id :: ids) = t.inStatus current ids := by
  refine List.filter_cons_of_neg ?_
  rw [hx]
  exact Bool.false_ne_true

theorem inStatus_cons_of_some
    (hx : (t.withdrawals.get? id).filter (·.status = current) = some x) :
    t.inStatus current (id :: ids) = id :: t.inStatus current ids := by
  refine List.filter_cons_of_pos ?_
  rw [hx]
  rfl

/-- A withdrawal that was moved does not change which others are in the
status. -/
theorem inStatus_insert (hnew : id ∉ ids) (y : Withdrawal) :
    { t with withdrawals := t.withdrawals.insert id y }.inStatus current ids
      = t.inStatus current ids := by
  refine List.filter_congr fun k hk => ?_
  have hne : k ≠ id := fun h => hnew (h ▸ hk)
  rw [Table.get?_insert, if_neg hne]

end Tables

namespace UnitStep

/-- **A batch is moved member by member.** -/
theorem run_advanceEach {t₀ : Tables} (current next : WithdrawalStatus)
    (transaction : Option String) (now : Instant) (armed : Option FailPoint)
    (ids : List Int) (distinct : ids.Nodup) (w : WriteUnit) (began : w.BeganOn t₀)
    (keyed : w.tables.WithdrawalsKeyed) :
    ∃ w' : WriteUnit, (advanceEach current next transaction now ids).run ⟨w, armed⟩
        = (.ok (w.tables.inStatus current ids).length, ⟨w', armed⟩)
      ∧ w'.BeganOn t₀
      ∧ w'.tables = w.tables.advance ids current next transaction now := by
  -- on the batch, for every unit on the way: each member leaves another one behind
  induction ids generalizing w with
  | nil =>
    refine ⟨w, rfl, began, ?_⟩
    rw [Tables.advance_nil]
  | cons id rest ih =>
    obtain ⟨hnew, hrest⟩ := List.nodup_cons.1 distinct
    cases hx : (w.tables.withdrawals.get? id).filter (·.status = current) with
    | none =>
      obtain ⟨w', hrun, hw', htables⟩ := ih hrest w began keyed
      refine ⟨w', ?_, hw', ?_⟩
      · simp only [advanceEach, run_bind, run_tables, hx]
        rw [hrun, Tables.inStatus_cons_of_none hx]
      · rw [htables, Tables.advance_cons_of_none keyed hx]
    | some x =>
      have hid : x.id = id := keyed id x (Option.filter_eq_some_iff.1 hx).1
      let y := x.advanced next transaction now
      have hkeyed : (w.putWithdrawal y).tables.WithdrawalsKeyed := keyed.insert y
      obtain ⟨w', hrun, hw', htables⟩ :=
        ih hrest (w.putWithdrawal y) (began.putWithdrawal y) hkeyed
      have hcount : (w.putWithdrawal y).tables.inStatus current rest
          = w.tables.inStatus current rest := Tables.inStatus_insert (hid ▸ hnew) y
      refine ⟨w', ?_, hw', ?_⟩
      · have hrun' : (advanceEach current next transaction now rest).run
            ⟨w.putWithdrawal { x with
              status := next
              transaction := transaction.or x.transaction
              updatedAt := now }, armed⟩ = _ := hrun
        simp only [advanceEach, run_bind, run_tables, hx, run_write, hrun', run_pure]
        rw [hcount, Tables.inStatus_cons_of_some hx, List.length_cons]
      · rw [htables, Tables.advance_cons_of_some keyed hnew hx]
        rfl

/-- **A batch is moved as a whole** if all of its members are in the status they
are expected in, and refused otherwise. -/
theorem run_advance {t : Tables} (keyed : t.WithdrawalsKeyed) {ids batch : List Int}
    (hbatch : distinctAscending ids = batch) (current next : WithdrawalStatus)
    (transaction : Option String) (now : Instant) (armed : Option FailPoint) :
    ∃ w : WriteUnit, w.BeganOn t
      ∧ w.tables = t.advance batch current next transaction now
      ∧ (advance ids current next transaction now).run ⟨.start t, armed⟩
        = if (t.inStatus current batch).length = batch.length then
            (.ok batch.length, ⟨w, armed⟩)
          else
            (.error (.error (.batchMismatch batch.length (t.inStatus current batch).length)),
              ⟨w, armed⟩) := by
  have hdistinct : batch.Nodup := hbatch ▸ nodup_distinctAscending ids
  obtain ⟨w, hrun, hw, htables⟩ :=
    run_advanceEach current next transaction now armed batch hdistinct (.start t)
      (WriteUnit.beganOn_start t) keyed
  rw [WriteUnit.tables_start] at hrun
  refine ⟨w, hw, htables, ?_⟩
  simp only [advance, run_bind, hbatch, hrun]
  by_cases hall : (t.inStatus current batch).length = batch.length
  · rw [if_pos hall, if_neg (not_not_intro hall), hall]
    rfl
  · rw [if_neg hall, if_pos hall]
    rfl

end UnitStep

end RewardLedger
