import Mathlib.Data.List.Induction
import RewardLedger.Proofs.Database.Basic
import RewardLedger.Proofs.Store.Run

/-!
# The same rows in a database and in memory

A database holds what the tables of a store in memory hold if each relation has
the rows of the table, in whatever order (`Relations.Holds`). What a query gives
is then what the tables give: a query that names an order puts the rows into the
one order that they have in the table, and a query that names none is for one
row at most.

Policies and bands have no identifiers in memory. There the order in which they
were added is the order of the list, and the database has it in its identifiers
(`Relations.Numbers`).
-/

namespace RewardLedger

theorem Instant.eq_of_le {a b : Instant} (hab : a ≤ b) (hba : b ≤ a) : a = b := by
  obtain ⟨s, n⟩ := a
  obtain ⟨s', n'⟩ := b
  simp only [Instant.le_iff] at hab hba
  have hs : s = s' := by omega
  have hn : n = n' := by omega
  rw [hs, hn]

namespace Relations

/-! ## Orders -/

section Order

variable {ρ : Type} {key : ρ → Int} {rows inOrder : List ρ}

/-- Rows whose keys ascend are told apart by their keys. -/
theorem eq_of_key (ascends : inOrder.Pairwise fun a b => key a < key b) {a b : ρ}
    (ha : a ∈ inOrder) (hb : b ∈ inOrder) (same : key a = key b) : a = b := by
  by_contra other
  let _ : Std.Symm fun a b : ρ => key a ≠ key b := ⟨fun _ _ h => h.symm⟩
  exact (ascends.imp Int.ne_of_lt).forall ha hb other same

/-- **To sort rows** is to put them into the order that they have. -/
theorem ascending_eq (same : rows.Perm inOrder)
    (ascends : inOrder.Pairwise fun a b => key a < key b) : ascending key rows = inOrder := by
  have sorted := @List.pairwise_mergeSort ρ (fun a b => decide (key a ≤ key b))
    (by simp only [decide_eq_true_eq]; omega)
    (by simp only [Bool.or_eq_true, decide_eq_true_eq]; omega) rows
  refine List.Perm.eq_of_pairwise (fun a b ha hb hab hba => ?_) sorted
    (ascends.imp fun h => decide_eq_true (Int.le_of_lt h)) ((List.mergeSort_perm _ _).trans same)
  have hab := of_decide_eq_true hab
  have hba := of_decide_eq_true hba
  exact eq_of_key ascends (same.mem_iff.1 (List.mem_mergeSort.1 ha)) hb (by omega)

/-- To sort rows the other way is to reverse that order. -/
theorem descending_eq (same : rows.Perm inOrder)
    (ascends : inOrder.Pairwise fun a b => key a < key b) :
    descending key rows = inOrder.reverse := by
  have sorted := @List.pairwise_mergeSort ρ (fun a b => decide (key b ≤ key a))
    (by simp only [decide_eq_true_eq]; omega)
    (by simp only [Bool.or_eq_true, decide_eq_true_eq]; omega) rows
  refine List.Perm.eq_of_pairwise (fun a b ha hb hab hba => ?_) sorted
    (List.pairwise_reverse.2 (ascends.imp fun h => decide_eq_true (Int.le_of_lt h)))
    (((List.mergeSort_perm _ _).trans same).trans (List.reverse_perm _).symm)
  have hab := of_decide_eq_true hab
  have hba := of_decide_eq_true hba
  exact eq_of_key ascends (same.mem_iff.1 (List.mem_mergeSort.1 ha)) (List.mem_reverse.1 hb)
    (by omega)

end Order

/-- The rows are the items under identifiers that ascend with them. -/
def Numbers {α : Type} (rows : List (Int × α)) (items : List α) : Prop :=
  ∃ inOrder : List (Int × α), rows.Perm inOrder ∧ inOrder.Pairwise (fun a b => a.1 < b.1)
    ∧ inOrder.map Prod.snd = items

/-- Rows that satisfy a condition come in the order of the items. -/
theorem Numbers.ascending {α : Type} {rows : List (Int × α)} {items : List α}
    (h : Numbers rows items) (p : α → Prop) [DecidablePred p] :
    (Relations.ascending Prod.fst (rows.filter fun row => p row.2)).map Prod.snd
      = items.filter fun a => p a := by
  obtain ⟨inOrder, same, ascends, rfl⟩ := h
  rw [ascending_eq (same.filter _) (ascends.filter _), List.filter_map]
  rfl

/-! ## The latest policy -/

section Latest

variable {a b c : Int × RewardPolicy}

theorem Precedes.refl (a : Int × RewardPolicy) : Precedes a a := .inr ⟨rfl, Int.le_refl _⟩

theorem Precedes.trans (hab : Precedes a b) (hbc : Precedes b c) : Precedes a c := by
  rcases hab with hab | ⟨eqab, hab⟩ <;> rcases hbc with hbc | ⟨eqbc, hbc⟩
  · refine .inl fun hac => hab ?_
    exact Instant.le_trans hac ((Instant.le_total _ _).resolve_right hbc)
  · exact .inl (eqbc ▸ hab)
  · exact .inl (eqab ▸ hbc)
  · exact .inr ⟨eqab.trans eqbc, Int.le_trans hbc hab⟩

theorem Precedes.total (a b : Int × RewardPolicy) : Precedes a b ∨ Precedes b a := by
  by_cases hab : a.2.createdAt ≤ b.2.createdAt
  · by_cases hba : b.2.createdAt ≤ a.2.createdAt
    · have same := Instant.eq_of_le hab hba
      exact (Int.le_total b.1 a.1).imp (fun h => .inr ⟨same, h⟩) fun h => .inr ⟨same.symm, h⟩
    · exact .inr (.inl hba)
  · exact .inl (.inl hab)

/-- Two policies that come one before the other have one identifier. -/
theorem Precedes.antisymm (hab : Precedes a b) (hba : Precedes b a) : a.1 = b.1 := by
  rcases hab with hab | ⟨eqab, hab⟩ <;> rcases hba with hba | ⟨eqba, hba⟩
  · exact ((Instant.le_total _ _).elim hab hba).elim
  · exact (hab (eqba ▸ Instant.le_refl _)).elim
  · exact (hba (eqab ▸ Instant.le_refl _)).elim
  · exact Int.le_antisymm hba hab

/-- The policy that is kept while a list is gone through is one that no other
comes before. -/
theorem exists_latest (inOrder : List (Int × RewardPolicy))
    (ascends : inOrder.Pairwise fun a b => a.1 < b.1) :
    let latest := (inOrder.map Prod.snd).foldl
      (fun best p => some ((best.map (Tables.later · p)).getD p)) none
    (inOrder = [] ∧ latest = none)
      ∨ ∃ b ∈ inOrder, latest = some b.2 ∧ ∀ a ∈ inOrder, Precedes b a := by
  -- on the list from its end: the last policy wins unless it is older
  induction inOrder using List.reverseRecOn with
  | nil => exact .inl ⟨rfl, rfl⟩
  | append_singleton before p ih =>
    obtain ⟨ascends, -, last⟩ := List.pairwise_append.1 ascends
    have last : ∀ a ∈ before, a.1 < p.1 := fun a ha => last a ha p List.mem_cons_self
    right
    rw [List.map_append, List.foldl_append]
    rcases ih ascends with ⟨rfl, none⟩ | ⟨b, hb, some, first⟩
    · exact ⟨p, by simp, rfl, by simp [Precedes.refl]⟩
    · have step : Tables.later b.2 p.2 = if b.2.createdAt ≤ p.2.createdAt then p.2 else b.2 := rfl
      by_cases later : b.2.createdAt ≤ p.2.createdAt
      · refine ⟨p, by simp, ?_, fun a ha => ?_⟩
        · rw [some]
          exact congrArg Option.some (step.trans (if_pos later))
        · rcases List.mem_append.1 ha with ha | ha
          · have atLeast : a.2.createdAt ≤ p.2.createdAt := by
              rcases first a ha with newer | ⟨same, -⟩
              · exact Instant.le_trans ((Instant.le_total _ _).resolve_left newer) later
              · exact same ▸ later
            by_cases same : p.2.createdAt ≤ a.2.createdAt
            · exact .inr ⟨Instant.eq_of_le same atLeast, Int.le_of_lt (last a ha)⟩
            · exact .inl same
          · cases List.mem_singleton.1 ha
            exact .refl p
      · refine ⟨b, List.mem_append_left _ hb, ?_, fun a ha => ?_⟩
        · rw [some]
          exact congrArg Option.some (step.trans (if_neg later))
        · rcases List.mem_append.1 ha with ha | ha
          · exact first a ha
          · cases List.mem_singleton.1 ha
            exact .inl later

/-- **The first policy, the latest first**, is the one that was set last. -/
theorem Numbers.latest {rows : List (Int × RewardPolicy)} {t : Tables}
    (h : Numbers rows t.policies) :
    ((rows.mergeSort fun a b => Precedes a b).take 1).map Prod.snd = t.latestPolicy?.toList := by
  obtain ⟨inOrder, same, ascends, items⟩ := h
  have sorted := @List.pairwise_mergeSort _ (fun a b => decide (Precedes a b))
    (by simpa only [decide_eq_true_eq] using fun a b c => Precedes.trans)
    (by simpa only [Bool.or_eq_true, decide_eq_true_eq] using Precedes.total) rows
  have perm := (List.mergeSort_perm rows fun a b => decide (Precedes a b)).trans same
  unfold Tables.latestPolicy?
  rw [← items]
  rcases exists_latest inOrder ascends with ⟨rfl, none⟩ | ⟨b, hb, some, first⟩
  · rw [none, perm.eq_nil]
    rfl
  · rw [some]
    have there := perm.mem_iff.2 hb
    generalize rows.mergeSort (fun a b => decide (Precedes a b)) = list at sorted perm there
    cases list with
    | nil => cases there
    | cons top rest =>
      have among : top ∈ inOrder := perm.mem_iff.1 List.mem_cons_self
      have before : Precedes top b := by
        rcases List.mem_cons.1 there with rfl | there
        · exact .refl b
        · exact of_decide_eq_true (List.rel_of_pairwise_cons sorted there)
      have same : top = b :=
        @eq_of_key _ Prod.fst _ ascends _ _ among hb (before.antisymm (first top among))
      rw [same]
      rfl

end Latest

/-! ## What a database holds -/

/-- **The relations hold what the tables hold**, and what the schema allows. -/
structure Holds (r : Relations) (t : Tables) : Prop where
  users : r.users.Perm t.users.values
  incomes : r.incomes.Perm t.incomes
  withdrawals : r.withdrawals.Perm t.withdrawals.values
  dayTotals : ∀ day total, ⟨day, total⟩ ∈ r.dayTotals ↔ t.dayTotals.get? day.number = some total
  policies : Numbers r.policies t.policies
  bands : Numbers r.bands t.bands
  events : ∀ e relation, e.source.eventTable? = some relation →
    ((∃ row ∈ r.events, row.IsOf relation e.key e.user) ↔ e ∈ t.events)
  /-- The balances pass the check of their relation. -/
  balances : ∀ u ∈ r.users, 0 ≤ u.balance

namespace Holds

variable {r : Relations} {t : Tables} (h : r.Holds t)

include h

/-! ## What a query gives -/

section Users

variable (keyed : t.UsersKeyed)

include keyed

/-- The users are those of the table. -/
theorem mem_users {u : User} : u ∈ r.users ↔ t.users.get? u.id = some u :=
  h.users.mem_iff.trans (Table.mem_values_iff_of_keyed keyed)

/-- A user is there if the table has the row. -/
theorem exists_user {k : Int} : (∃ u ∈ r.users, u.id = k) ↔ ∃ u, t.users.get? k = some u := by
  constructor
  · rintro ⟨u, hu, rfl⟩
    exact ⟨u, (h.mem_users keyed).1 hu⟩
  · rintro ⟨u, hu⟩
    have hk : u.id = k := keyed k u hu
    exact ⟨u, (h.mem_users keyed).2 (hk ▸ hu), hk⟩

/-- The users with an identifier are the row under it. -/
theorem filter_user (k : Int) : r.users.filter (·.id = k) = (t.users.get? k).toList :=
  Table.eq_toList_of_perm (Table.filter_values keyed k ▸ h.users.filter _)

/-- The users that satisfy a condition come in the order of the table. -/
theorem ascending_users (p : User → Prop) [DecidablePred p] :
    ascending (·.id) (r.users.filter fun u => p u) = t.users.values.filter fun u => p u :=
  ascending_eq (h.users.filter _) ((Table.pairwise_values keyed).filter _)

end Users

section Withdrawals

variable (keyed : t.WithdrawalsKeyed) (p : Withdrawal → Prop) [DecidablePred p]

include keyed

theorem ascending_withdrawals : ascending (·.id) (r.withdrawals.filter fun w => p w)
    = t.withdrawals.values.filter fun w => p w :=
  ascending_eq (h.withdrawals.filter _) ((Table.pairwise_values keyed).filter _)

theorem descending_withdrawals : descending (·.id) (r.withdrawals.filter fun w => p w)
    = (t.withdrawals.values.filter fun w => p w).reverse :=
  descending_eq (h.withdrawals.filter _) ((Table.pairwise_values keyed).filter _)

end Withdrawals

/-- The condition for an income is that it matches. -/
theorem filter_incomes (user : Int) (source : Option IncomeSource) :
    (r.incomes.filter fun i => i.user = user ∧ (source = none ∨ source = some i.source)).Perm
      (t.incomesOf user source) := by
  refine (h.incomes.filter _).trans (List.Perm.of_eq (List.filter_congr fun i _ => ?_))
  refine decide_eq_decide.2 (and_congr_right fun _ => ?_)
  cases source with
  | none => simp
  | some s => simp [eq_comm]

/-- The total of a day is that of the row, if there is one. -/
theorem head?_dayTotals (day : Day) :
    ((r.dayTotals.filter (·.day = day)).head?.map (·.total)) = t.dayTotals.get? day.number := by
  cases found : (r.dayTotals.filter (·.day = day)).head? with
  | none =>
    have none := List.head?_eq_none_iff.1 found
    cases there : t.dayTotals.get? day.number with
    | none => rfl
    | some total =>
      have among : ⟨day, total⟩ ∈ r.dayTotals.filter (·.day = day) :=
        List.mem_filter.2 ⟨(h.dayTotals day total).2 there, decide_eq_true rfl⟩
      rw [none] at among
      cases among
  | some row =>
    obtain ⟨among, same⟩ := List.mem_filter.1 (List.mem_of_head? found)
    obtain ⟨day', total⟩ := row
    cases of_decide_eq_true same
    exact ((h.dayTotals _ total).1 among).symm

end Holds

end Relations

end RewardLedger
