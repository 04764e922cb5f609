/-!
# Tables

A **table** holds rows under whole-number keys, at most one row to a key, in
ascending order of the keys. The order is part of the type, so two tables that
answer every look-up alike are the same table: restoring a row restores the
table.
-/

namespace RewardLedger

/-- Rows under ascending keys. -/
structure Table (ν : Type) where
  /-- The rows with their keys. -/
  rows : List (Int × ν)
  /-- The keys ascend strictly. -/
  ascending : rows.Pairwise fun a b => a.1 < b.1

namespace Table

variable {ν : Type}

instance [DecidableEq ν] : DecidableEq (Table ν) := fun a b =>
  if h : a.rows = b.rows then
    isTrue (by cases a; cases b; cases h; rfl)
  else
    isFalse (by intro e; exact h (congrArg rows e))

/-- The table without rows. -/
def empty : Table ν := ⟨[], .nil⟩

instance : EmptyCollection (Table ν) := ⟨empty⟩
instance : Inhabited (Table ν) := ⟨empty⟩

/-- Put a row into an ascending list, replacing the one under its key. -/
def insertRow (k : Int) (v : ν) : List (Int × ν) → List (Int × ν)
  | [] => [(k, v)]
  | (j, w) :: rest =>
    if k < j then (k, v) :: (j, w) :: rest
    else if j < k then (j, w) :: insertRow k v rest
    else (k, v) :: rest

theorem mem_insertRow {k : Int} {v : ν} {p : Int × ν} :
    ∀ {l : List (Int × ν)}, p ∈ insertRow k v l → p = (k, v) ∨ p ∈ l
  | [], h => by simp_all [insertRow]
  | (j, w) :: rest, h => by
    unfold insertRow at h
    split at h
    · simpa using h
    · split at h
      · rcases List.mem_cons.1 h with rfl | h
        · simp
        · rcases mem_insertRow h with h | h <;> simp [h]
      · rcases List.mem_cons.1 h with h | h <;> simp [h]

theorem pairwise_insertRow {k : Int} {v : ν} :
    ∀ {l : List (Int × ν)}, l.Pairwise (fun a b => a.1 < b.1) →
      (insertRow k v l).Pairwise fun a b => a.1 < b.1
  | [], _ => by simp [insertRow]
  | (j, w) :: rest, h => by
    rw [List.pairwise_cons] at h
    unfold insertRow
    split
    · next hk =>
      refine List.pairwise_cons.2 ⟨fun p hp => ?_, List.pairwise_cons.2 h⟩
      rcases List.mem_cons.1 hp with rfl | hp
      · exact hk
      · have := h.1 p hp
        simp only at this ⊢
        omega
    · split
      · next hk =>
        refine List.pairwise_cons.2 ⟨fun p hp => ?_, pairwise_insertRow h.2⟩
        rcases mem_insertRow hp with rfl | hp
        · exact hk
        · exact h.1 p hp
      · next h₁ h₂ =>
        have hkj : k = j := by omega
        subst hkj
        exact List.pairwise_cons.2 h

/-- Put a row under its key, replacing the one that was there. -/
def insert (t : Table ν) (k : Int) (v : ν) : Table ν :=
  ⟨insertRow k v t.rows, pairwise_insertRow t.ascending⟩

/-- Take away the row under a key, if there is one. -/
def erase (t : Table ν) (k : Int) : Table ν :=
  ⟨t.rows.filter fun p => p.1 ≠ k, t.ascending.filter _⟩

/-- The row under a key. -/
def get? (t : Table ν) (k : Int) : Option ν :=
  (t.rows.find? fun p => p.1 = k).map (·.2)

/-- The rows in ascending order of their keys. -/
def values (t : Table ν) : List ν := t.rows.map (·.2)

/-- The number of rows. -/
def size (t : Table ν) : Nat := t.rows.length

@[simp] theorem get?_empty (k : Int) : (∅ : Table ν).get? k = none := rfl

theorem find?_insertRow (k j : Int) (v : ν) :
    ∀ (l : List (Int × ν)), l.Pairwise (fun a b => a.1 < b.1) →
      ((insertRow k v l).find? fun p => p.1 = j).map (·.2)
        = if j = k then some v else (l.find? fun p => p.1 = j).map (·.2)
  | [], _ => by
    by_cases h : k = j
    · simp [insertRow, h]
    · simp [insertRow, h, Ne.symm h]
  | (i, w) :: rest, hp => by
    rw [List.pairwise_cons] at hp
    unfold insertRow
    split
    · next hk =>
      by_cases h : k = j
      · simp [h]
      · simp [h, Ne.symm h]
    · split
      · next hk =>
        by_cases hi : i = j
        · subst hi
          have : i ≠ k := by omega
          simp [this]
        · rw [List.find?_cons_of_neg (by simpa using hi), find?_insertRow k j v rest hp.2,
            List.find?_cons_of_neg (by simpa using hi)]
      · next h₁ h₂ =>
        have hki : k = i := by omega
        subst hki
        by_cases h : k = j
        · simp [h]
        · simp [h, Ne.symm h]

/-- A look-up after an insertion finds the new row under its key and the old
rows under all others. -/
@[simp] theorem get?_insert (t : Table ν) (k j : Int) (v : ν) :
    (t.insert k v).get? j = if j = k then some v else t.get? j :=
  find?_insertRow k j v t.rows t.ascending

@[simp] theorem get?_erase (t : Table ν) (k j : Int) :
    (t.erase k).get? j = if j = k then none else t.get? j := by
  unfold get? erase
  rw [List.find?_filter]
  by_cases h : j = k
  · subst h
    rw [List.find?_eq_none.2 (by intro x _; simp)]
    simp
  · rw [if_neg h]
    congr 2
    funext p
    by_cases hp : p.1 = j
    · simp [hp, h]
    · simp [hp]

end Table

end RewardLedger
