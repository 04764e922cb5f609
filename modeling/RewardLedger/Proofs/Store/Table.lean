import Mathlib.Data.List.Pairwise
import RewardLedger.Store.Table

/-!
# Tables as finite maps

A table keeps its rows in ascending order of their keys, and the order is part
of its type. Two tables that answer every look-up alike are therefore one
table (`Table.ext_get?`), and an equation between tables can be proved by
looking up one key: that is how writing a row and taking it back is seen to
change nothing, and how a change of several rows is seen to be a change of
every row by one function (`Table.map`).
-/

namespace RewardLedger.Table

variable {ν μ : Type}

/-! ## Rows and look-ups -/

/-- Two rows under one key are the same row. -/
theorem row_unique (t : Table ν) {a b : Int × ν} (ha : a ∈ t.rows) (hb : b ∈ t.rows)
    (hk : a.1 = b.1) : a = b := by
  by_contra hne
  have hlt : t.rows.Pairwise fun a b => a.1 ≠ b.1 := t.ascending.imp Int.ne_of_lt
  let _ : Std.Symm fun a b : Int × ν => a.1 ≠ b.1 := ⟨fun _ _ h => h.symm⟩
  exact hlt.forall ha hb hne hk

/-- A row of the table is what a look-up under its key finds. -/
theorem mem_rows_iff {t : Table ν} {k : Int} {v : ν} :
    (k, v) ∈ t.rows ↔ t.get? k = some v := by
  unfold get?
  rw [Option.map_eq_some_iff]
  constructor
  · intro h
    obtain ⟨p, hp⟩ : ∃ p, t.rows.find? (fun p => p.1 = k) = some p := by
      rw [← Option.isSome_iff_exists, List.find?_isSome]
      exact ⟨(k, v), h, by simp⟩
    have hk : p.1 = k := by simpa using List.find?_some hp
    refine ⟨p, hp, ?_⟩
    rw [row_unique t (List.mem_of_find?_eq_some hp) h hk]
  · rintro ⟨⟨j, w⟩, hp, rfl⟩
    have hk : j = k := by simpa using List.find?_some hp
    exact hk ▸ List.mem_of_find?_eq_some hp

/-- The rows in order are what look-ups find. -/
theorem mem_values_iff {t : Table ν} {v : ν} :
    v ∈ t.values ↔ ∃ k, t.get? k = some v := by
  simp only [values, List.mem_map, Prod.exists, exists_eq_right, mem_rows_iff]

/-- **Two tables that answer every look-up alike are the same table.** -/
theorem ext_get? {a b : Table ν} (h : ∀ k, a.get? k = b.get? k) : a = b := by
  have hnodup : ∀ t : Table ν, t.rows.Nodup := by
    intro t
    refine t.ascending.imp ?_
    rintro p _ hab rfl
    exact Int.lt_irrefl _ hab
  have hmem : ∀ p, p ∈ a.rows ↔ p ∈ b.rows := by
    rintro ⟨k, v⟩
    rw [mem_rows_iff, mem_rows_iff, h k]
  have hperm : a.rows.Perm b.rows :=
    (List.perm_ext_iff_of_nodup (hnodup a) (hnodup b)).2 hmem
  have hrows : a.rows = b.rows :=
    hperm.eq_of_pairwise (fun p q _ _ hpq hqp => absurd hpq (Int.lt_asymm hqp))
      a.ascending b.ascending
  cases a
  cases b
  cases hrows
  rfl

/-! ## Rows that know their key -/

/-- One row at most is in order. -/
theorem eq_toList_of_perm {row : Option ν} {rows : List ν} (h : rows.Perm row.toList) :
    rows = row.toList := by
  cases row with
  | none => exact h.eq_nil
  | some v => exact h.eq_singleton

section Keyed

variable {key : ν → Int} {t : Table ν} (keyed : ∀ k v, t.get? k = some v → key v = k)

include keyed

/-- Rows that know their key are in its order. -/
theorem pairwise_values : t.values.Pairwise fun a b => key a < key b := by
  have keys : ∀ p ∈ t.rows, key p.2 = p.1 := fun p hp => keyed p.1 p.2 (mem_rows_iff.1 hp)
  refine List.pairwise_map.2 (t.ascending.imp_of_mem fun {p q} hp hq hlt => ?_)
  rw [keys p hp, keys q hq]
  exact hlt

/-- Rows know their key when one more of them is put under its own. -/
theorem keyed_insert (v : ν) (k : Int) (w : ν) (hw : (t.insert (key v) v).get? k = some w) :
    key w = k := by
  rw [get?_insert] at hw
  split at hw
  · next hk => rw [hk, Option.some.inj hw]
  · exact keyed k w hw

/-- A row that knows its key is found under it. -/
theorem mem_values_iff_of_keyed {v : ν} : v ∈ t.values ↔ t.get? (key v) = some v := by
  rw [mem_values_iff]
  constructor
  · rintro ⟨k, hv⟩
    rwa [keyed k v hv]
  · exact fun hv => ⟨_, hv⟩

/-- The rows with a key are the row under it. -/
theorem filter_values (k : Int) :
    t.values.filter (fun v => key v = k) = (t.get? k).toList := by
  have distinct : t.values.Nodup := by
    refine (pairwise_values keyed).imp ?_
    rintro a _ hlt rfl
    exact Int.lt_irrefl _ hlt
  have members : ∀ v, v ∈ t.values.filter (fun v => key v = k) ↔ v ∈ (t.get? k).toList := by
    intro v
    rw [List.mem_filter, mem_values_iff_of_keyed keyed, decide_eq_true_eq, Option.mem_toList]
    constructor
    · rintro ⟨hv, rfl⟩
      exact hv
    · intro hv
      have hk := keyed k v hv
      exact ⟨hk ▸ hv, hk⟩
  refine eq_toList_of_perm ((List.perm_ext_iff_of_nodup (distinct.filter _) ?_).2 members)
  cases t.get? k with
  | none => exact List.nodup_nil
  | some v => exact List.pairwise_singleton _ v

end Keyed

/-! ## Writing a row and taking it back -/

/-- Putting back the row that is there changes nothing. -/
theorem insert_of_get? {t : Table ν} {k : Int} {v : ν} (h : t.get? k = some v) :
    t.insert k v = t := by
  refine ext_get? fun j => ?_
  rw [get?_insert]
  split
  · next hj => rw [hj, h]
  · rfl

/-- Of two rows put under one key the second stays. -/
@[simp] theorem insert_insert (t : Table ν) (k : Int) (v w : ν) :
    (t.insert k v).insert k w = t.insert k w := by
  refine ext_get? fun j => ?_
  simp only [get?_insert]
  split <;> rfl

/-- Taking away a row that was put under a free key changes nothing. -/
theorem erase_insert {t : Table ν} {k : Int} (v : ν) (h : t.get? k = none) :
    (t.insert k v).erase k = t := by
  refine ext_get? fun j => ?_
  rw [get?_erase, get?_insert]
  split
  · next hj => rw [hj, h]
  · rfl

/-- Put back what was found under a key: a row, or that there is none. -/
def putBack (t : Table ν) (k : Int) : Option ν → Table ν
  | none => t.erase k
  | some v => t.insert k v

/-- **A row that is put and taken back** leaves the table as it was. -/
theorem putBack_insert (t : Table ν) (k : Int) (v : ν) :
    (t.insert k v).putBack k (t.get? k) = t := by
  cases before : t.get? k with
  | none => exact erase_insert v before
  | some w =>
    show (t.insert k v).insert k w = t
    rw [insert_insert, insert_of_get? before]

/-! ## Changing every row -/

/-- The table with every row changed by one function. -/
def map (f : ν → μ) (t : Table ν) : Table μ :=
  ⟨t.rows.map fun p => (p.1, f p.2), List.pairwise_map.2 t.ascending⟩

/-- A look-up in a changed table finds the changed row. -/
@[simp] theorem get?_map (f : ν → μ) (t : Table ν) (k : Int) :
    (t.map f).get? k = (t.get? k).map f := by
  unfold get? map
  rw [List.find?_map, Option.map_map, Option.map_map]
  rfl

/-- A row of a changed table is a row that was changed. -/
theorem get?_map_eq_some_iff {f : ν → μ} {t : Table ν} {k : Int} {w : μ} :
    (t.map f).get? k = some w ↔ ∃ v, t.get? k = some v ∧ f v = w := by
  rw [get?_map, Option.map_eq_some_iff]

/-- A changed table has rows under the same keys. -/
theorem get?_map_eq_none_iff {f : ν → μ} {t : Table ν} {k : Int} :
    (t.map f).get? k = none ↔ t.get? k = none := by
  rw [get?_map, Option.map_eq_none_iff]

/-- The rows of a changed table, in order. -/
@[simp] theorem values_map (f : ν → μ) (t : Table ν) :
    (t.map f).values = t.values.map f := by
  simp only [values, map, List.map_map]
  rfl

/-- Changing every row twice is changing it once by both functions. -/
theorem map_map {κ : Type} (g : μ → κ) (f : ν → μ) (t : Table ν) :
    (t.map f).map g = t.map fun v => g (f v) := by
  refine ext_get? fun k => ?_
  rw [get?_map, get?_map, get?_map, Option.map_map]
  rfl

/-- Putting a row and changing every row is changing every row and putting the changed
one. -/
theorem map_insert (f : ν → μ) (t : Table ν) (k : Int) (v : ν) :
    (t.insert k v).map f = (t.map f).insert k (f v) := by
  refine ext_get? fun j => ?_
  rw [get?_map, get?_insert, get?_insert, get?_map]
  split <;> rfl

/-- Changing one row is changing every row by a function that fixes the
others. -/
theorem insert_eq_map {t : Table ν} {k : Int} {v : ν} {f : ν → ν}
    (h : t.get? k = some v) (hf : ∀ j w, j ≠ k → t.get? j = some w → f w = w) :
    t.insert k (f v) = t.map f := by
  refine ext_get? fun j => ?_
  rw [get?_insert, get?_map]
  split
  · next hj => rw [hj, h]; rfl
  · next hj =>
    cases hw : t.get? j with
    | none => rfl
    | some w => rw [Option.map_some, hf j w hj hw]

/-! ## A row under the greatest key -/

/-- A row put under a key above all others is put at the end. -/
theorem insertRow_of_lt {k : Int} (v : ν) {rows : List (Int × ν)} (h : ∀ p ∈ rows, p.1 < k) :
    insertRow k v rows = rows ++ [(k, v)] := by
  induction rows with
  | nil => rfl
  | cons p rest ih =>
    have hp : p.1 < k := h p List.mem_cons_self
    rw [insertRow, if_neg (by omega), if_pos hp,
      ih fun q hq => h q (List.mem_cons_of_mem p hq), List.cons_append]

/-- A row put under a key above all others comes last. -/
theorem values_insert_of_lt {t : Table ν} {k : Int} (v : ν)
    (h : ∀ j w, t.get? j = some w → j < k) :
    (t.insert k v).values = t.values ++ [v] := by
  have hrows : ∀ p ∈ t.rows, p.1 < k := fun p hp => h p.1 p.2 (mem_rows_iff.1 hp)
  show (insertRow k v t.rows).map (·.2) = t.rows.map (·.2) ++ [v]
  rw [insertRow_of_lt v hrows, List.map_append]
  rfl

/-! ## Rows numbered without a gap -/

/-- There are as many rows in order as there are rows. -/
theorem length_values (t : Table ν) : t.values.length = t.size := List.length_map _

/-- Changing rows in place leaves their number. -/
@[simp] theorem size_map (f : ν → μ) (t : Table ν) : (t.map f).size = t.size :=
  List.length_map _

/-- A row put under a key above all others is one row more. -/
theorem size_insert_of_lt {t : Table ν} {k : Int} (v : ν)
    (h : ∀ j w, t.get? j = some w → j < k) : (t.insert k v).size = t.size + 1 := by
  rw [← length_values, values_insert_of_lt v h, List.length_append, length_values]
  rfl

/-- **The rows are numbered without a gap**: their keys are 1, 2, 3 and so on, up
to the number of rows. -/
def Numbered (t : Table ν) : Prop := ∀ k, (∃ v, t.get? k = some v) ↔ 1 ≤ k ∧ k ≤ t.size

theorem numbered_empty : (∅ : Table ν).Numbered := by
  intro k
  constructor
  · rintro ⟨v, hv⟩
    cases hv
  · rintro ⟨one, none⟩
    change k ≤ 0 at none
    omega

namespace Numbered

variable {t : Table ν} (h : t.Numbered)

include h

/-- Rows changed in place keep their numbers. -/
theorem map (f : ν → μ) : (t.map f).Numbered := by
  intro k
  rw [size_map, ← h k]
  constructor
  · rintro ⟨w, hw⟩
    obtain ⟨v, hv, -⟩ := get?_map_eq_some_iff.1 hw
    exact ⟨v, hv⟩
  · rintro ⟨v, hv⟩
    exact ⟨f v, get?_map_eq_some_iff.2 ⟨v, hv, rfl⟩⟩

/-- A row that takes the next number is one row more. -/
theorem size_insert {k : Int} (v : ν) (next : k = t.size + 1) :
    (t.insert k v).size = t.size + 1 := by
  refine size_insert_of_lt v fun j w hw => ?_
  have bound := ((h j).1 ⟨w, hw⟩).2
  omega

/-- A row can take the next number. -/
theorem insert {k : Int} (v : ν) (next : k = t.size + 1) : (t.insert k v).Numbered := by
  intro j
  rw [h.size_insert v next, get?_insert]
  by_cases hj : j = k
  · rw [if_pos hj]
    exact iff_of_true ⟨v, rfl⟩ (by omega)
  · rw [if_neg hj, h j]
    omega

end Numbered

end RewardLedger.Table
