import Mathlib.Data.List.Induction
import Mathlib.Data.List.Nodup
import RewardLedger.Hub

/-!
# Evicting connections

Taking an item out by moving the last one into its place changes the order of
the others, and it changes what is found at a place. Several items can only be
taken out so because their places are gone through from the last to the first:
when a place has its turn, everything that stood before it is still where it
was, and whatever was moved stands behind it (`evict_perm`). The place itself is
still in range, and holds what it held before the sweep (`evict_turn`).

Nothing else about the order of the connections is ever used, so all that is said
of them is said up to their order.
-/

namespace RewardLedger

section Places

variable {α : Type}

/-- The items behind the one that is taken out are still there. -/
theorem swapRemove_append (l : List α) (x : α) (r : List α) :
    ∃ r', swapRemove (l ++ x :: r) l.length = l ++ r' ∧ r'.Perm r := by
  cases r using List.reverseRecOn with
  | nil => exact ⟨[], by simp [swapRemove], .refl _⟩
  | append_singleton r y =>
    -- the last one stands where the one was that is taken out
    refine ⟨y :: r, ?_, (List.perm_append_singleton y r).symm⟩
    have last : (l ++ x :: (r ++ [y])).getLast? = some y := by
      rw [← List.cons_append, ← List.append_assoc, List.getLast?_concat]
    have placed : (l ++ x :: (r ++ [y])).set l.length y = (l ++ y :: r) ++ [y] := by simp
    rw [swapRemove, last]
    dsimp only
    rw [placed, List.dropLast_concat]

/-- **One item is taken out**, and the others stay. -/
theorem swapRemove_perm (l : List α) (x : α) (r : List α) :
    (swapRemove (l ++ x :: r) l.length).Perm (l ++ r) := by
  obtain ⟨r', removed, same⟩ := swapRemove_append l x r
  rw [removed]
  exact same.append_left l

/-- The items before the one that is taken out stay where they are. -/
theorem take_swapRemove {l : List α} {place : Nat} (inRange : place < l.length) :
    (swapRemove l place).take place = l.take place := by
  have number : (l.take place).length = place := List.length_take_of_le (Nat.le_of_lt inRange)
  obtain ⟨rest, removed, -⟩ := swapRemove_append (l.take place) l[place] (l.drop (place + 1))
  rw [← List.drop_eq_getElem_cons inRange, List.take_append_drop, number] at removed
  rw [removed]
  exact List.take_left' number

end Places

namespace Hub

/-- One more write fails at its own place, if it fails. -/
theorem failedPlaces_concat (writes : List WriteResult) (r : WriteResult) :
    failedPlaces (writes ++ [r])
      = failedPlaces writes ++ if r.Succeeded then [] else [writes.length] := by
  unfold failedPlaces
  rw [List.zipIdx_append, List.filter_append, List.map_append]
  by_cases taken : r.Succeeded <;> simp [taken]

/-- A place is a failed one if the write there did not succeed. -/
theorem mem_failedPlaces {writes : List WriteResult} {place : Nat} :
    place ∈ failedPlaces writes ↔ ∃ r, writes[place]? = some r ∧ ¬ r.Succeeded := by
  simp [failedPlaces, List.mem_zipIdx_iff_getElem?]

/-- The failed places ascend. -/
theorem pairwise_failedPlaces (writes : List WriteResult) :
    (failedPlaces writes).Pairwise (· < ·) := by
  have all : (writes.zipIdx.map (·.2)).Pairwise (· < ·) := by
    rw [List.zipIdx_map_snd]
    exact List.pairwise_lt_range'
  exact all.sublist (List.filter_sublist.map _)

/-- There are as many failed places as writes that did not succeed. -/
theorem length_failedPlaces (writes : List WriteResult) :
    (failedPlaces writes).length = writes.countP fun r => ¬ r.Succeeded := by
  induction writes using List.reverseRecOn with
  | nil => rfl
  | append_singleton writes r ih =>
    rw [failedPlaces_concat, List.length_append, ih, List.countP_append]
    by_cases taken : r.Succeeded <;> simp [taken]

section Evict

variable {α : Type}

/-! ### One turn after the other -/

/-- **What stands before all places that had their turn still stands there.** Every
place is in range for that reason when its own turn comes. -/
theorem take_evict {items : List α} {places : List Nat} (ascending : places.Pairwise (· < ·))
    (inRange : ∀ p ∈ places, p < items.length) {n : Nat} (before : ∀ p ∈ places, n ≤ p) :
    (evict items places).take n = items.take n := by
  induction places generalizing n with
  | nil => rfl
  | cons p places ih =>
    obtain ⟨first, ascending⟩ := List.pairwise_cons.1 ascending
    obtain ⟨inRange, others⟩ := List.forall_mem_cons.1 inRange
    have kept : (evict items places).take (p + 1) = items.take (p + 1) :=
      ih ascending others first
    have held : p < (evict items places).length := by
      have number := congrArg List.length kept
      rw [List.length_take, List.length_take] at number
      omega
    have n_le : n ≤ p := before p List.mem_cons_self
    calc (swapRemove (evict items places) p).take n
        = ((swapRemove (evict items places) p).take p).take n := by
          rw [List.take_take, Nat.min_eq_left n_le]
      _ = (evict items places).take n := by
          rw [take_swapRemove held, List.take_take, Nat.min_eq_left n_le]
      _ = items.take n :=
          ih ascending others fun q later => Nat.le_trans n_le (Nat.le_of_lt (first q later))

/-- **A place is in range when its turn comes**, and what is taken out there is what
stood there from the beginning. -/
theorem evict_turn {items : List α} {writes : List WriteResult}
    (each : items.length = writes.length) {before after : List Nat} {place : Nat}
    (split : failedPlaces writes = before ++ place :: after) :
    ∃ inRange : place < (evict items after).length,
      items[place]? = some (evict items after)[place] := by
  have ascending := pairwise_failedPlaces writes
  rw [split] at ascending
  obtain ⟨first, ascending⟩ := List.pairwise_cons.1 (List.pairwise_append.1 ascending).2.1
  have known : ∀ p ∈ place :: after, p < items.length := by
    intro p listed
    have failed : p ∈ failedPlaces writes := split ▸ List.mem_append_right before listed
    obtain ⟨r, written, -⟩ := mem_failedPlaces.1 failed
    exact each ▸ (List.getElem?_eq_some_iff.1 written).1
  obtain ⟨here, others⟩ := List.forall_mem_cons.1 known
  have kept : (evict items after).take (place + 1) = items.take (place + 1) :=
    take_evict ascending others first
  have same : (evict items after)[place]? = items[place]? := by
    rw [← List.getElem?_take_of_lt (Nat.lt_succ_self place), kept,
      List.getElem?_take_of_lt (Nat.lt_succ_self place)]
  rw [List.getElem?_eq_getElem here, List.getElem?_eq_some_iff] at same
  obtain ⟨inRange, held⟩ := same
  exact ⟨inRange, by rw [held, List.getElem?_eq_getElem here]⟩

/-! ### What is left -/

/-- Items that nothing was written to stay behind those that were written to. -/
theorem evict_append_perm (items rest : List α) (writes : List WriteResult)
    (each : items.length = writes.length) :
    (evict (items ++ rest) (failedPlaces writes)).Perm
      (((items.zip writes).filter fun w => w.2.Succeeded).map (·.1) ++ rest) := by
  induction writes using List.reverseRecOn generalizing items rest with
  | nil =>
    rw [List.length_nil, List.length_eq_zero_iff] at each
    rw [each]
    exact .refl _
  | append_singleton writes r ih =>
    cases items using List.reverseRecOn with
    | nil => simp at each
    | append_singleton items x =>
      have each' : items.length = writes.length := by simpa using each
      rw [failedPlaces_concat, List.zip_append each', List.filter_append, List.map_append,
        List.append_assoc, List.append_assoc]
      by_cases taken : r.Succeeded
      · rw [if_pos taken, List.append_nil]
        simpa [taken] using ih items (x :: rest) each'
      · -- the last place is the first to have its turn
        obtain ⟨rest', removed, same⟩ := swapRemove_append items x rest
        have first : evict (items ++ x :: rest) (failedPlaces writes ++ [writes.length])
            = evict (items ++ rest') (failedPlaces writes) := by
          rw [evict, List.foldr_append]
          show evict (swapRemove (items ++ x :: rest) writes.length) _ = _
          rw [← each', removed]
        rw [if_neg taken]
        show (evict (items ++ x :: rest) _).Perm _
        rw [first]
        refine (ih items rest' each').trans ?_
        simpa [taken] using same.append_left _

/-- **Exactly the items whose write failed are evicted**, whatever the order in
which the others are left. -/
theorem evict_perm (items : List α) (writes : List WriteResult)
    (each : items.length = writes.length) :
    (evict items (failedPlaces writes)).Perm
      (((items.zip writes).filter fun w => w.2.Succeeded).map (·.1)) := by
  have alone := evict_append_perm items [] writes each
  rwa [List.append_nil, List.append_nil] at alone

/-- Everything that was written to is left or evicted. -/
theorem evict_perm_append (items : List α) (writes : List WriteResult)
    (each : items.length = writes.length) :
    items.Perm (evict items (failedPlaces writes)
      ++ ((items.zip writes).filter fun w => ¬ w.2.Succeeded).map (·.1)) := by
  have all : (items.zip writes).map (·.1) = items :=
    List.map_fst_zip (Nat.le_of_eq each)
  have parts := (List.filter_append_perm (fun w => decide (w.2.Succeeded))
    (items.zip writes)).map (·.1)
  rw [List.map_append, all] at parts
  refine parts.symm.trans ?_
  simpa using (evict_perm items writes each).symm.append_right _

end Evict

/-! ## A whole sweep -/

section Sweep

variable {κ : Type}

/-- **A sweep is exact**: it evicts the connections whose write did not succeed, and
no other. -/
structure SweepsExactly (slots : List (Slot κ)) (writes : List WriteResult) : Prop where
  /-- The connections that are left are those whose write succeeded, in some order. -/
  left : (sweep slots writes).2.Perm
    (((slots.zip writes).filter fun w => w.2.Succeeded).map (·.1))
  /-- No connection is left twice. -/
  once : ((sweep slots writes).2.map (·.id)).Nodup
  /-- A connection is left exactly if its own write succeeded. -/
  held_iff : ∀ (n : Nat) (slot : Slot κ) (r : WriteResult), slots[n]? = some slot →
    writes[n]? = some r →
      (slot ∈ (sweep slots writes).2 ↔ r.Succeeded)
  /-- The places have their turns from the last to the first. When a place has its
  turn, those `after` it have had theirs: it is in range, and its connection is the one
  whose write did not succeed. -/
  turns : ∀ before place after, failedPlaces writes = before ++ place :: after →
    ∃ inRange : place < (evict slots after).length,
      slots[place]? = some (evict slots after)[place]
        ∧ evict slots (place :: after) = swapRemove (evict slots after) place
  /-- The number of the evicted is that of the writes that did not succeed. -/
  counted : (sweep slots writes).1 = writes.countP fun r => ¬ r.Succeeded

/-- **Exactly the connections whose write did not succeed are evicted.** Whatever came
of the writes to connections with numbers of their own: those are left whose write
succeeded, each of them once. Every place is in range when its turn comes, and still
holds the connection that failed there. The number that is told is that of the failed
writes. -/
theorem sweeps_exactly (slots : List (Slot κ)) (writes : List WriteResult)
    (numbered : (slots.map (·.id)).Nodup) (each : slots.length = writes.length) :
    SweepsExactly slots writes := by
  have left := evict_perm slots writes each
  have within : ((slots.zip writes).map (·.1)).Nodup := by
    rw [List.map_fst_zip (Nat.le_of_eq each)]
    exact numbered.of_map _
  refine ⟨left, ?_, ?_, ?_, length_failedPlaces writes⟩
  · have whole : slots.Perm (evict slots (failedPlaces writes) ++ _) :=
      evict_perm_append slots writes each
    rw [(whole.map (·.id)).nodup_iff, List.map_append] at numbered
    exact numbered.of_append_left
  · intro n slot r here written
    have both : (slot, r) ∈ slots.zip writes :=
      List.mem_of_getElem? (List.getElem?_zip_eq_some.2 ⟨here, written⟩)
    have held : slot ∈ (sweep slots writes).2
        ↔ ∃ w ∈ slots.zip writes, w.2.Succeeded ∧ w.1 = slot := by
      rw [show (sweep slots writes).2 = evict slots (failedPlaces writes) from rfl, left.mem_iff]
      simp [and_assoc]
    rw [held]
    constructor
    · rintro ⟨w, listed, succeeded, same⟩
      -- the connection stands in the list once, so there is one write to it
      have one : w = (slot, r) := List.inj_on_of_nodup_map within listed both same
      rwa [one] at succeeded
    · exact fun succeeded => ⟨_, both, succeeded, rfl⟩
  · intro before place after split
    obtain ⟨inRange, here⟩ := evict_turn each split
    exact ⟨inRange, here, rfl⟩

/-- Of six connections the first, two next to each other and the last one fail. -/
theorem sweeps_exactly_of_neighbours :
    let slots : List (Slot Unit) := [⟨1, ()⟩, ⟨2, ()⟩, ⟨3, ()⟩, ⟨4, ()⟩, ⟨5, ()⟩, ⟨6, ()⟩]
    let writes : List WriteResult := [.failed, .taken, .late, .failed, .taken, .failed]
    sweep slots writes = (4, [⟨5, ()⟩, ⟨2, ()⟩]) ∧ SweepsExactly slots writes :=
  ⟨by decide, sweeps_exactly _ _ (by decide) rfl⟩

end Sweep

end Hub

end RewardLedger
