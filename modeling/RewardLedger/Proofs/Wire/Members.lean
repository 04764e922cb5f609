import RewardLedger.Proofs.Wire.Record

/-!
# Members in any order

What the service writes has its members in the order of the fields. A text that somebody
else wrote may have them in any order, leave some of them out, and have others that no
field asks for. Such an object is given here by its list of members
(`Json.Members.ofList`), and what a field gets from it depends on the members of its own
name alone (`Json.Field.Gets`): one member of that name, or none. A record is read from the
object as soon as every field gets its value (`Json.record_ofList`).

Other members only have to be well formed. They are whenever the whole text could be laid
out, since a text that is broken somewhere is never laid out to its end
(`Json.wellFormed_of_ofText`).
-/

namespace RewardLedger.Json

open Document

/-! ## Texts that are laid out to their end -/

/-- **What is laid out to its end is well formed**, at a given measure of the text. -/
structure EndsWell (fuel : Nat) : Prop where
  value : ∀ {cs d rest}, value fuel cs = (d, some rest) → d.wellFormed = true
  firstItem : ∀ {cs xs rest}, firstItem fuel cs = (xs, some rest) → xs.wellFormed = true
  item : ∀ {cs xs rest}, item fuel cs = (xs, some rest) → xs.wellFormed = true
  firstMember : ∀ {cs ms rest}, firstMember fuel cs = (ms, some rest) → ms.wellFormed = true
  member : ∀ {cs ms rest}, member fuel cs = (ms, some rest) → ms.wellFormed = true

/-- A leaf that was read is well formed. -/
theorem wellFormed_leaf {α : Type} {make : α → Document}
    (proper : ∀ a, (make a).wellFormed = true) {read : Option (α × List Char)}
    {d : Document} {rest : List Char}
    (laid : leaf make read = (d, some rest)) : d.wellFormed = true := by
  cases read with
  | none => cases laid
  | some read =>
    cases laid
    exact proper read.1

namespace EndsWell

variable {fuel : Nat} {cs rest : List Char}

theorem value_succ (h : EndsWell fuel) {d : Document}
    (laid : Document.value (fuel + 1) cs = (d, some rest)) : d.wellFormed = true := by
  unfold Document.value at laid
  split at laid
  · exact wellFormed_leaf (fun _ => rfl) laid
  · exact wellFormed_leaf (fun _ => rfl) laid
  · exact wellFormed_leaf (fun _ => rfl) laid
  · exact wellFormed_leaf (fun _ => rfl) laid
  · next inside _ =>
    cases read : Document.firstItem fuel inside with
    | mk items left =>
      rw [read] at laid
      cases laid
      exact h.firstItem read
  · next inside _ =>
    cases read : Document.firstMember fuel inside with
    | mk members left =>
      rw [read] at laid
      cases laid
      exact h.firstMember read
  · split at laid
    · exact wellFormed_leaf (fun _ => rfl) laid
    · cases laid
  · cases laid

theorem item_succ (h : EndsWell fuel) {xs : Items}
    (laid : Document.item (fuel + 1) cs = (xs, some rest)) : xs.wellFormed = true := by
  unfold Document.item at laid
  split at laid
  · cases laid
  · next head behind read =>
    have first := h.value read
    split at laid
    · cases laid
      rw [Items.wellFormed, first]
      rfl
    · next behind _ =>
      cases more : Document.item fuel behind with
      | mk tail left =>
        rw [more] at laid
        cases laid
        rw [Items.wellFormed, first, h.item more]
        rfl
    · cases laid

theorem member_succ (h : EndsWell fuel) {ms : Members}
    (laid : Document.member (fuel + 1) cs = (ms, some rest)) : ms.wellFormed = true := by
  unfold Document.member at laid
  split at laid
  · split at laid
    · cases laid
    · dsimp only at laid
      split at laid
      · split at laid
        · cases laid
        · next v behind read =>
          have first := h.value read
          split at laid
          · cases laid
            rw [Members.wellFormed, first]
            rfl
          · next behind _ =>
            cases more : Document.member fuel behind with
            | mk tail left =>
              rw [more] at laid
              cases laid
              rw [Members.wellFormed, first, h.member more]
              rfl
          · cases laid
      · cases laid
  · cases laid

theorem all (fuel : Nat) : EndsWell fuel := by
  induction fuel with
  | zero => constructor <;> intro _ _ _ laid <;> cases laid
  | succ fuel ih =>
    refine ⟨ih.value_succ, fun laid => ?_, ih.item_succ, fun laid => ?_, ih.member_succ⟩
    · unfold Document.firstItem at laid
      split at laid
      · cases laid
        rfl
      · exact ih.item laid
    · unfold Document.firstMember at laid
      split at laid
      · cases laid
        rfl
      · exact ih.member laid

end EndsWell

/-- **A text that is laid out as a whole is well formed** throughout. -/
theorem wellFormed_of_ofText {cs : List Char} {d : Document} (whole : ofText cs = (d, true)) :
    d.wellFormed = true := by
  unfold ofText at whole
  split at whole
  · next laid =>
    obtain ⟨rfl, -⟩ := Prod.mk.inj whole
    exact (EndsWell.all _).value laid
  · cases whole

/-! ## Objects -/

/-- The members of an object whose names can be read, up to its closing brace. -/
def Members.ofList : List (String × Document) → Members
  | [] => .closed
  | (name, d) :: rest => .member (some name) d (ofList rest)

/-- An object is well formed if the values of its members are. -/
theorem wellFormed_ofList {ms : List (String × Document)} :
    (Members.ofList ms).wellFormed = true ↔ ∀ m ∈ ms, m.2.wellFormed = true := by
  induction ms with
  | nil => simp [Members.ofList, Members.wellFormed]
  | cons m ms ih => simp [Members.ofList, Members.wellFormed, ih]

/-- **A text is an object with the given members**, and nothing is left over. -/
def HasMembers (text : String) (ms : List (String × Document)) : Prop :=
  ofText text.toList = (.object (.ofList ms), true)

/-- The values of the members of a text are well formed. -/
theorem HasMembers.proper {text : String} {ms : List (String × Document)}
    (h : HasMembers text ms) : ∀ m ∈ ms, m.2.wellFormed = true :=
  wellFormed_ofList.1 (wellFormed_of_ofText h)

/-! ## What a field gets -/

variable {f : Field} {fs : List Field} {ms : List (String × Document)} {name : String}
  {d : Document}

/-- **What a field gets from members**: what is read from the member of its name, or what
it is when there is none. -/
def Field.Gets (f : Field) (ms : List (String × Document)) (v : f.Value) : Prop :=
  (∃ d, (f.name, d) ∈ ms ∧ f.read d = .ok v) ∨ (f.name ∉ ms.map Prod.fst ∧ f.absent = some v)

/-- Members of other names do not matter to a field. -/
theorem Field.gets_cons_of_ne (other : f.name ≠ name) {v : f.Value} :
    f.Gets ((name, d) :: ms) v ↔ f.Gets ms v := by
  simp [Gets, other]

/-- A field that has a member of its name gets what is read from it, if there is no other
one. -/
theorem Field.gets_cons_self (once : f.name ∉ ms.map Prod.fst) {v : f.Value} :
    f.Gets ((f.name, d) :: ms) v ↔ f.read d = .ok v := by
  have none (d' : Document) : (f.name, d') ∉ ms := fun listed =>
    once (List.mem_map.2 ⟨_, listed, rfl⟩)
  simp [Gets, none]

/-- The order of the members does not matter. -/
theorem Field.gets_perm {ms' : List (String × Document)} (same : ms.Perm ms') {v : f.Value} :
    f.Gets ms v ↔ f.Gets ms' v := by
  unfold Gets
  rw [(same.map Prod.fst).mem_iff]
  simp only [same.mem_iff]

namespace Fields

/-- **No field is given twice.** Members that no field asks for may be. -/
def Once (fs : List Field) (ms : List (String × Document)) : Prop :=
  ((ms.map Prod.fst).filter (· ∈ fs.map Field.name)).Nodup

instance : Decidable (Once fs ms) := inferInstanceAs (Decidable (List.Nodup _))

/-- **All fields get their values**, those that were read before and those that are to be
read from the members that follow. -/
def AllGet : (fs : List Field) → Partial fs → List (String × Document) → Row fs → Prop
  | [], (), _, () => True
  | f :: fs, (slot, rest), ms, (v, row) =>
    (match slot with
      | some w => w = v ∧ f.name ∉ ms.map Prod.fst
      | .none => f.Gets ms v)
    ∧ AllGet fs rest ms row

namespace AllGet

theorem nil : AllGet [] (Fields.none []) ms () := trivial

/-- Where nothing is read yet, each field gets its value from the members. -/
theorem cons {v : f.Value} {row : Row fs} (first : f.Gets ms v)
    (others : AllGet fs (Fields.none fs) ms row) :
    AllGet (f :: fs) (Fields.none (f :: fs)) ms (v, row) := ⟨first, others⟩

/-- A member that no field asks for does not matter. -/
theorem cons_of_unnamed {slots : Partial fs} {row : Row fs}
    (unnamed : name ∉ fs.map Field.name) (h : AllGet fs slots ((name, d) :: ms) row) :
    AllGet fs slots ms row := by
  induction fs with
  | nil => trivial
  | cons f fs ih =>
    obtain ⟨other, unnamed⟩ := not_or.1 (mt List.mem_cons.2 unnamed)
    obtain ⟨slot, rest⟩ := slots
    obtain ⟨first, others⟩ := h
    refine ⟨?_, ih unnamed others⟩
    cases slot with
    | none => exact (Field.gets_cons_of_ne (Ne.symm other)).1 first
    | some w => exact ⟨first.1, fun named => first.2 (List.mem_cons_of_mem _ named)⟩

/-- **One more member is read**: its field has got its value, and the others get theirs
from what follows. -/
theorem take {slots : Partial fs} {row : Row fs} (distinct : (fs.map Field.name).Nodup)
    (proper : d.wellFormed = true) (once : name ∈ fs.map Field.name → name ∉ ms.map Prod.fst)
    (h : AllGet fs slots ((name, d) :: ms) row) :
    ∃ slots', Fields.take fs name d slots = .ok slots' ∧ AllGet fs slots' ms row := by
  induction fs with
  | nil => exact ⟨(), if_pos proper, trivial⟩
  | cons f fs ih =>
    obtain ⟨new, distinct⟩ := List.nodup_cons.1 distinct
    obtain ⟨slot, rest⟩ := slots
    obtain ⟨v, row⟩ := row
    obtain ⟨first, others⟩ := h
    by_cases same : f.name = name
    · subst same
      have once := once List.mem_cons_self
      cases slot with
      | some w => exact absurd List.mem_cons_self first.2
      | none =>
        have read : f.read d = .ok v := (Field.gets_cons_self once).1 first
        refine ⟨(some v, rest), ?_, ⟨rfl, once⟩, others.cons_of_unnamed new⟩
        simp only [Fields.take, if_true, read, Except.map]
    · obtain ⟨rest', taken, others⟩ :=
        ih distinct (fun named => once (List.mem_cons_of_mem _ named)) others
      refine ⟨(slot, rest'), ?_, ?_, others⟩
      · simp only [Fields.take, if_neg same, taken, Except.map]
      · cases slot with
        | none => exact (Field.gets_cons_of_ne same).1 first
        | some w => exact ⟨first.1, fun named => first.2 (List.mem_cons_of_mem _ named)⟩

/-- When no members follow, the row is complete. -/
theorem complete {slots : Partial fs} {row : Row fs} (h : AllGet fs slots [] row) :
    Fields.complete fs slots = .ok row := by
  induction fs with
  | nil => rfl
  | cons f fs ih =>
    obtain ⟨slot, rest⟩ := slots
    obtain ⟨v, row⟩ := row
    obtain ⟨first, others⟩ := h
    have got : slot.or f.absent = some v := by
      cases slot with
      | some w => exact congrArg some first.1
      | none =>
        obtain ⟨d, listed, -⟩ | ⟨-, absent⟩ := first
        · exact absurd listed List.not_mem_nil
        · exact absent
    simp only [Fields.complete, got, ih others, Except.map]

/-- **A row is read from members in any order**, as long as none that a field asks for is
given twice. -/
theorem ofMembers {slots : Partial fs} {row : Row fs} (distinct : (fs.map Field.name).Nodup)
    (proper : ∀ m ∈ ms, m.2.wellFormed = true)
    (once : Once fs ms) (h : AllGet fs slots ms row) :
    Fields.ofMembers fs (.ofList ms) slots = .ok row := by
  induction ms generalizing slots with
  | nil => exact h.complete
  | cons m ms ih =>
    obtain ⟨name, d⟩ := m
    obtain ⟨first, proper⟩ := List.forall_mem_cons.1 proper
    have alone : name ∈ fs.map Field.name → name ∉ ms.map Prod.fst := by
      intro known again
      rw [Once, List.map_cons, List.filter_cons_of_pos (by simpa using known),
        List.nodup_cons] at once
      exact once.1 (List.mem_filter.2 ⟨again, by simpa using known⟩)
    obtain ⟨slots', taken, others⟩ := h.take distinct first alone
    have once' : Once fs ms := once.sublist ((List.sublist_cons_self _ _).filter _)
    rw [Members.ofList, Fields.ofMembers]
    simp only [taken, bind, Except.bind]
    exact ih proper once' others

/-- **A member that says what is the case without it** can be put anywhere. -/
theorem insert {before after : List (String × Document)} {row : Row fs}
    (free : name ∉ (before ++ after).map Prod.fst)
    (same : ∀ f ∈ fs, f.name = name → ∀ v, f.absent = some v → f.read d = .ok v)
    (h : AllGet fs (Fields.none fs) (before ++ after) row) :
    AllGet fs (Fields.none fs) (before ++ (name, d) :: after) row := by
  induction fs with
  | nil => trivial
  | cons f fs ih =>
    obtain ⟨v, row⟩ := row
    obtain ⟨first, others⟩ := h
    refine ⟨?_, ih (fun g listed => same g (List.mem_cons_of_mem _ listed)) others⟩
    show f.Gets _ v
    rw [Field.gets_perm List.perm_middle]
    by_cases here : f.name = name
    · subst here
      have absent : f.absent = some v := by
        obtain ⟨d', listed, -⟩ | ⟨-, absent⟩ := first
        · exact absurd (List.mem_map.2 ⟨_, listed, rfl⟩) free
        · exact absent
      exact (Field.gets_cons_self free).2 (same f List.mem_cons_self rfl v absent)
    · exact (Field.gets_cons_of_ne here).2 first

end AllGet

/-- No field is given twice if one is put in that was not given before. -/
theorem Once.insert {before after : List (String × Document)}
    (free : name ∉ (before ++ after).map Prod.fst) (once : Once fs (before ++ after)) :
    Once fs (before ++ (name, d) :: after) := by
  have moved : ((before ++ (name, d) :: after).map Prod.fst).Perm
      (name :: (before ++ after).map Prod.fst) := List.perm_middle.map Prod.fst
  refine (moved.filter _).nodup_iff.2 ?_
  rw [List.filter_cons]
  split
  · exact List.nodup_cons.2 ⟨fun again => free (List.mem_of_mem_filter again), once⟩
  · exact once

end Fields

/-- **A record is read from members in any order**, as what is made of its row. -/
theorem record_ofList {α : Type} {make : Fields.Row fs → α} {row : Fields.Row fs} {a : α}
    (distinct : (fs.map Field.name).Nodup) (proper : ∀ m ∈ ms, m.2.wellFormed = true)
    (once : Fields.Once fs ms) (all : Fields.AllGet fs (Fields.none fs) ms row)
    (made : make row = a) : Reader.record fs make (.object (.ofList ms)) = .ok a := by
  have read : Fields.read fs (.object (.ofList ms)) = .ok row :=
    all.ofMembers distinct proper once
  unfold Reader.record Reader.map
  rw [read, ← made]
  rfl

end RewardLedger.Json
