import RewardLedger.Proofs.Wire.Layout

/-!
# What a written value tells

A reader that is given the text of a value finds in it what the value **tells**
(`Json.Tells`), both where the text has to end with the value and where it may go on. What a
record tells is put together from its fields: they are written in their order, and one that
may be left out is written or not (`Json.Fields.Told`).
-/

namespace RewardLedger.Json

variable {α β : Type} {r : Reader α} {v : Json} {a : α} {s : String} {n : Int}

/-- **A value tells a reader something**: the value is without doubles, and the reader finds
that in its document. -/
structure Tells (v : Json) (r : Reader α) (a : α) : Prop where
  plain : v.Plain
  reads : r v.layout = .ok a

namespace Tells

/-- **The whole text of a value is read** as what the value tells. -/
theorem wholeText (h : v.Tells r a) : r.wholeText v.text = .ok a := by
  unfold Reader.wholeText text
  rw [String.toList_ofList, h.plain.ofText_chars]
  dsimp only
  rw [h.reads]
  rfl

/-- **The text of a value begins with what the value tells.** -/
theorem headOfText (h : v.Tells r a) : r.headOfText v.text = .ok a := by
  unfold Reader.headOfText text
  rw [String.toList_ofList, h.plain.ofPrefix_chars, h.reads]

theorem map (h : v.Tells r a) (f : α → β) : v.Tells (r.map f) (f a) := by
  refine ⟨h.plain, ?_⟩
  unfold Reader.map
  rw [h.reads]
  rfl

/-- A value that is there tells that it is. -/
theorem option (h : v.Tells r a) (there : v ≠ .null) : v.Tells (.option r) (some a) := by
  have read : (r v.layout).map some = .ok (some a) := by
    rw [h.reads]
    rfl
  refine ⟨h.plain, ?_⟩
  cases h.plain with
  | null => exact absurd rfl there
  | _ => exact read

end Tells

/-! ## Values -/

theorem tells_text (s : String) : (str s).Tells .text s := ⟨.str s, rfl⟩

/-- A whole number tells itself to whom it is in range for. -/
theorem tells_integer {least greatest : Int} (range : least ≤ n ∧ n ≤ greatest)
    (least_le : -2 ^ 63 ≤ least) (greatest_lt : greatest < 2 ^ 64) :
    (int n).Tells (.integer least greatest) n := by
  refine ⟨.int n, ?_⟩
  have value := Numeral.value_ofInt (Int.le_trans least_le range.1)
    (Int.lt_of_le_of_lt range.2 greatest_lt)
  simp only [layout, Reader.integer, value, if_pos range]

theorem tells_bool (b : Bool) : (Json.bool b).Tells .bool b := ⟨.bool b, rfl⟩

theorem tells_amount (fits : Amount.Fits n) : (int n).Tells .amount n :=
  tells_integer fits (by decide) (by decide)

theorem tells_countTo {n greatest : Nat} (held : n ≤ greatest)
    (greatest_le : greatest ≤ Amount.greatestCount) : (int n).Tells (.count greatest) n :=
  have range : 0 ≤ (n : Int) ∧ (n : Int) ≤ greatest :=
    ⟨Int.natCast_nonneg n, Int.ofNat_le.2 held⟩
  (tells_integer range (by decide) (Int.lt_of_le_of_lt (Int.ofNat_le.2 greatest_le)
    (by decide))).map Int.toNat

theorem tells_count {n : Nat} (held : n ≤ Amount.greatestCount) :
    (int n).Tells (.count Amount.greatestCount) n :=
  tells_countTo held (Nat.le_refl _)

theorem tells_parsed {parse : List Char → Option α} (read : parse s.toList = some a) :
    (str s).Tells (.parsed parse) a := by
  refine ⟨.str s, ?_⟩
  simp only [layout, Reader.parsed, read]

theorem tells_choice {ofName? : String → Option α} (named : ofName? s = some a) :
    (str s).Tells (.choice ofName?) a := by
  refine ⟨.str s, ?_⟩
  simp only [layout, Reader.choice, named]

/-- **A value or null** tells whether there is a value, and which. -/
theorem tells_option {f : α → Json} {o : Option α} (each : ∀ a ∈ o, (f a).Tells r a)
    (there : ∀ a, f a ≠ .null) : (ofOption f o).Tells (.option r) o := by
  cases o with
  | none => exact ⟨.null, rfl⟩
  | some a => exact (each a rfl).option (there a)

/-- **A list** tells what its items do, in their order. -/
theorem tells_list {f : β → Json} {left : β → α} {bs : List β}
    (each : ∀ b ∈ bs, (f b).Tells r (left b)) :
    (ofList f bs).Tells (.list r) (bs.map left) := by
  refine ⟨.arr fun v written => ?_, ?_⟩
  · obtain ⟨b, listed, rfl⟩ := List.mem_map.1 written
    exact (each b listed).plain
  · show Reader.items r (layoutItems (bs.map f)) = _
    induction bs with
    | nil => rfl
    | cons b bs ih =>
      have first := (each b List.mem_cons_self).reads
      have others := ih fun b listed => each b (List.mem_cons_of_mem _ listed)
      simp only [List.map_cons, layoutItems, Reader.items, first, others, bind, Except.bind]

/-! ## Records -/

/-- The names that members give. -/
def Members.names : Members → List String
  | .closed => []
  | .broken => []
  | .member none _ tail => tail.names
  | .member (some name) _ tail => name :: tail.names

theorem names_layoutMembers (members : List (String × Json)) :
    (layoutMembers members).names = members.map Prod.fst := by
  induction members with
  | nil => rfl
  | cons m members ih =>
    rw [layoutMembers, Members.names, ih]
    rfl

namespace Fields

/-- **Members tell a row**: there is one for each field in the order of the fields, which
tells the value of the field, or none where a field may be left out with that value. -/
inductive Told : (fs : List Field) → List (String × Json) → Row fs → Prop
  | nil : Told [] [] ()
  | given {f : Field} {fs : List Field} {members : List (String × Json)} {b : f.Value}
      {row : Row fs} {v : Json} (value : v.Tells f.read b) (others : Told fs members row) :
      Told (f :: fs) ((f.name, v) :: members) (b, row)
  | omitted {f : Field} {fs : List Field} {members : List (String × Json)} {b : f.Value}
      {row : Row fs} (absent : f.absent = some b) (others : Told fs members row) :
      Told (f :: fs) members (b, row)

variable {f : Field} {fs : List Field} {b : f.Value} {members : List (String × Json)}
  {row : Row fs}

/-- **A field that no more members name is settled**: it was read, or keeps the value that it
has when it is left out, and the members are those of the other fields. -/
theorem ofMembers_settled (slot : Option f.Value) (settled : slot.or f.absent = some b)
    (rest : Partial fs) : (ms : Members) → f.name ∉ ms.names →
      ofMembers (f :: fs) ms (slot, rest) = (ofMembers fs ms rest).map (b, ·)
  | .closed, _ => by
    simp only [ofMembers, complete, settled]
  | .broken, _ => rfl
  | .member .none _ _, _ => rfl
  | .member (some name) d tail, unnamed => by
    obtain ⟨other, unnamed⟩ := not_or.1 (mt List.mem_cons.2 unnamed)
    simp only [ofMembers, take, if_neg other, bind, Except.bind]
    cases taken : take fs name d rest with
    | error e => rfl
    | ok rest => exact ofMembers_settled slot settled rest tail unnamed

namespace Told

/-- Members that tell a row have the names of fields. -/
theorem sublist (h : Told fs members row) :
    (members.map Prod.fst).Sublist (fs.map Field.name) := by
  induction h with
  | nil => exact List.Sublist.slnil
  | given _ _ ih => exact ih.cons_cons _
  | omitted _ _ ih => exact ih.cons _

theorem plain (h : Told fs members row) : ∀ m ∈ members, m.2.Plain := by
  induction h with
  | nil => exact fun _ none => absurd none List.not_mem_nil
  | given value _ ih =>
    intro m listed
    obtain rfl | listed := List.mem_cons.1 listed
    · exact value.plain
    · exact ih m listed
  | omitted _ _ ih => exact ih

/-- **Members are read as the row that they tell**, as long as no two fields have one name. -/
theorem ofMembers (h : Told fs members row) (distinct : (fs.map Field.name).Nodup) :
    ofMembers fs (layoutMembers members) (none fs) = .ok row := by
  induction h with
  | nil => rfl
  | @given f fs members b row v value others ih =>
    obtain ⟨new, distinct⟩ := List.nodup_cons.1 distinct
    have unnamed : f.name ∉ (layoutMembers members).names := fun named =>
      new (others.sublist.subset (names_layoutMembers members ▸ named))
    have settled := ofMembers_settled (some b) rfl (none fs) _ unnamed
    rw [ih distinct] at settled
    rw [layoutMembers]
    simp only [Fields.ofMembers, take, Fields.none, if_true, value.reads, Except.map, bind,
      Except.bind]
    exact settled
  | @omitted f fs members b row absent others ih =>
    obtain ⟨new, distinct⟩ := List.nodup_cons.1 distinct
    have unnamed : f.name ∉ (layoutMembers members).names := fun named =>
      new (others.sublist.subset (names_layoutMembers members ▸ named))
    have settled := ofMembers_settled .none absent (none fs) _ unnamed
    rw [ih distinct] at settled
    exact settled

/-- An optional member tells whether the field has a value, and which. -/
theorem optional (name : String) {g : α → Json} {o : Option α}
    (each : ∀ a ∈ o, (g a).Tells r a) (there : ∀ a, g a ≠ .null)
    (others : Told fs members row) :
    Told (.optional name r :: fs) (optionalMember name g o ++ members) (o, row) := by
  cases o with
  | none => exact .omitted rfl others
  | some a => exact .given (f := .optional name r) ((each a rfl).option (there a)) others

end Told

end Fields

/-- **A record tells what is made of the row that its members tell.** -/
theorem tells_record {fs : List Field} {members : List (String × Json)} {row : Fields.Row fs}
    {make : Fields.Row fs → α} (told : Fields.Told fs members row)
    (distinct : (fs.map Field.name).Nodup) (made : make row = a) :
    (obj members).Tells (.record fs make) a := by
  refine ⟨.obj told.plain, ?_⟩
  have read : Fields.read fs (obj members).layout = .ok row := told.ofMembers distinct
  unfold Reader.record Reader.map
  rw [read, ← made]
  rfl

end RewardLedger.Json
