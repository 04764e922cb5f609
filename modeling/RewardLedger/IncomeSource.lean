/-!
# Sources of income

A user's income comes from the scheduled draw or from one of ten offerwall
partners. Partners deliver events that may be repeated, so each has a relation
of its own in which the events already credited are remembered.
-/

namespace RewardLedger

/-- Where an income came from. -/
inductive IncomeSource where
  | reward
  | offerwow
  | superrewards
  | ptcwall
  | clixwall
  | personaly
  | kiwiwall
  | trialpay
  | adscendMedia
  | adgateMedia
  | offertoro
  deriving DecidableEq, Repr

namespace IncomeSource

/-- The partners, in the order in which their relations are created. -/
def partners : List IncomeSource :=
  [offerwow, superrewards, ptcwall, clixwall, personaly, kiwiwall, trialpay,
    adscendMedia, adgateMedia, offertoro]

/-- Every source: the scheduled draw, then the partners. -/
def all : List IncomeSource := reward :: partners

/-- A **partner** is any source but the scheduled draw. -/
def IsPartner (s : IncomeSource) : Prop := s ≠ reward

instance (s : IncomeSource) : Decidable s.IsPartner :=
  inferInstanceAs (Decidable (¬ _))

@[simp] theorem mem_partners (s : IncomeSource) : s ∈ partners ↔ s.IsPartner := by
  cases s <;> decide

@[simp] theorem mem_all (s : IncomeSource) : s ∈ all := by
  cases s <;> decide

/-- The name of a source in texts, messages and rows. -/
def name : IncomeSource → String
  | reward => "reward"
  | offerwow => "offerwow"
  | superrewards => "superrewards"
  | ptcwall => "ptcwall"
  | clixwall => "clixwall"
  | personaly => "personaly"
  | kiwiwall => "kiwiwall"
  | trialpay => "trialpay"
  | adscendMedia => "adscend_media"
  | adgateMedia => "adgate_media"
  | offertoro => "offertoro"

/-- The source with a given name, letter for letter. -/
def ofName? (text : String) : Option IncomeSource :=
  all.find? fun s => s.name = text

@[simp] theorem ofName?_name (s : IncomeSource) : ofName? s.name = some s := by
  cases s <;> decide

/-- A text names at most the source it is the name of. -/
theorem name_of_ofName? {text : String} {s : IncomeSource}
    (h : ofName? text = some s) : s.name = text := by
  simpa using List.find?_some h

/-- The relation that remembers a partner's events. The scheduled draw has
none. -/
def eventTable? : IncomeSource → Option String
  | reward => none
  | s => some (s.name ++ "_callbacks")

theorem eventTable?_isSome (s : IncomeSource) : s.eventTable?.isSome ↔ s.IsPartner := by
  cases s <;> decide

/-- Two partners do not share a relation. -/
theorem eq_of_eventTable? {s t : IncomeSource} {relation : String}
    (hs : s.eventTable? = some relation) (ht : t.eventTable? = some relation) : s = t := by
  have named {s : IncomeSource} (h : s.eventTable? = some relation) :
      s.name ++ "_callbacks" = relation := by
    cases s <;> first | exact Option.some.inj h | cases h
  have names : s.name = t.name :=
    String.append_left_inj "_callbacks" |>.1 ((named hs).trans (named ht).symm)
  rw [← Option.some_inj, ← ofName?_name s, ← ofName?_name t, names]

end IncomeSource

end RewardLedger
