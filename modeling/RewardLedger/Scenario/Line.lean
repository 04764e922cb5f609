/-!
# Waiting in line

Something that several may use at once as long as all of them only look at it,
and that one alone may change. Whoever cannot use it at once waits in line, and
nobody overtakes: those at the head are let in as soon as they may, and whoever
comes while others wait joins the end.
-/

namespace RewardLedger.Scenario

/-- How something is used. -/
inductive Access where
  /-- Others may look at it too. -/
  | shared
  /-- Nobody else may use it. -/
  | exclusive
  deriving DecidableEq, Repr

/-- Who uses something, and who waits for it. -/
structure Line (κ : Type) where
  inside : List (κ × Access)
  /-- The first is at the head. -/
  waiting : List (κ × Access)
  deriving DecidableEq, Repr

namespace Line

variable {κ : Type} [DecidableEq κ]

/-- Nobody uses it. -/
def empty : Line κ := ⟨[], []⟩

/-- One more may use it besides those who do. -/
def Admits (inside : List (κ × Access)) : Access → Prop
  | .shared => ∀ p ∈ inside, p.2 = .shared
  | .exclusive => inside = []

instance (inside : List (κ × Access)) : (a : Access) → Decidable (Admits inside a)
  | .shared => inferInstanceAs (Decidable (∀ p ∈ inside, p.2 = Access.shared))
  | .exclusive => inferInstanceAs (Decidable (inside = []))

/-- Somebody uses it. -/
def IsInside (l : Line κ) (who : κ) : Prop := who ∈ l.inside.map (·.1)

instance (l : Line κ) (who : κ) : Decidable (l.IsInside who) :=
  inferInstanceAs (Decidable (_ ∈ _))

/-- Somebody uses it or waits for it. -/
def Has (l : Line κ) (who : κ) : Prop := l.IsInside who ∨ who ∈ l.waiting.map (·.1)

instance (l : Line κ) (who : κ) : Decidable (l.Has who) := inferInstanceAs (Decidable (_ ∨ _))

/-- Somebody comes. -/
def enter (l : Line κ) (who : κ) (access : Access) : Line κ :=
  if l.waiting = [] ∧ Admits l.inside access then
    { l with inside := l.inside ++ [(who, access)] }
  else { l with waiting := l.waiting ++ [(who, access)] }

/-- Let in from the head of those who wait, as long as the next one may come in;
who was let in. -/
def letIn (inside : List (κ × Access)) : List (κ × Access) → List κ × Line κ
  | [] => ([], ⟨inside, []⟩)
  | (who, access) :: rest =>
    if Admits inside access then
      let (others, l) := letIn (inside ++ [(who, access)]) rest
      (who :: others, l)
    else ([], ⟨inside, (who, access) :: rest⟩)

/-- Somebody goes; who is let in then. -/
def leave (l : Line κ) (who : κ) : List κ × Line κ :=
  letIn (l.inside.filter (·.1 ≠ who)) l.waiting

end Line

end RewardLedger.Scenario
