import RewardLedger.Store.Memory

/-!
# Running the steps of a unit

A step of a unit either goes on, with a value and a state, or stops, with a
fault and the state in which it stopped. Every unit is a chain of steps, and
`run_bind` runs the chain one step at a time; the other lemmas here say what
the steps that all units are made of do.
-/

namespace RewardLedger.UnitStep

variable {α β : Type}

/-! ## Running steps -/

@[simp] theorem run_pure (a : α) (s : UnitState) :
    (pure a : UnitStep α).run s = (.ok a, s) := rfl

/-- The second of two steps runs where the first finished. -/
@[simp] theorem run_bind (x : UnitStep α) (f : α → UnitStep β) (s : UnitState) :
    (x >>= f).run s = match x.run s with
      | (.ok a, s') => (f a).run s'
      | (.error e, s') => (.error e, s') := by
  show (match x s with | (a, s') => ExceptT.bindCont f a s')
    = match x s with
      | (.ok a, s') => f a s'
      | (.error e, s') => (.error e, s')
  rcases x s with ⟨_ | _, _⟩ <;> rfl

@[simp] theorem run_refuse (cause : Error) (s : UnitState) :
    (refuse cause : UnitStep α).run s = (.error (.error cause), s) := rfl

@[simp] theorem run_tables (s : UnitState) : tables.run s = (.ok s.unit.tables, s) := rfl

@[simp] theorem run_write (f : WriteUnit → WriteUnit) (s : UnitState) :
    (write f).run s = (.ok ⟨⟩, { s with unit := f s.unit }) := rfl

/-- A sum is gone on with if it fits. -/
theorem run_add (a b : Int) (s : UnitState) :
    (inRange (Amount.add? a b)).run s
      = if Amount.Fits (a + b) then (.ok (a + b), s) else (.error .outOfRange, s) := by
  unfold Amount.add? Amount.check?
  split <;> rfl

/-- A difference is gone on with if it fits. -/
theorem run_sub (a b : Int) (s : UnitState) :
    (inRange (Amount.sub? a b)).run s
      = if Amount.Fits (a - b) then (.ok (a - b), s) else (.error .outOfRange, s) := by
  unfold Amount.sub? Amount.check?
  split <;> rfl

/-- A fail point that is armed is disarmed and fails the unit. -/
theorem run_passFailPoint (p : FailPoint) (s : UnitState) :
    (passFailPoint p).run s
      = if s.armed = some p then (.error (.error p.failure), { s with armed := none })
        else (.ok ⟨⟩, s) := by
  unfold passFailPoint
  by_cases h : s.armed = some p
  · rw [if_pos h, run_bind]
    show (ite (s.armed = some p) _ _ : UnitStep PUnit).run s = _
    rw [if_pos h]
    rfl
  · rw [if_neg h, run_bind]
    show (ite (s.armed = some p) _ _ : UnitStep PUnit).run s = _
    rw [if_neg h]
    rfl

end RewardLedger.UnitStep
