import RewardLedger.Proofs.Store.Run

/-!
# A write that is refused never happened

A write that is refused may have got a long way: the referrer may have been
paid, identifiers given out, an event remembered, half of a batch moved. The
unit goes back over all of that, and the store is exactly what it was, not only
for those who read it but for everything that will ever be done to it. The one
thing that is not taken back is that a fail point is met once: if it was a fail
point that stopped the write, it is disarmed now.
-/

namespace RewardLedger

/-- No check of a write fails with the failure of a fail point. -/
theorem Tables.Refuses.ne_failure {t : Tables} {op : StoreOp} {cause : Error}
    (why : t.Refuses op cause) (p : FailPoint) : p.failure ≠ cause := by
  cases op with
  | createUser user now =>
    obtain ⟨-, rfl⟩ := why
    exact Error.noConfusion
  | creditReward c =>
    obtain ⟨-, rfl⟩ | ⟨u, -, -, rfl⟩ := why <;> exact Error.noConfusion
  | creditPartner c =>
    obtain ⟨-, rfl⟩ | ⟨-, -, rfl⟩ := why <;> exact Error.noConfusion
  | createWithdrawal order =>
    obtain ⟨-, rfl⟩ := why
    exact Error.noConfusion
  | advanceWithdrawals ids current next transaction now =>
    obtain ⟨-, rfl⟩ := why
    exact Error.noConfusion
  | _ => exact why.elim

namespace Memory

/-- A disabled store does not refuse with the failure of a fail point. -/
theorem failure_ne_disabledError (p : FailPoint) : p.failure ≠ disabledError := by
  cases p <;> decide

/-- The store with its fail point disarmed, if that is what an error came
from. -/
def disarmedBy (m : Memory) (cause : Error) : Memory :=
  if m.armed.map FailPoint.failure = some cause then { m with armed := none } else m

/-- An error that no fail point provokes disarms none. -/
theorem disarmedBy_of_ne {m : Memory} {cause : Error} (h : ∀ p : FailPoint, p.failure ≠ cause) :
    m.disarmedBy cause = m := by
  refine if_neg fun hmap => ?_
  obtain ⟨p, -, hp⟩ := Option.map_eq_some_iff.1 hmap
  exact h p hp

/-- The fail point that stopped a write is disarmed. -/
theorem disarmedBy_failure {m : Memory} {p : FailPoint} (armed : m.armed = some p) :
    m.disarmedBy p.failure = { m with armed := none } :=
  if_pos (by rw [armed]; rfl)

/-- A read does not see which fail point is armed. -/
theorem answer_disarmedBy {m : Memory} {read : StoreOp} (h : ¬ read.IsWrite) (cause : Error) :
    ((m.disarmedBy cause).answer read).1 = (m.answer read).1 := by
  unfold disarmedBy
  split
  · cases read with
    | createUser | creditReward | creditPartner | createWithdrawal | advanceWithdrawals =>
      exact absurd trivial h
    | _ => rfl
  · rfl

/-- **The end of a refused write** is the store that it began with. -/
theorem Writes.eq_of_refused {m m' : Memory} {op : StoreOp} {r : op.Reply} {cause : Error}
    (ends : m.Writes op r m') (refused : r = .error (.error cause)) :
    m' = m.disarmedBy cause := by
  cases ends with
  | invalid why =>
    cases refused
    obtain ⟨c, -, -, rfl⟩ := StoreOp.invalid?_eq_some why
    exact (disarmedBy_of_ne fun p => Error.noConfusion).symm
  | disabled =>
    cases refused
    exact (disarmedBy_of_ne failure_ne_disabledError).symm
  | refused on why =>
    cases refused
    exact (disarmedBy_of_ne why.ne_failure).symm
  | stopped on armed reached =>
    cases refused
    exact (disarmedBy_failure armed).symm
  | kept => cases refused
  | outOfRange => cases refused

/-- **A refused write never happened.** In every state that can be reached, a
write that is refused leaves the store that it found, with the fail point that
stopped it disarmed: every read is answered as before, and every later run gets
the replies that it would have got. -/
theorem refused_write_never_happened {m : Memory} (reach : m.Reachable) {op : StoreOp}
    (write : op.IsWrite) {cause : Error} (refused : (m.answer op).1 = .error (.error cause)) :
    (∀ read : StoreOp, ¬ read.IsWrite →
        ((m.answer op).2.answer read).1 = (m.answer read).1)
      ∧ ∀ run : List Command, (m.answer op).2.log run = (m.disarmedBy cause).log run
        ∧ (m.answer op).2.after run = (m.disarmedBy cause).after run := by
  have same : (m.answer op).2 = m.disarmedBy cause :=
    (reach.writes write).eq_of_refused refused
  constructor
  · intro read hread
    rw [same]
    exact answer_disarmedBy hread cause
  · intro run
    rw [same]
    exact ⟨rfl, rfl⟩

/-- A credit to a user who is its own referrer is stopped after the event was
remembered, the share paid and the income recorded. -/
theorem refused_write_never_happened_at_fail_point :
    let m := Memory.empty.after
      [.request (.createUser ⟨"a@x", "addr", some 1, 300⟩ ⟨0, 0⟩), .arm .afterIncome]
    let credit : StoreOp := .creditPartner ⟨.offerwow, "k", 1, 100, 10, ⟨1, 0⟩⟩
    (m.answer credit).1 = .error (.error FailPoint.afterIncome.failure)
      ∧ ∀ run, (m.answer credit).2.log run
        = (m.disarmedBy FailPoint.afterIncome.failure).log run :=
  ⟨rfl, fun run => ((refused_write_never_happened (Reachable.empty.after _)
    (show StoreOp.IsWrite (.creditPartner _) from trivial) rfl).2 run).1⟩

end Memory

end RewardLedger
