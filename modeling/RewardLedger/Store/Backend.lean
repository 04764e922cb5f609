import RewardLedger.Store.Memory
import RewardLedger.Store.Script

/-!
# Stores to choose from

The ledger lives in memory, or in a database that follows a script.
-/

namespace RewardLedger

/-- A store. -/
inductive Backend where
  | memory (m : Memory)
  | database (d : ScriptedDatabase)

namespace Backend

/-- Answer a request. -/
def answer : Backend → (op : StoreOp) → op.Reply × Backend
  | memory m, op =>
    let (reply, m) := m.answer op
    (reply, memory m)
  | database d, op =>
    let (reply, d) := d.answerRequest op
    (reply, database d)

/-- Do something to a store in memory; nothing comes of it elsewhere. -/
def onMemory (f : Memory → Outcome PUnit × Memory) : Backend → Outcome PUnit × Backend
  | memory m =>
    let (reply, m) := f m
    (reply, memory m)
  | b => (.ok ⟨⟩, b)

end Backend

end RewardLedger
