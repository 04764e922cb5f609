import RewardLedger.Store.Schema

/-!
# A scripted database

A partner that understands nothing of the statements it is sent. It records
them and gives the replies of a script, one after the other. A reply may be
meant for statements of one kind only, and the brackets and definitions take
only replies that are meant for them; a statement that finds no reply for it is
carried out without rows. So every course of events between a store and its
database can be played.
-/

namespace RewardLedger

/-- A reply of a script, and the first word of the statements for which it is
meant, if it is meant for some only. -/
structure ScriptedReply where
  word : Option String
  reply : DatabaseReply
  deriving DecidableEq, Repr

/-- A scripted database, and its connection to the store. -/
structure ScriptedDatabase where
  /-- The replies to come. -/
  script : List ScriptedReply
  /-- The statements it was sent, newest first. -/
  sent : List Statement
  /-- A connection is open. -/
  connected : Bool
  /-- The store let go of the database. -/
  closed : Bool
  deriving DecidableEq, Repr

namespace Statement

/-- The first word of a statement. -/
def word (s : Statement) : String :=
  String.ofList (s.text.toList.takeWhile (· ≠ ' '))

/-- The statement takes only replies that are meant for it. -/
def TakesOnlyMeant (s : Statement) : Prop :=
  s.word ∈ ["BEGIN", "COMMIT", "ROLLBACK", "CREATE"]

instance (s : Statement) : Decidable s.TakesOnlyMeant :=
  inferInstanceAs (Decidable (_ ∈ _))

end Statement

namespace ScriptedDatabase

/-- A database with nothing in its script. -/
def empty : ScriptedDatabase := ⟨[], [], false, false⟩

/-- The reply is for the statement. -/
def IsFor (r : ScriptedReply) (s : Statement) : Prop :=
  match r.word with
  | none => ¬ s.TakesOnlyMeant
  | some word => word = s.word

instance (r : ScriptedReply) (s : Statement) : Decidable (IsFor r s) := by
  unfold IsFor
  split <;> infer_instance

/-- The reply to a statement, and the rest of the script. -/
def next (script : List ScriptedReply) (s : Statement) :
    DatabaseReply × List ScriptedReply :=
  match script with
  | [] => (.changed 0, [])
  | r :: rest => if IsFor r s then (r.reply, rest) else (.changed 0, r :: rest)

/-- Answer a statement. Once the store has let go nothing is sent, and there is
nothing to undo on a connection that is lost. -/
def answer (s : Statement) (d : ScriptedDatabase) : DatabaseReply × ScriptedDatabase :=
  if d.closed ∨ (s = .rollback ∧ ¬ d.connected) then (.lost, d)
  else
    let (reply, script) := next d.script s
    (reply, { d with script, sent := s :: d.sent, connected := reply ≠ .lost })

/-- Run a program of statements. -/
def run {α : Type} (p : DatabaseStep α) (d : ScriptedDatabase) :
    Outcome α × ScriptedDatabase :=
  Program.run answer p.run d

/-- Answer a request. -/
def answerRequest (d : ScriptedDatabase) : (op : StoreOp) → op.Reply × ScriptedDatabase
  | .close => (.ok (), { d with closed := true })
  | op => d.run (DatabaseStep.answer op)

/-- Start with a script, and nothing sent. -/
def load (d : ScriptedDatabase) (script : List ScriptedReply) : ScriptedDatabase :=
  { d with script, sent := [] }

end ScriptedDatabase

end RewardLedger
