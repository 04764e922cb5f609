import RewardLedger.Config.Basic
import RewardLedger.Store.Relational

/-!
# Opening a store

Which store a configuration asks for.
-/

namespace RewardLedger

/-- What comes of opening a store, as far as the configuration decides it. -/
inductive Opening where
  | memory
  /-- A database is to be connected to. -/
  | database (settings : DatabaseConfig)
  | refused (cause : Error)
  deriving DecidableEq, Repr

namespace StorageConfig

/-- The store that a configuration asks for. An address that is no URL cannot
be connected to. -/
def opening (s : StorageConfig) : Opening :=
  match s.kind, s.database with
  | .memory, _ => .memory
  | .postgres, none => .refused (.config "PostgreSQL configuration not provided")
  | .postgres, some d =>
    if d.LooksLikeUrl then .database d else .refused (DatabaseStep.unreadable "connect")

end StorageConfig

end RewardLedger
