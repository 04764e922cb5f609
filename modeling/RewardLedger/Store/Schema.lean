import RewardLedger.Store.Relational

/-!
# The schema of the database

The relations that the ledger keeps in a database, the types of their columns,
and the program that defines what is missing. The referrer of a user is not a
key of another row: a referrer whose row is missing is simply not credited. For
each partner there is a relation of its events whose unique key makes a second
delivery find the first one.
-/

namespace RewardLedger

/-- The types of columns. -/
inductive ColumnType where
  | int
  | smallInt
  | double
  | text
  | day
  | instant
  deriving DecidableEq, Repr

namespace ColumnType

/-- The name of a type in a definition. -/
def name : ColumnType → String
  | int => "BIGINT"
  | smallInt => "SMALLINT"
  | double => "DOUBLE PRECISION"
  | text => "TEXT"
  | day => "DATE"
  | instant => "TIMESTAMP WITH TIME ZONE"

end ColumnType

namespace Schema

/-- What is said of a column that is not a key: its name, its type and what
follows them. -/
structure Column where
  name : String
  type : ColumnType
  rules : String

/-- The text of a column in a definition. -/
def Column.text (c : Column) : String :=
  c.name ++ " " ++ c.type.name ++ if c.rules = "" then "" else " " ++ c.rules

/-- The column of identifiers that the database gives out. -/
def identifier : String := "id BIGSERIAL PRIMARY KEY"

/-- The definition of a relation. -/
def relation (name : String) (parts : List String) : String :=
  "CREATE TABLE IF NOT EXISTS " ++ name ++ " ( " ++ ", ".intercalate parts ++ " )"

/-- The definition of an index. -/
def index (name target : String) : String :=
  "CREATE INDEX IF NOT EXISTS " ++ name ++ " ON " ++ target

/-- The column of the moment at which a row was written. -/
def moment (name : String) : Column :=
  ⟨name, .instant, "NOT NULL DEFAULT CURRENT_TIMESTAMP"⟩

def users : List Column :=
  [⟨"email", .text, "NOT NULL UNIQUE"⟩, ⟨"address", .text, "NOT NULL"⟩,
    ⟨"balance", .int, "NOT NULL DEFAULT 0 CHECK (balance >= 0)"⟩,
    ⟨"total_income", .int, "NOT NULL DEFAULT 0"⟩,
    ⟨"total_income_from_referees", .int, "NOT NULL DEFAULT 0"⟩,
    ⟨"referer_total_income", .int, "NOT NULL DEFAULT 0"⟩,
    ⟨"referer_id", .int, ""⟩, ⟨"reward_interval_secs", .int, "NOT NULL DEFAULT 300"⟩,
    ⟨"rewarded_at", .instant, ""⟩, moment "created_at"]

def incomes : List Column :=
  [⟨"user_id", .int, "NOT NULL REFERENCES users(id)"⟩, ⟨"referer_id", .int, ""⟩,
    ⟨"source", .text, "NOT NULL"⟩, ⟨"amount", .int, "NOT NULL"⟩,
    ⟨"referer_amount", .int, "NOT NULL DEFAULT 0"⟩, moment "created_at"]

def dayTotals : List Column :=
  [⟨"day", .day, "PRIMARY KEY"⟩, ⟨"total", .int, "NOT NULL DEFAULT 0"⟩]

def bands : List Column :=
  [⟨"band", .text, "NOT NULL"⟩, ⟨"min", .int, "NOT NULL"⟩, ⟨"max", .int, "NOT NULL"⟩,
    ⟨"weight", .int, "NOT NULL CHECK (weight >= 0)"⟩]

def policies : List Column :=
  [⟨"total_reward_threshold", .int, "NOT NULL"⟩,
    ⟨"referer_reward_rate", .double, "NOT NULL"⟩, moment "created_at"]

def withdrawals : List Column :=
  [⟨"user_id", .int, "NOT NULL REFERENCES users(id)"⟩, ⟨"address", .text, "NOT NULL"⟩,
    ⟨"amount", .int, "NOT NULL CHECK (amount > 0)"⟩,
    ⟨"status", .smallInt, "NOT NULL DEFAULT 0"⟩, ⟨"transaction_id", .text, ""⟩,
    moment "created_at", moment "updated_at"]

def events : List Column :=
  [⟨"external_key", .text, "NOT NULL"⟩, ⟨"user_id", .int, "NOT NULL"⟩,
    ⟨"amount", .int, "NOT NULL"⟩, moment "created_at"]

/-- The texts of columns. -/
def texts (columns : List Column) : List String := columns.map (·.text)

/-- The definitions that every ledger needs. -/
def definitions : List String :=
  [relation "users" (identifier :: texts users),
    index "users_referer_idx" "users(referer_id, id)",
    relation "incomes" (identifier :: texts incomes),
    index "incomes_user_source_idx" "incomes(user_id, source, id)",
    relation "total_reward_days" (texts dayTotals),
    relation "reward_rate_bands" (identifier :: texts bands ++ ["CHECK (min <= max)"]),
    relation "configs" (identifier :: texts policies),
    relation "withdrawals" (identifier :: texts withdrawals),
    index "withdrawals_status_idx" "withdrawals(status, id)",
    index "withdrawals_user_idx" "withdrawals(user_id, id)"]

/-- The definition of the relation of a partner's events. -/
def eventRelation (name : String) : String :=
  relation name (identifier :: texts events ++ ["UNIQUE (external_key, user_id)"])

/-- The definitions of the relations of all partners' events. -/
def eventDefinitions : List String :=
  (IncomeSource.partners.filterMap (·.eventTable?)).map eventRelation

/-- Columns whose name fixes their type in every relation. All others hold
whole numbers. -/
def columnType (name : String) : ColumnType :=
  let all := users ++ incomes ++ policies ++ withdrawals ++ events
  match all.find? fun c => c.name = name with
  | some c => c.type
  | none => .int

/-- Define what is missing. -/
def create : DatabaseStep PUnit := do
  for text in definitions do
    let _ ← DatabaseStep.carryOut "create schema" (.define text)
  for text in eventDefinitions do
    let _ ← DatabaseStep.carryOut "create callback table" (.define text)

end Schema

end RewardLedger
