import RewardLedger.Store.Operation

/-!
# Statements to a database

A relational store speaks to its database in statements of a fixed set. A
statement is named for what it does and carries its values; its text, with
numbered places for the values, and the list of values are derived from it.
What comes back is a reply: rows, a count, a refusal, or nothing at all
because the connection is lost.
-/

namespace RewardLedger

/-- One statement. -/
inductive Statement where
  /-- Begin a transaction. -/
  | start
  /-- Keep what the transaction did. -/
  | commit
  /-- Undo what the transaction did. -/
  | rollback
  /-- Define a relation or an index, if it is not there. -/
  | define (text : String)
  /-- Ask for nothing, to see whether the database answers. -/
  | ping
  | insertUser (user : NewUser) (now : Instant)
  | selectUser (id : Int)
  | selectReferees (referrer limit offset : Int)
  | selectWithdrawable (minBalance : Int)
  | selectPolicy
  | selectBands (level : PoolLevel)
  | selectDayTotal (day : Day)
  /-- The referrer that a user named. -/
  | selectReferrer (user : Int)
  /-- Lock the rows of users in ascending order, and read them. -/
  | lockUsers (ids : List Int)
  /-- Add a share to the referrer's balance. -/
  | creditReferrer (share referrer : Int)
  | insertIncome (user : Int) (referrer : Option Int) (source : IncomeSource)
      (amount share : Int) (now : Instant)
  /-- Add an amount to the user's balance, and the time of a reward. -/
  | creditUser (amount share : Int) (rewardedAt : Option Instant) (user : Int)
  /-- Add to the total of a day. -/
  | addToDay (day : Day) (amount : Int)
  /-- Remember a partner's event in its relation, unless it is there. -/
  | insertEvent (relation : String) (event : PartnerEvent) (amount : Int) (now : Instant)
  | selectIncomes (user : Int) (source : Option IncomeSource) (limit offset : Int)
  | countIncomes (user : Int) (source : Option IncomeSource)
  /-- Take an amount off a balance that covers it. -/
  | debitUser (amount user : Int)
  | insertWithdrawal (order : NewWithdrawal)
  | advanceWithdrawals (next : WithdrawalStatus) (transaction : Option String)
      (now : Instant) (ids : List Int) (current : WithdrawalStatus)
  | selectWithdrawals (user limit offset : Int)
  | selectWithdrawalsByStatus (status : WithdrawalStatus) (limit : Int)
  deriving DecidableEq, Repr

/-- A value that takes a place in the text of a statement. -/
inductive BoundValue where
  | null
  | int (n : Int)
  | ints (ns : List Int)
  | text (s : String)
  | day (d : Day)
  /-- An instant, which is bound to the microsecond. -/
  | instant (t : Instant)
  deriving DecidableEq, Repr

namespace BoundValue

/-- An optional number. -/
def ofInt? : Option Int → BoundValue
  | some n => int n
  | none => null

/-- An optional text. -/
def ofText? : Option String → BoundValue
  | some s => text s
  | none => null

/-- An instant as it is bound. -/
def ofInstant (t : Instant) : BoundValue := instant t.toMicroseconds

/-- An optional instant as it is bound. -/
def ofInstant? : Option Instant → BoundValue
  | some t => ofInstant t
  | none => null

end BoundValue

namespace Statement

/-- The columns of a user. -/
def userColumns : String :=
  "id, email, address, balance, total_income, total_income_from_referees, "
    ++ "referer_total_income, referer_id, reward_interval_secs, rewarded_at, created_at"

/-- The columns of a withdrawal. -/
def withdrawalColumns : String :=
  "id, user_id, address, amount, status, transaction_id, created_at, updated_at"

/-- The text of a statement. -/
def text : Statement → String
  | start => "BEGIN"
  | commit => "COMMIT"
  | rollback => "ROLLBACK"
  | define text => text
  | ping => "SELECT 1"
  | insertUser .. =>
    "INSERT INTO users (email, address, referer_id, reward_interval_secs, created_at) "
      ++ "VALUES ($1, $2, $3, $4, $5) RETURNING " ++ userColumns
  | selectUser _ => "SELECT " ++ userColumns ++ " FROM users WHERE id = $1"
  | selectReferees .. =>
    "SELECT " ++ userColumns
      ++ " FROM users WHERE referer_id = $1 ORDER BY id LIMIT $2 OFFSET $3"
  | selectWithdrawable _ =>
    "SELECT " ++ userColumns
      ++ " FROM users WHERE balance > 0 AND balance >= $1 ORDER BY id"
  | selectPolicy =>
    "SELECT total_reward_threshold, referer_reward_rate, created_at FROM configs "
      ++ "ORDER BY created_at DESC, id DESC LIMIT 1"
  | selectBands _ =>
    "SELECT min, max, weight FROM reward_rate_bands WHERE band = $1 ORDER BY id"
  | selectDayTotal _ => "SELECT total FROM total_reward_days WHERE day = $1"
  | selectReferrer _ => "SELECT referer_id FROM users WHERE id = $1"
  | lockUsers _ =>
    "SELECT " ++ userColumns ++ " FROM users WHERE id = ANY($1) ORDER BY id FOR UPDATE"
  | creditReferrer .. =>
    "UPDATE users SET balance = balance + $1, "
      ++ "total_income_from_referees = total_income_from_referees + $1 WHERE id = $2"
  | insertIncome .. =>
    "INSERT INTO incomes (user_id, referer_id, source, amount, referer_amount, created_at) "
      ++ "VALUES ($1, $2, $3, $4, $5, $6) RETURNING id"
  | creditUser .. =>
    "UPDATE users SET balance = balance + $1, total_income = total_income + $1, "
      ++ "referer_total_income = referer_total_income + $2, "
      ++ "rewarded_at = COALESCE($3, rewarded_at) WHERE id = $4"
  | addToDay .. =>
    "INSERT INTO total_reward_days (day, total) VALUES ($1, $2) "
      ++ "ON CONFLICT (day) DO UPDATE SET total = total_reward_days.total + EXCLUDED.total"
  | insertEvent relation .. =>
    "INSERT INTO " ++ relation ++ " (external_key, user_id, amount, created_at) "
      ++ "VALUES ($1, $2, $3, $4) ON CONFLICT (external_key, user_id) DO NOTHING"
  | selectIncomes .. =>
    "SELECT id, user_id, referer_id, source, amount, referer_amount, created_at "
      ++ "FROM incomes WHERE user_id = $1 AND ($2::TEXT IS NULL OR source = $2) "
      ++ "ORDER BY id DESC LIMIT $3 OFFSET $4"
  | countIncomes .. =>
    "SELECT COUNT(*) FROM incomes WHERE user_id = $1 "
      ++ "AND ($2::TEXT IS NULL OR source = $2)"
  | debitUser .. =>
    "UPDATE users SET balance = balance - $1 WHERE id = $2 AND balance >= $1"
  | insertWithdrawal _ =>
    "INSERT INTO withdrawals (user_id, address, amount, status, created_at, updated_at) "
      ++ "VALUES ($1, $2, $3, $4, $5, $5) RETURNING " ++ withdrawalColumns
  | advanceWithdrawals .. =>
    "UPDATE withdrawals SET status = $1, "
      ++ "transaction_id = COALESCE($2, transaction_id), updated_at = $3 "
      ++ "WHERE id = ANY($4) AND status = $5"
  | selectWithdrawals .. =>
    "SELECT " ++ withdrawalColumns
      ++ " FROM withdrawals WHERE user_id = $1 ORDER BY id DESC LIMIT $2 OFFSET $3"
  | selectWithdrawalsByStatus .. =>
    "SELECT " ++ withdrawalColumns
      ++ " FROM withdrawals WHERE status = $1 ORDER BY id LIMIT $2"

/-- The values of a statement, in the order of their places. -/
def values : Statement → List BoundValue
  | start | commit | rollback | define _ | ping | selectPolicy => []
  | insertUser user now =>
    [.text user.email, .text user.address, .ofInt? user.referrer,
      .int user.rewardInterval, .ofInstant now]
  | selectUser id => [.int id]
  | selectReferees referrer limit offset => [.int referrer, .int limit, .int offset]
  | selectWithdrawable minBalance => [.int minBalance]
  | selectBands level => [.text level.name]
  | selectDayTotal day => [.day day]
  | selectReferrer user => [.int user]
  | lockUsers ids => [.ints ids]
  | creditReferrer share referrer => [.int share, .int referrer]
  | insertIncome user referrer source amount share now =>
    [.int user, .ofInt? referrer, .text source.name, .int amount, .int share,
      .ofInstant now]
  | creditUser amount share rewardedAt user =>
    [.int amount, .int share, .ofInstant? rewardedAt, .int user]
  | addToDay day amount => [.day day, .int amount]
  | insertEvent _ event amount now =>
    [.text event.key, .int event.user, .int amount, .ofInstant now]
  | selectIncomes user source limit offset =>
    [.int user, .ofText? (source.map (·.name)), .int limit, .int offset]
  | countIncomes user source => [.int user, .ofText? (source.map (·.name))]
  | debitUser amount user => [.int amount, .int user]
  | insertWithdrawal order =>
    [.int order.user, .text order.address, .int order.amount,
      .int WithdrawalStatus.pending.code, .ofInstant order.now]
  | advanceWithdrawals next transaction now ids current =>
    [.int next.code, .ofText? transaction, .ofInstant now, .ints ids, .int current.code]
  | selectWithdrawals user limit offset => [.int user, .int limit, .int offset]
  | selectWithdrawalsByStatus status limit => [.int status.code, .int limit]

/-- The statement begins, ends or undoes a transaction. -/
def IsBracket : Statement → Prop
  | start | commit | rollback => True
  | _ => False

instance (s : Statement) : Decidable s.IsBracket := by
  cases s <;> simp only [IsBracket] <;> infer_instance

end Statement

/-! ## Replies -/

/-- One value of a row. The absent value belongs to every type. -/
inductive Cell where
  | null
  | int (n : Int)
  | smallInt (n : Int)
  | double (d : Double)
  | text (s : String)
  | day (d : Day)
  | instant (t : Instant)
  deriving DecidableEq, Repr

/-- One row: values under the names of columns. -/
structure Row where
  cells : List (String × Cell)
  deriving DecidableEq, Repr

/-- What comes back from a statement. -/
inductive DatabaseReply where
  | rows (rows : List Row)
  /-- No rows, and how many were changed. -/
  | changed (count : Nat)
  /-- The database refused the statement, with a code for the reason. -/
  | refused (code message : String)
  /-- There is no connection, or none any more. -/
  | lost
  deriving DecidableEq, Repr

namespace DatabaseReply

/-- The rows of a reply. -/
def rowList : DatabaseReply → List Row
  | rows rs => rs
  | _ => []

/-- How many rows a reply reports as touched. -/
def affected : DatabaseReply → Nat
  | rows rs => rs.length
  | changed n => n
  | _ => 0

/-- The code with which a database reports that a unique key is taken. -/
def uniqueViolation : String := "23505"

/-- The statement was refused because a unique key is taken. -/
def IsUniqueViolation : DatabaseReply → Prop
  | refused code _ => code = uniqueViolation
  | _ => False

instance (r : DatabaseReply) : Decidable r.IsUniqueViolation := by
  cases r <;> simp only [IsUniqueViolation] <;> infer_instance

/-- The detail of a failure whose wording belongs to the connection and not to
this library. -/
def connectionDetail : String := "<driver>"

/-- The detail of a failed statement, if it failed. -/
def failure? : DatabaseReply → Option String
  | refused _ message => some ("error returned from database: " ++ message)
  | lost => some connectionDetail
  | _ => none

/-- The reply that a statement was carried out, or the failure in a context. -/
def succeed (context : String) (r : DatabaseReply) : Outcome DatabaseReply :=
  match r.failure? with
  | some detail => .refuse (.unknown (context ++ ": " ++ detail))
  | none => .ok r

end DatabaseReply

namespace Row

/-- The value of a column, if the row has the column. -/
def cell? (r : Row) (column : String) : Option Cell := r.cells.lookup column

/-- Read a value that has to be there. -/
def read {α : Type} (f : Cell → Option α) (r : Row) (column : String) : Option α :=
  (r.cell? column).bind f

/-- Read a value that may be absent. -/
def readOption {α : Type} (f : Cell → Option α) (r : Row) (column : String) :
    Option (Option α) :=
  match r.cell? column with
  | none => none
  | some .null => some none
  | some c => (f c).map some

end Row

namespace Cell

def int? : Cell → Option Int
  | int n => some n
  | _ => none

def smallInt? : Cell → Option Int
  | smallInt n => some n
  | _ => none

def double? : Cell → Option Double
  | double d => some d
  | _ => none

def text? : Cell → Option String
  | text s => some s
  | _ => none

def instant? : Cell → Option Instant
  | instant t => some t
  | _ => none

end Cell

end RewardLedger
