import RewardLedger.Proofs.Database.Row
import RewardLedger.Store.Tables

/-!
# A database that does what it is told

The statements of a relational store, each with its standard meaning over the
relations of the schema. A relation is a bag of rows: nothing is said about the
order in which a database keeps them, so a statement that names no order may
not rely on one. A transaction works on relations of its own until it is kept or
undone. What is refused inside a transaction leaves nothing to it but to be
undone. Identifiers are given out for good: those of a transaction that is
undone are lost.

One client is served at a time, and nothing fails that the statements and the
schema do not make fail. The schema gives amounts and identifiers a range, and days
and instants none. A real database has one for them too: its `DATE` and `TIMESTAMPTZ`
columns hold nothing from before the year 4713 before Christ, and it refuses what they
cannot hold. Here all of them are kept, so what is shown of this database holds of a
real one for the days and instants in its range.
-/

namespace RewardLedger

/-- A text that no database takes: it holds the character zero. -/
def Text.HasNul (s : String) : Prop := '\x00' ∈ s.toList

instance (s : String) : Decidable (Text.HasNul s) := inferInstanceAs (Decidable (_ ∈ _))

/-- A value that cannot be bound. -/
def BoundValue.HasNul : BoundValue → Prop
  | text s => Text.HasNul s
  | _ => False

instance : DecidablePred BoundValue.HasNul
  | .text s => inferInstanceAs (Decidable (Text.HasNul s))
  | .null | .int _ | .ints _ | .day _ | .instant _ => instDecidableFalse

/-- One of the values of the statement cannot be bound. -/
def Statement.HasNul (s : Statement) : Prop := ∃ v ∈ s.values, v.HasNul

instance (s : Statement) : Decidable s.HasNul :=
  inferInstanceAs (Decidable (∃ v ∈ s.values, v.HasNul))

/-! ## Relations -/

/-- The row of a partner's event, and the relation that it is in. -/
structure EventRow where
  relation : String
  key : String
  user : Int
  amount : Int
  createdAt : Instant
  deriving DecidableEq, Repr

/-- The row is that of an event in a relation. -/
def EventRow.IsOf (row : EventRow) (relation key : String) (user : Int) : Prop :=
  row.relation = relation ∧ row.key = key ∧ row.user = user

instance (row : EventRow) (relation key : String) (user : Int) :
    Decidable (row.IsOf relation key user) := inferInstanceAs (Decidable (_ ∧ _ ∧ _))

/-- The relations of the ledger, each with its rows in some order. Policies and
bands have identifiers in the database only. -/
structure Relations where
  users : List User
  incomes : List Income
  withdrawals : List Withdrawal
  dayTotals : List DayTotal
  policies : List (Int × RewardPolicy)
  bands : List (Int × RewardBand)
  events : List EventRow

/-- What a statement comes to if it is not refused, or the refusal. -/
abbrev Carried (α : Type) := Except DatabaseReply α

namespace Carried

/-- A number is out of the range of its column. -/
def outOfRange : DatabaseReply := .refused "22003" "bigint out of range"

/-- A key is taken. -/
def keyTaken (key : String) : DatabaseReply :=
  .refused DatabaseReply.uniqueViolation
    ("duplicate key value violates unique constraint \"" ++ key ++ "\"")

/-- The row that a column refers to is missing. -/
def keyMissing (key : String) : DatabaseReply :=
  .refused "23503" ("insert or update violates foreign key constraint \"" ++ key ++ "\"")

/-- A row does not pass a check of its relation. -/
def checkFailed (check : String) : DatabaseReply :=
  .refused "23514" ("new row violates check constraint \"" ++ check ++ "\"")

/-- Go on only if nothing is in the way. -/
def refuseIf (p : Prop) [Decidable p] (refusal : DatabaseReply) : Carried PUnit :=
  if p then .error refusal else .ok ⟨⟩

/-- A sum that has to be in range. -/
def sum (a b : Int) : Carried Int :=
  match Amount.add? a b with
  | some n => .ok n
  | none => .error outOfRange

/-- A difference that has to be in range. -/
def difference (a b : Int) : Carried Int :=
  match Amount.sub? a b with
  | some n => .ok n
  | none => .error outOfRange

end Carried

namespace Relations

variable {ρ : Type}

/-- Rows in ascending order of a key. -/
def ascending (key : ρ → Int) (rows : List ρ) : List ρ :=
  rows.mergeSort fun a b => key a ≤ key b

/-- Rows in descending order of a key. -/
def descending (key : ρ → Int) (rows : List ρ) : List ρ :=
  rows.mergeSort fun a b => key b ≤ key a

/-- One policy comes before another when the latest are to come first: it was
set later, or at the same instant with a greater identifier. -/
def Precedes (a b : Int × RewardPolicy) : Prop :=
  ¬ a.2.createdAt ≤ b.2.createdAt ∨ (a.2.createdAt = b.2.createdAt ∧ b.1 ≤ a.1)

instance (a b : Int × RewardPolicy) : Decidable (Precedes a b) :=
  inferInstanceAs (Decidable (_ ∨ _))

/-- At most so many rows after the first ones. -/
def limited (limit offset : Int) (rows : List ρ) : Carried (List ρ) := do
  Carried.refuseIf (limit < 0) (.refused "2201W" "LIMIT must not be negative")
  Carried.refuseIf (offset < 0) (.refused "2201X" "OFFSET must not be negative")
  return (rows.drop offset.toNat).take limit.toNat

/-- Change all rows that satisfy a condition, or none if the new values of one
are refused. -/
def update (p : ρ → Prop) [DecidablePred p] (f : ρ → Carried ρ) (rows : List ρ) :
    Carried (List ρ) :=
  rows.mapM fun row => if p row then f row else .ok row

/-- The balance of a user may not be negative. -/
def checkUser (u : User) : Carried User := do
  Carried.refuseIf (u.balance < 0) (Carried.checkFailed "users_balance_check")
  return u

/-- Change the rows of some users. -/
def updateUsers (r : Relations) (p : User → Prop) [DecidablePred p] (f : User → Carried User) :
    Carried (DatabaseReply × Relations) := do
  let users ← update p (fun u => f u >>= checkUser) r.users
  return (.changed (r.users.countP p), { r with users })

/-- The reply with rows, which leaves the relations as they are. -/
def reply (r : Relations) (rows : List Row) : DatabaseReply × Relations := (.rows rows, r)

/-- **What a statement does**, given the identifiers that were given out last,
its own included. Days and instants are kept without the range that the columns of
a real database have for them. -/
def perform (r : Relations) (given : Counters) : Statement → Carried (DatabaseReply × Relations)
  | .start | .commit | .rollback | .define _ => return (.changed 0, r)
  | .ping => return r.reply [.ofCell "?column?" (.int 1)]
  | .insertUser new now => do
    let u : User :=
      { id := given.users
        email := new.email
        address := new.address
        balance := 0
        totalIncome := 0
        totalFromReferees := 0
        totalToReferrer := 0
        referrer := new.referrer
        rewardInterval := new.rewardInterval
        rewardedAt := none
        createdAt := now.toMicroseconds }
    Carried.refuseIf (∃ v ∈ r.users, v.id = u.id) (Carried.keyTaken "users_pkey")
    Carried.refuseIf (∃ v ∈ r.users, v.email = u.email) (Carried.keyTaken "users_email_key")
    return (.rows [.ofUser u], { r with users := u :: r.users })
  | .selectUser id => return r.reply ((r.users.filter (·.id = id)).map .ofUser)
  | .selectReferees referrer limit offset => do
    let rows ← limited limit offset
      (ascending (·.id) (r.users.filter fun u => u.referrer = some referrer))
    return r.reply (rows.map .ofUser)
  | .selectWithdrawable minBalance =>
    return r.reply ((ascending (·.id)
      (r.users.filter fun u => 0 < u.balance ∧ minBalance ≤ u.balance)).map .ofUser)
  | .selectPolicy =>
    let rows := r.policies.mergeSort fun a b => Precedes a b
    return r.reply ((rows.take 1).map fun row => .ofPolicy row.2)
  | .selectBands level =>
    let rows := ascending Prod.fst (r.bands.filter fun row => row.2.level = level)
    return r.reply (rows.map fun row => .ofBand row.2)
  | .selectDayTotal day =>
    return r.reply ((r.dayTotals.filter (·.day = day)).map fun t => .ofCell "total" (.int t.total))
  | .selectReferrer id =>
    return r.reply ((r.users.filter (·.id = id)).map fun u =>
      .ofCell "referer_id" (.ofInt? u.referrer))
  | .lockUsers ids =>
    return r.reply ((ascending (·.id) (r.users.filter (·.id ∈ ids))).map .ofUser)
  | .creditReferrer share referrer =>
    r.updateUsers (·.id = referrer) fun u => do
      let balance ← Carried.sum u.balance share
      let totalFromReferees ← Carried.sum u.totalFromReferees share
      return { u with balance, totalFromReferees }
  | .insertIncome user referrer source amount share now => do
    let i : Income := ⟨given.incomes, user, referrer, source, amount, share, now.toMicroseconds⟩
    Carried.refuseIf (∃ j ∈ r.incomes, j.id = i.id) (Carried.keyTaken "incomes_pkey")
    Carried.refuseIf (¬ ∃ u ∈ r.users, u.id = user) (Carried.keyMissing "incomes_user_id_fkey")
    return (.rows [.ofCell "id" (.int i.id)], { r with incomes := i :: r.incomes })
  | .creditUser amount share rewardedAt id =>
    r.updateUsers (·.id = id) fun u => do
      let balance ← Carried.sum u.balance amount
      let totalIncome ← Carried.sum u.totalIncome amount
      let totalToReferrer ← Carried.sum u.totalToReferrer share
      let rewardedAt := (rewardedAt.map (·.toMicroseconds)).or u.rewardedAt
      return { u with balance, totalIncome, totalToReferrer, rewardedAt }
  | .addToDay day amount =>
    if ∃ t ∈ r.dayTotals, t.day = day then do
      let dayTotals ← update (·.day = day) (fun t => do
        return { t with total := ← Carried.sum t.total amount }) r.dayTotals
      return (.changed 1, { r with dayTotals })
    else return (.changed 1, { r with dayTotals := ⟨day, amount⟩ :: r.dayTotals })
  | .insertEvent relation event amount now =>
    if ∃ row ∈ r.events, row.IsOf relation event.key event.user then return (.changed 0, r)
    else
      let row : EventRow := ⟨relation, event.key, event.user, amount, now.toMicroseconds⟩
      return (.changed 1, { r with events := row :: r.events })
  | .selectIncomes user source limit offset => do
    let rows ← limited limit offset
      (descending (·.id) (r.incomes.filter fun i =>
        i.user = user ∧ (source = none ∨ source = some i.source)))
    return r.reply (rows.map .ofIncome)
  | .countIncomes user source =>
    let count := r.incomes.countP fun i =>
      i.user = user ∧ (source = none ∨ source = some i.source)
    return r.reply [.ofCell "count" (.int count)]
  | .debitUser amount id =>
    r.updateUsers (fun u => u.id = id ∧ amount ≤ u.balance) fun u => do
      return { u with balance := ← Carried.difference u.balance amount }
  | .insertWithdrawal order => do
    let w : Withdrawal :=
      { id := given.withdrawals
        user := order.user
        address := order.address
        amount := order.amount
        status := .pending
        transaction := none
        createdAt := order.now.toMicroseconds
        updatedAt := order.now.toMicroseconds }
    Carried.refuseIf (∃ x ∈ r.withdrawals, x.id = w.id) (Carried.keyTaken "withdrawals_pkey")
    Carried.refuseIf (w.amount ≤ 0) (Carried.checkFailed "withdrawals_amount_check")
    Carried.refuseIf (¬ ∃ u ∈ r.users, u.id = w.user)
      (Carried.keyMissing "withdrawals_user_id_fkey")
    return (.rows [.ofWithdrawal w], { r with withdrawals := w :: r.withdrawals })
  | .advanceWithdrawals next transaction now ids current => do
    let withdrawals := r.withdrawals.map fun w =>
      if w.id ∈ ids ∧ w.status = current then
        { w with
          status := next
          transaction := transaction.or w.transaction
          updatedAt := now.toMicroseconds }
      else w
    return (.changed (r.withdrawals.countP fun w => w.id ∈ ids ∧ w.status = current),
      { r with withdrawals })
  | .selectWithdrawals user limit offset => do
    let rows ← limited limit offset
      (descending (·.id) (r.withdrawals.filter (·.user = user)))
    return r.reply (rows.map .ofWithdrawal)
  | .selectWithdrawalsByStatus status limit => do
    let rows ← limited limit 0
      (ascending (·.id) (r.withdrawals.filter (·.status = status)))
    return r.reply (rows.map .ofWithdrawal)

end Relations

/-! ## The database -/

/-- The identifiers given out once a statement was tried. -/
def Counters.draw (given : Counters) : Statement → Counters
  | .insertUser .. => { given with users := given.users + 1 }
  | .insertIncome .. => { given with incomes := given.incomes + 1 }
  | .insertWithdrawal _ => { given with withdrawals := given.withdrawals + 1 }
  | _ => given

/-- Where the connection stands. -/
inductive Session where
  /-- There is no transaction: each statement is one. -/
  | idle
  /-- A transaction has come so far. -/
  | working (relations : Relations)
  /-- The transaction can only be undone. -/
  | failed

/-- A database, and the connection to it. -/
structure Database where
  /-- What is there for everybody. -/
  relations : Relations
  /-- The last identifiers that were given out. -/
  given : Counters
  session : Session

namespace Database

/-- The relations that a statement sees. -/
def current (d : Database) : Relations :=
  match d.session with
  | .working r => r
  | _ => d.relations

/-- The statement was refused. -/
def fail (d : Database) : Database :=
  match d.session with
  | .idle => d
  | _ => { d with session := .failed }

/-- The relations as a statement left them. -/
def put (d : Database) (r : Relations) : Database :=
  match d.session with
  | .idle => { d with relations := r }
  | _ => { d with session := .working r }

/-- A statement that is no bracket, when the transaction has not failed. -/
def carry (s : Statement) (d : Database) : DatabaseReply × Database :=
  if s.HasNul then (.refused "22021" "invalid byte sequence for encoding \"UTF8\": 0x00", d.fail)
  else
    let d := { d with given := d.given.draw s }
    match d.current.perform d.given s with
    | .ok (reply, r) => (reply, d.put r)
    | .error refusal => (refusal, d.fail)

/-- **Execute a statement.** A transaction that failed is undone when it is to
be kept. -/
def execute (s : Statement) (d : Database) : DatabaseReply × Database :=
  match s, d.session with
  | .commit, .working r => (.changed 0, { d with relations := r, session := .idle })
  | .commit, _ | .rollback, _ => (.changed 0, { d with session := .idle })
  | .start, .idle => (.changed 0, { d with session := .working d.relations })
  | .start, .working _ => (.changed 0, d)
  | _, .failed =>
    (.refused "25P02"
      "current transaction is aborted, commands ignored until end of transaction block", d)
  | s, _ => carry s d

/-- Run a program of statements. -/
def run {α : Type} (d : Database) (x : DatabaseStep α) : Outcome α × Database :=
  Program.run execute x.run d

/-- Answer a request. -/
def answer (d : Database) (op : StoreOp) : op.Reply × Database := d.run (DatabaseStep.answer op)

end Database

end RewardLedger
