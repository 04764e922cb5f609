import RewardLedger.Program
import RewardLedger.Store.Statement

/-!
# The store in a relational database

Each request becomes a program of statements. A request that only reads is one
statement; a write is a transaction. Inside a transaction the program goes on
only as long as every reply is the one it needs, and asks the database to keep
the work only at the end: a program that is left in between undoes it.

A credit locks the rows of the user and of the referrer in one statement, in
ascending order, so two credits that name each other wait for one another in
the same order.
-/

namespace RewardLedger

/-- A program of statements, which may be refused. -/
abbrev DatabaseStep (α : Type) := ExceptT Fault (Program Statement fun _ => DatabaseReply) α

namespace DatabaseStep

/-- Refuse to go on, for a cause. -/
def refuse {α : Type} (cause : Error) : DatabaseStep α := throw (.error cause)

/-- Go on with an outcome. -/
def ofOutcome {α : Type} : Outcome α → DatabaseStep α
  | .ok a => pure a
  | .error e => throw e

/-- Send a statement, and take the reply as it is. -/
def send (s : Statement) : DatabaseStep DatabaseReply :=
  ExceptT.lift (Program.perform s)

/-- Send a statement that has to be carried out. -/
def carryOut (context : String) (s : Statement) : DatabaseStep DatabaseReply := do
  ofOutcome ((← send s).succeed context)

/-- The refusal of a reply that cannot be read. -/
def unreadable (context : String) : Error :=
  .unknown (context ++ ": " ++ DatabaseReply.connectionDetail)

/-- Go on with a value that could be read. -/
def readable {α : Type} (context : String) : Option α → DatabaseStep α
  | some a => pure a
  | none => refuse (unreadable context)

/-- The rows that a statement gives. -/
def rows (context : String) (s : Statement) : DatabaseStep (List Row) := do
  return (← carryOut context s).rowList

/-- The first row that a statement gives; there has to be one. -/
def firstRow (context : String) (s : Statement) : DatabaseStep Row := do
  readable context (← rows context s).head?

/-- How many rows a statement touched. -/
def affected (context : String) (s : Statement) : DatabaseStep Nat := do
  return (← carryOut context s).affected

/-- The only value of a row, read by a function. -/
def onlyCell {α : Type} (context : String) (f : Cell → Option α) (r : Row) :
    DatabaseStep α :=
  readable context (r.cells.head?.bind fun c => f c.2)

/-- Run a program as a transaction. Its work is kept if it finishes and the
database confirms that it keeps it; in all other cases it is undone. -/
def transaction {α : Type} (body : DatabaseStep α) : DatabaseStep α := do
  let _ ← carryOut "begin" .start
  match ← (ExceptT.lift body.run : DatabaseStep (Outcome α)) with
  | .error e =>
    let _ ← send .rollback
    throw e
  | .ok a =>
    match (← send .commit).succeed "commit" with
    | .ok _ => return a
    | .error e =>
      let _ ← send .rollback
      throw e

end DatabaseStep

/-! ## Rows -/

namespace Row

/-- The user of a row. -/
def user? (r : Row) : Option User := do
  let id ← r.read Cell.int? "id"
  let email ← r.read Cell.text? "email"
  let address ← r.read Cell.text? "address"
  let balance ← r.read Cell.int? "balance"
  let totalIncome ← r.read Cell.int? "total_income"
  let totalFromReferees ← r.read Cell.int? "total_income_from_referees"
  let totalToReferrer ← r.read Cell.int? "referer_total_income"
  let referrer ← r.readOption Cell.int? "referer_id"
  let rewardInterval ← r.read Cell.int? "reward_interval_secs"
  let rewardedAt ← r.readOption Cell.instant? "rewarded_at"
  let createdAt ← r.read Cell.instant? "created_at"
  some
    { id, email, address, balance, totalIncome, totalFromReferees, totalToReferrer,
      referrer, rewardInterval, rewardedAt, createdAt }

/-- The policy of a row. -/
def policy? (r : Row) : Option RewardPolicy := do
  let threshold ← r.read Cell.int? "total_reward_threshold"
  let referrerRate ← r.read Cell.double? "referer_reward_rate"
  let createdAt ← r.read Cell.instant? "created_at"
  some { threshold, referrerRate, createdAt }

/-- The band of a row from one of the lists. -/
def band? (level : PoolLevel) (r : Row) : Option RewardBand := do
  let min ← r.read Cell.int? "min"
  let max ← r.read Cell.int? "max"
  let weight ← r.read Cell.int? "weight"
  some { level, min, max, weight }

end Row

namespace DatabaseStep

/-- The user of a row. -/
def user (r : Row) : DatabaseStep User := readable "decode user" r.user?

/-- The income of a row. The name of the source is read first, and has to be
known once the identifiers before it are read. -/
def income (r : Row) : DatabaseStep Income := do
  let need {α : Type} (value : Option α) : DatabaseStep α := readable "decode income" value
  let name ← need (r.read Cell.text? "source")
  let id ← need (r.read Cell.int? "id")
  let user ← need (r.read Cell.int? "user_id")
  let referrer ← need (r.readOption Cell.int? "referer_id")
  let some source := IncomeSource.ofName? name | refuse (.invalidSource name)
  let amount ← need (r.read Cell.int? "amount")
  let referrerAmount ← need (r.read Cell.int? "referer_amount")
  let createdAt ← need (r.read Cell.instant? "created_at")
  return { id, user, referrer, source, amount, referrerAmount, createdAt }

/-- The withdrawal of a row. The code of the status is read first, and has to
be known once the fields before it are read. -/
def withdrawal (r : Row) : DatabaseStep Withdrawal := do
  let need {α : Type} (value : Option α) : DatabaseStep α :=
    readable "decode withdrawal" value
  let code ← need (r.read Cell.smallInt? "status")
  let id ← need (r.read Cell.int? "id")
  let user ← need (r.read Cell.int? "user_id")
  let address ← need (r.read Cell.text? "address")
  let amount ← need (r.read Cell.int? "amount")
  let some status := WithdrawalStatus.ofCode? code | refuse (.unknownStatus code)
  let transaction ← need (r.readOption Cell.text? "transaction_id")
  let createdAt ← need (r.read Cell.instant? "created_at")
  let updatedAt ← need (r.read Cell.instant? "updated_at")
  return { id, user, address, amount, status, transaction, createdAt, updatedAt }

/-! ## Requests -/

def createUser (new : NewUser) (now : Instant) : DatabaseStep User := do
  let reply ← send (.insertUser new now)
  if reply.IsUniqueViolation then
    refuse (.duplicateEmail new.email)
  let reply ← ofOutcome (reply.succeed "create user")
  user (← readable "create user" reply.rowList.head?)

def getUser (id : Int) : DatabaseStep User := do
  match (← rows "get user" (.selectUser id)).head? with
  | none => refuse (.noSuchUser id)
  | some row => user row

def latestPolicy : DatabaseStep (Option RewardPolicy) := do
  match (← rows "get config" .selectPolicy).head? with
  | none => return none
  | some row => return some (← readable "decode config" row.policy?)

def rewardBands (level : PoolLevel) : DatabaseStep (List RewardBand) := do
  (← rows "get reward rates" (.selectBands level)).mapM fun row =>
    readable "decode reward rate" (row.band? level)

def dayTotal (day : Day) : DatabaseStep DayTotal := do
  let context := "get total reward"
  match (← rows context (.selectDayTotal day)).head? with
  | none => return .empty day
  | some row => return ⟨day, ← onlyCell context Cell.int? row⟩

/-- The referrer that a user named, as the user's row has it now. -/
def referrerOf (user : Int) : DatabaseStep (Option Int) := do
  let context := "get referer"
  match (← rows context (.selectReferrer user)).head? with
  | none => refuse (.noRowForUser user)
  | some row =>
    onlyCell context (fun c => if c = .null then some none else c.int?.map some) row

/-- Lock the rows of a user and of the referrer; the users they hold. -/
def lockUsers (id : Int) (referrer : Option Int) : DatabaseStep (List User) := do
  (← rows "lock users" (.lockUsers (id :: referrer.toList))).mapM user

/-- The user to be credited among those whose rows were locked, if a reward to
it is due. -/
def payee (source : IncomeSource) (id : Int) (now : Instant) (locked : List User) :
    Outcome User :=
  match (locked.filter (·.id = id)).getLast? with
  | none => .refuse (.noRowForUser id)
  | some u =>
    if source = .reward then
      match u.rewardDue? now with
      | none => .error .outOfRange
      | some false => .refuse (.rewardNotDue id)
      | some true => .ok u
    else .ok u

/-- Credit a share to the referrer, if its row is among the locked ones; whether
that was done. -/
def creditReferrer (referrer : Option Int) (locked : List User) (share : Int) :
    DatabaseStep Bool :=
  match referrer.filter fun r => locked.any (·.id = r) with
  | none => pure false
  | some r => do return (← affected "credit referer" (.creditReferrer share r)) == 1

/-- Record an income of a user, with the share that the referrer was credited. -/
def recordIncome (source : IncomeSource) (user : Int) (referrer : Option Int)
    (amount share : Int) (now : Instant) : DatabaseStep Income := do
  let statement := Statement.insertIncome user referrer source amount share now
  let row ← firstRow "insert income" statement
  let id ← readable "decode income" (row.read Cell.int? "id")
  return ⟨id, user, referrer, source, amount, share, now⟩

/-- Credit an income to the user it was recorded for. -/
def creditUser (i : Income) : DatabaseStep PUnit := do
  let rewardedAt := if i.source = .reward then some i.createdAt else none
  let statement := Statement.creditUser i.amount i.referrerAmount rewardedAt i.user
  let touched ← affected "credit user" statement
  if touched ≠ 1 then
    refuse (.missingRow ("user " ++ Text.ofInt i.user ++ " vanished during credit"))

/-- Credit an amount to a user and the offered share to the referrer, if its
row is among the locked ones, and record the income. -/
def credit (source : IncomeSource) (id amount offered : Int) (now : Instant) :
    DatabaseStep Receipt := do
  let referrer ← referrerOf id
  let locked ← lockUsers id referrer
  let u ← ofOutcome (payee source id now locked)
  let credited ← creditReferrer referrer locked offered
  let share := if credited then offered else 0
  let income ← recordIncome source id referrer amount share now
  creditUser income
  return ⟨income, u.address, credited⟩

def creditReward (c : RewardCredit) : DatabaseStep Receipt := transaction do
  let receipt ← credit .reward c.user c.amount c.referrerAmount c.now
  let disbursed ← ofOutcome (.ofRange receipt.disbursed?)
  let _ ← carryOut "update total reward" (.addToDay c.now.day disbursed)
  return receipt

def creditPartner (c : PartnerCredit) : DatabaseStep Receipt := do
  let some relation := c.source.eventTable? | refuse (.invalidSource c.source.name)
  transaction do
    let inserted ← affected "insert callback" (.insertEvent relation c.event c.amount c.now)
    if inserted = 0 then
      refuse (.duplicate c.source c.key c.user)
    credit c.source c.user c.amount c.referrerAmount c.now

def createWithdrawal (order : NewWithdrawal) : DatabaseStep Withdrawal := transaction do
  let debited ← affected "debit user" (.debitUser order.amount order.user)
  if debited ≠ 1 then
    refuse (.insufficientBalance order.user order.amount)
  withdrawal (← firstRow "insert withdrawal" (.insertWithdrawal order))

/-- Move all of the named withdrawals, or none. A batch without members is
done without asking. -/
def advance (ids : List Int) (current next : WithdrawalStatus)
    (transactionId : Option String) (now : Instant) : DatabaseStep Nat := do
  let ids := distinctAscending ids
  if ids = [] then
    return 0
  transaction do
    let statement := Statement.advanceWithdrawals next transactionId now ids current
    let touched ← affected "advance withdrawals" statement
    if touched ≠ ids.length then
      refuse (.batchMismatch ids.length touched)
    return ids.length

/-- The program of statements that answers a request. Letting go of the store
sends nothing. -/
def answer : (op : StoreOp) → DatabaseStep op.Answer
  | .createUser new now => createUser new now
  | .user id => getUser id
  | .referees referrer limit offset => do
    let statement := Statement.selectReferees referrer (max limit 0) (max offset 0)
    (← rows "get referees" statement).mapM user
  | .withdrawableUsers minBalance => do
    (← rows "get withdrawable users" (.selectWithdrawable minBalance)).mapM user
  | .latestPolicy => latestPolicy
  | .rewardBands level => rewardBands level
  | .dayTotal day => dayTotal day
  | .creditReward c => creditReward c
  | .creditPartner c => creditPartner c
  | .incomes id source limit offset => do
    let statement := Statement.selectIncomes id source (max limit 0) (max offset 0)
    (← rows "list incomes" statement).mapM income
  | .countIncomes id source => do
    let context := "count incomes"
    onlyCell context Cell.int? (← firstRow context (.countIncomes id source))
  | .createWithdrawal order => createWithdrawal order
  | .advanceWithdrawals ids current next transactionId now =>
    advance ids current next transactionId now
  | .withdrawals id limit offset => do
    let statement := Statement.selectWithdrawals id (max limit 0) (max offset 0)
    (← rows "list withdrawals" statement).mapM withdrawal
  | .withdrawalsByStatus status limit => do
    let statement := Statement.selectWithdrawalsByStatus status (max limit 0)
    (← rows "list withdrawals by status" statement).mapM withdrawal
  | .checkHealth => do
    let _ ← carryOut "health check" .ping
  | .close => pure ()

end DatabaseStep

end RewardLedger
