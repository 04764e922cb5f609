import RewardLedger.Store.WriteUnit

/-!
# The store in memory

A store that keeps its tables in memory. Requests are served one after the
other. A write runs as a unit: when it is refused the unit is rolled back, and
the tables are as if it had never been tried. When arithmetic leaves its range
in the middle of a unit nobody can tell what the tables are worth, and the
store is **disabled**: it refuses everything from then on.

A fail point can be armed to try how a unit goes back. It is met once.
-/

namespace RewardLedger

/-- A place in the middle of a unit where a failure can be provoked. -/
inductive FailPoint where
  /-- The income is written and no balance but the referrer's is touched. -/
  | afterIncome
  /-- The event is remembered and no income is written. -/
  | afterEvent
  /-- The balance is debited and no withdrawal is written. -/
  | afterDebit
  deriving DecidableEq, Repr

namespace FailPoint

def all : List FailPoint := [afterIncome, afterEvent, afterDebit]

/-- The name of a fail point. -/
def name : FailPoint → String
  | afterIncome => "AfterIncomeInsert"
  | afterEvent => "AfterDedupeInsert"
  | afterDebit => "AfterWithdrawalDebit"

/-- The fail point with a given name. -/
def ofName? (text : String) : Option FailPoint := all.find? fun p => p.name = text

@[simp] theorem ofName?_name (p : FailPoint) : ofName? p.name = some p := by
  cases p <;> decide

/-- The failure that a fail point provokes. -/
def failure (p : FailPoint) : Error := .unknown ("injected failure at " ++ p.name)

end FailPoint

/-- A unit under way, and the fail point that is armed. -/
structure UnitState where
  unit : WriteUnit
  armed : Option FailPoint

/-- A step of a unit. A step that does not finish leaves the unit as it is at
that moment, for whoever has to take it back. -/
abbrev UnitStep (α : Type) := ExceptT Fault (StateM UnitState) α

namespace UnitStep

/-- Refuse to go on, for a cause. -/
def refuse {α : Type} (cause : Error) : UnitStep α := throw (.error cause)

/-- Go on with a number that has to be in range. -/
def inRange (n : Option Int) : UnitStep Int :=
  match n with
  | some n => pure n
  | none => throw .outOfRange

/-- The tables at this moment. -/
def tables : UnitStep Tables := do return (← get).unit.tables

/-- Write. -/
def write (f : WriteUnit → WriteUnit) : UnitStep PUnit :=
  modify fun s => { s with unit := f s.unit }

/-- Meet a fail point: if it is armed it is disarmed, and the unit fails. -/
def passFailPoint (p : FailPoint) : UnitStep PUnit := do
  if (← get).armed = some p then
    modify fun s => { s with armed := none }
    refuse p.failure

/-- Register a user whose email is not taken. -/
def createUser (user : NewUser) (now : Instant) : UnitStep User := do
  if ((← tables).userOfEmail? user.email).isSome then
    refuse (.duplicateEmail user.email)
  write .nextUser
  let created : User :=
    { id := (← tables).counters.users
      email := user.email
      address := user.address
      balance := 0
      totalIncome := 0
      totalFromReferees := 0
      totalToReferrer := 0
      referrer := user.referrer
      rewardInterval := user.rewardInterval
      rewardedAt := none
      createdAt := now }
  write (·.addUser created)
  return created

/-- Credit a share to a referrer, if there is one with a row. -/
def creditReferrer (referrer : Option Int) (share : Int) : UnitStep Bool := do
  match referrer.bind (← tables).users.get? with
  | none => return false
  | some r =>
    let balance ← inRange (Amount.add? r.balance share)
    let totalFromReferees ← inRange (Amount.add? r.totalFromReferees share)
    write (·.putUser { r with balance, totalFromReferees })
    return true

/-- Refuse a scheduled reward that is not due. -/
def requireDue (source : IncomeSource) (user : Int) (u : User) (now : Instant) :
    UnitStep PUnit :=
  if source = .reward then
    match u.rewardDue? now with
    | none => throw .outOfRange
    | some false => refuse (.rewardNotDue user)
    | some true => pure ⟨⟩
  else pure ⟨⟩

/-- Record an income of a user, with the share that the referrer was credited. -/
def recordIncome (source : IncomeSource) (user : Int) (referrer : Option Int)
    (amount share : Int) (now : Instant) : UnitStep Income := do
  write .nextIncome
  let income : Income :=
    { id := (← tables).counters.incomes
      user
      referrer
      source
      amount
      referrerAmount := share
      createdAt := now }
  write (·.addIncome income)
  return income

/-- Credit an income to the user it was recorded for. A user may be its own
referrer, so the row is read only now, after the referrer's is written. -/
def creditUser (i : Income) : UnitStep PUnit := do
  let some row := (← tables).users.get? i.user | refuse (.noRowForUser i.user)
  let balance ← inRange (Amount.add? row.balance i.amount)
  let totalIncome ← inRange (Amount.add? row.totalIncome i.amount)
  let totalToReferrer ← inRange (Amount.add? row.totalToReferrer i.referrerAmount)
  let rewardedAt := if i.source = .reward then some i.createdAt else row.rewardedAt
  write (·.putUser { row with balance, totalIncome, totalToReferrer, rewardedAt })

/-- Credit an amount to a user and the offered share to the referrer, and
record the income. -/
def credit (source : IncomeSource) (user amount offered : Int) (now : Instant) :
    UnitStep Receipt := do
  let some u := (← tables).users.get? user | refuse (.noRowForUser user)
  requireDue source user u now
  let credited ← creditReferrer u.referrer offered
  let share := if credited then offered else 0
  let income ← recordIncome source user u.referrer amount share now
  passFailPoint .afterIncome
  creditUser income
  return ⟨income, u.address, credited⟩

/-- Count what a credit paid out into a day. -/
def countInto (day : Day) (receipt : Receipt) : UnitStep PUnit := do
  let disbursed ← inRange receipt.disbursed?
  let total ← inRange (Amount.add? ((← tables).totalOf day) disbursed)
  write (·.putDayTotal day total)

/-- Credit a scheduled reward and count it into the day. -/
def creditReward (c : RewardCredit) : UnitStep Receipt := do
  let receipt ← credit .reward c.user c.amount c.referrerAmount c.now
  countInto c.now.day receipt
  return receipt

/-- Credit a partner's event that was not credited before. -/
def creditPartner (c : PartnerCredit) : UnitStep Receipt := do
  if c.event ∈ (← tables).events then
    refuse (.duplicate c.source c.key c.user)
  write (·.addEvent c.event)
  passFailPoint .afterEvent
  credit c.source c.user c.amount c.referrerAmount c.now

/-- Debit a balance that covers the amount, and create a withdrawal. -/
def createWithdrawal (order : NewWithdrawal) : UnitStep Withdrawal := do
  let some u := ((← tables).users.get? order.user).filter (order.amount ≤ ·.balance)
    | refuse (.insufficientBalance order.user order.amount)
  let balance ← inRange (Amount.sub? u.balance order.amount)
  write (·.putUser { u with balance })
  passFailPoint .afterDebit
  write .nextWithdrawal
  let created : Withdrawal :=
    { id := (← tables).counters.withdrawals
      user := order.user
      address := order.address
      amount := order.amount
      status := .pending
      transaction := none
      createdAt := order.now
      updatedAt := order.now }
  write (·.putWithdrawal created)
  return created

/-- Move those of the named withdrawals that are in a status to another one;
their number. -/
def advanceEach (current next : WithdrawalStatus) (transaction : Option String)
    (now : Instant) : List Int → UnitStep Nat
  | [] => return 0
  | id :: rest => do
    match ((← tables).withdrawals.get? id).filter (·.status = current) with
    | none => advanceEach current next transaction now rest
    | some x =>
      write (·.putWithdrawal
        { x with
          status := next
          transaction := transaction.or x.transaction
          updatedAt := now })
      return (← advanceEach current next transaction now rest) + 1

/-- Move all of the named withdrawals, or none. -/
def advance (ids : List Int) (current next : WithdrawalStatus)
    (transaction : Option String) (now : Instant) : UnitStep Nat := do
  let ids := distinctAscending ids
  let affected ← advanceEach current next transaction now ids
  if affected ≠ ids.length then
    refuse (.batchMismatch ids.length affected)
  return affected

end UnitStep

/-- A store in memory. -/
structure Memory where
  tables : Tables
  armed : Option FailPoint
  /-- A unit was abandoned half way. -/
  disabled : Bool
  deriving DecidableEq

namespace Memory

/-- A new store. -/
def empty : Memory := ⟨.empty, none, false⟩

instance : Inhabited Memory := ⟨empty⟩

/-- What a disabled store answers. -/
def disabledError : Error :=
  .unknown "Lock error: poisoned lock: another task failed inside"

/-- Arm a fail point, and disarm any other. -/
def arm (m : Memory) (p : FailPoint) : Memory := { m with armed := some p }

/-- Run a unit: keep what it wrote if it finished, and go back if it was
refused. -/
def transact {α : Type} (work : UnitStep α) (m : Memory) : Outcome α × Memory :=
  if m.disabled then (.refuse disabledError, m)
  else
    match work.run ⟨.start m.tables, m.armed⟩ with
    | (.ok a, s) => (.ok a, { m with tables := s.unit.tables, armed := s.armed })
    | (.error (.error cause), s) =>
      (.refuse cause, { m with tables := s.unit.rollback, armed := s.armed })
    | (.error .outOfRange, s) =>
      (.error .outOfRange, ⟨s.unit.tables, s.armed, true⟩)

/-- Ask the tables. -/
def read {α : Type} (query : Tables → α) (m : Memory) : Outcome α :=
  if m.disabled then .refuse disabledError else .ok (query m.tables)

/-- Set a policy. -/
def addPolicy (p : RewardPolicy) : Memory → Outcome PUnit × Memory :=
  transact (UnitStep.write (·.addPolicy p))

/-- Add a band. -/
def addBand (b : RewardBand) : Memory → Outcome PUnit × Memory :=
  transact (UnitStep.write (·.addBand b))

/-- The user with an identifier. -/
def user (id : Int) (m : Memory) : Outcome User :=
  match m.read (·.users.get? id) with
  | .ok (some u) => .ok u
  | .ok none => .refuse (.noSuchUser id)
  | .error e => .error e

/-- Answer a request. -/
def answer (m : Memory) : (op : StoreOp) → op.Reply × Memory
  | .createUser user now => m.transact (UnitStep.createUser user now)
  | .user id => (m.user id, m)
  | .referees referrer limit offset =>
    (m.read fun t => Tables.page limit offset (t.refereesOf referrer), m)
  | .withdrawableUsers minBalance => (m.read (·.withdrawable minBalance), m)
  | .latestPolicy => (m.read (·.latestPolicy?), m)
  | .rewardBands level => (m.read (·.bandsOf level), m)
  | .dayTotal day => (m.read fun t => ⟨day, t.totalOf day⟩, m)
  | .creditReward credit => m.transact (UnitStep.creditReward credit)
  | .creditPartner credit =>
    if credit.source.IsPartner then m.transact (UnitStep.creditPartner credit)
    else (.refuse (.invalidSource credit.source.name), m)
  | .incomes user source limit offset =>
    (m.read fun t => Tables.page limit offset (t.incomesOf user source).reverse, m)
  | .countIncomes user source => (m.read fun t => (t.incomesOf user source).length, m)
  | .createWithdrawal order => m.transact (UnitStep.createWithdrawal order)
  | .advanceWithdrawals ids current next transaction now =>
    m.transact (UnitStep.advance ids current next transaction now)
  | .withdrawals user limit offset =>
    (m.read fun t => Tables.page limit offset (t.withdrawalsOf user).reverse, m)
  | .withdrawalsByStatus status limit =>
    (m.read fun t => Tables.page limit 0 (t.withdrawalsIn status), m)
  | .checkHealth => (m.read fun _ => (), m)
  | .close => (.ok (), m)

end Memory

end RewardLedger
