import RewardLedger.Store.Tables

/-!
# Write units

A **write unit** is a group of writes of which all are kept or none. It works
on the tables directly and remembers how to go back: a journal of the rows that
were replaced, newest first, and a savepoint with the lengths of the lists that
only grow and with the identifiers given out.

A row may be written several times in one unit. Each write journals the row as
it found it, so going back has to replay the journal from the newest entry to
the oldest; the oldest entry of a row is the one that counts in the end.
-/

namespace RewardLedger

/-- How to take one write back. -/
inductive Undo where
  /-- The row of a user before a write, if there was one. -/
  | user (id : Int) (before : Option User)
  /-- The row of a withdrawal before a write, if there was one. -/
  | withdrawal (id : Int) (before : Option Withdrawal)
  /-- The total of a day before a write, if there was one. -/
  | dayTotal (day : Int) (before : Option Int)
  /-- An event that was not there before. -/
  | event (event : PartnerEvent)
  deriving DecidableEq, Repr

/-- What is remembered of the tables that only grow. -/
structure Savepoint where
  incomes : Nat
  policies : Nat
  bands : Nat
  counters : Counters
  deriving DecidableEq, Repr

/-- The savepoint of tables. -/
def Savepoint.of (t : Tables) : Savepoint :=
  ⟨t.incomes.length, t.policies.length, t.bands.length, t.counters⟩

/-- Tables in the middle of a unit, and how to go back to its beginning. -/
structure WriteUnit where
  tables : Tables
  /-- Newest first. -/
  journal : List Undo
  savepoint : Savepoint
  deriving DecidableEq

namespace WriteUnit

/-- The beginning of a unit. -/
def start (t : Tables) : WriteUnit := ⟨t, [], .of t⟩

/-! ## Writing -/

/-- Put the row of a user who is registered already. -/
def putUser (w : WriteUnit) (u : User) : WriteUnit :=
  { w with
    tables.users := w.tables.users.insert u.id u
    journal := .user u.id (w.tables.users.get? u.id) :: w.journal }

/-- Put the row of a new user and register the email. -/
def addUser (w : WriteUnit) (u : User) : WriteUnit :=
  { w with
    tables.users := w.tables.users.insert u.id u
    tables.emails := (u.email, u.id) :: w.tables.emails.filter fun e => e.1 ≠ u.email
    journal := .user u.id (w.tables.users.get? u.id) :: w.journal }

/-- Put the row of a withdrawal under a key, whatever its own identifier is. -/
def putWithdrawalAt (w : WriteUnit) (id : Int) (x : Withdrawal) : WriteUnit :=
  { w with
    tables.withdrawals := w.tables.withdrawals.insert id x
    journal := .withdrawal id (w.tables.withdrawals.get? id) :: w.journal }

/-- Put the row of a withdrawal under its own identifier, new or not. -/
def putWithdrawal (w : WriteUnit) (x : Withdrawal) : WriteUnit := w.putWithdrawalAt x.id x

/-- Put the total of a day. -/
def putDayTotal (w : WriteUnit) (day : Day) (total : Int) : WriteUnit :=
  { w with
    tables.dayTotals := w.tables.dayTotals.insert day.number total
    journal := .dayTotal day.number (w.tables.dayTotals.get? day.number) :: w.journal }

/-- Remember an event that is not remembered yet. -/
def addEvent (w : WriteUnit) (e : PartnerEvent) : WriteUnit :=
  { w with
    tables.events := e :: w.tables.events
    journal := .event e :: w.journal }

/-- Add an income at the end. -/
def addIncome (w : WriteUnit) (i : Income) : WriteUnit :=
  { w with tables.incomes := w.tables.incomes ++ [i] }

/-- Add a policy at the end. -/
def addPolicy (w : WriteUnit) (p : RewardPolicy) : WriteUnit :=
  { w with tables.policies := w.tables.policies ++ [p] }

/-- Add a band at the end. -/
def addBand (w : WriteUnit) (b : RewardBand) : WriteUnit :=
  { w with tables.bands := w.tables.bands ++ [b] }

/-- Give out the next identifier of a user. -/
def nextUser (w : WriteUnit) : WriteUnit :=
  { w with tables.counters.users := w.tables.counters.users + 1 }

/-- Give out the next identifier of an income. -/
def nextIncome (w : WriteUnit) : WriteUnit :=
  { w with tables.counters.incomes := w.tables.counters.incomes + 1 }

/-- Give out the next identifier of a withdrawal. -/
def nextWithdrawal (w : WriteUnit) : WriteUnit :=
  { w with tables.counters.withdrawals := w.tables.counters.withdrawals + 1 }

/-! ## Going back -/

/-- Take one write back. Taking back a user also takes back the email. -/
def undo (t : Tables) : Undo → Tables
  | .user id (some u) => { t with users := t.users.insert id u }
  | .user id none =>
    match t.users.get? id with
    | none => t
    | some u =>
      { t with
        users := t.users.erase id
        emails := t.emails.filter fun e => e.1 ≠ u.email }
  | .withdrawal id (some x) => { t with withdrawals := t.withdrawals.insert id x }
  | .withdrawal id none => { t with withdrawals := t.withdrawals.erase id }
  | .dayTotal day (some total) => { t with dayTotals := t.dayTotals.insert day total }
  | .dayTotal day none => { t with dayTotals := t.dayTotals.erase day }
  | .event e => { t with events := t.events.erase e }

/-- Cut the tables that only grow back to a savepoint. -/
def truncate (t : Tables) (s : Savepoint) : Tables :=
  { t with
    incomes := t.incomes.take s.incomes
    policies := t.policies.take s.policies
    bands := t.bands.take s.bands
    counters := s.counters }

/-- The tables as they were when the unit began. -/
def rollback (w : WriteUnit) : Tables :=
  truncate (w.journal.foldl undo w.tables) w.savepoint

@[simp] theorem tables_start (t : Tables) : (start t).tables = t := rfl

@[simp] theorem rollback_start (t : Tables) : (start t).rollback = t := by
  simp [start, rollback, truncate, Savepoint.of]

end WriteUnit

end RewardLedger
