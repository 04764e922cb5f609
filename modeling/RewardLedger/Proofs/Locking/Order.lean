import Mathlib.Data.Prod.Lex
import Mathlib.Data.String.Basic
import RewardLedger.Proofs.Relational.Unit
import RewardLedger.Proofs.Store.Batch

/-!
# One order for all locks

A credit in a database writes to several rows: the event of a partner, the user,
the referrer, the day. Two credits that lock the same rows in different orders
can come to wait for each other, and users may name each other as referrers, or
themselves. So all units take their locks in one order (`Lock.Precedes`): events
come before users, users before days, and users ascend.

What a unit does is said along every course of its program, for every reply of
the database and for every set of rows that a statement finds and locks. The
judgement `Program.Takes` goes through a program with the locks that are held
and the exchanges so far; it asks of each statement that it is **in order**
(`Statement.InOrder`), and says what holds at the end.

Of the database it is assumed that a statement locks no more than it says
(`Statement.locks`), that a row which comes back from the statement that locks
rows is locked, and that locks are held until the transaction is kept or rolled
back (`Statement.Leaves`). A statement may find fewer rows than it names, and it
may fail with some of its locks taken.
-/

namespace RewardLedger

/-! ## Locks -/

/-- What can be locked. -/
inductive Lock where
  /-- The key of a partner's event in its relation. -/
  | event (relation key : String) (user : Int)
  /-- The row of a user. -/
  | user (id : Int)
  /-- The total of a day, under the number of the day. -/
  | day (number : Int)
  deriving DecidableEq, Repr

namespace Lock

/-- Events come first, then users, then days. -/
def rank : Lock → Nat
  | event .. => 0
  | user _ => 1
  | day _ => 2

/-- The place of a lock among those of its kind. -/
def inner : Lock → String ×ₗ String ×ₗ Int
  | event relation key id => toLex (relation, toLex (key, id))
  | user id => toLex ("", toLex ("", id))
  | day number => toLex ("", toLex ("", number))

/-- **The order in which locks are taken.** -/
def Precedes (a b : Lock) : Prop := a.rank < b.rank ∨ a.rank = b.rank ∧ a.inner < b.inner

theorem not_precedes_self (a : Lock) : ¬ a.Precedes a := by
  rintro (h | ⟨-, h⟩)
  · exact Nat.lt_irrefl _ h
  · exact lt_irrefl _ h

theorem Precedes.trans {a b c : Lock} (first : a.Precedes b) (second : b.Precedes c) :
    a.Precedes c := by
  obtain first | ⟨same, first⟩ := first
  · obtain second | ⟨same', -⟩ := second
    · exact .inl (first.trans second)
    · exact .inl (same' ▸ first)
  · obtain second | ⟨same', second⟩ := second
    · exact .inl (same ▸ second)
    · exact .inr ⟨same.trans same', first.trans second⟩

/-- Of two locks one comes first. -/
theorem precedes_total {a b : Lock} (distinct : a ≠ b) : a.Precedes b ∨ b.Precedes a := by
  have determined (rank : a.rank = b.rank) (inner : a.inner = b.inner) : a = b := by
    cases a <;> cases b <;> cases rank
    all_goals
      obtain ⟨relation, rest⟩ := Prod.mk.inj inner
      obtain ⟨key, number⟩ := Prod.mk.inj rest
      subst_vars
      rfl
  obtain less | same | greater := lt_trichotomy a.rank b.rank
  · exact .inl (.inl less)
  · obtain less | equal | greater := lt_trichotomy a.inner b.inner
    · exact .inl (.inr ⟨same, less⟩)
    · exact absurd (determined same equal) distinct
    · exact .inr (.inr ⟨same.symm, greater⟩)
  · exact .inr (.inl greater)

/-- Users ascend. -/
theorem precedes_user {i j : Int} (less : i < j) : (user i).Precedes (user j) := by
  refine .inr ⟨rfl, ?_⟩
  refine Prod.Lex.toLex_lt_toLex.2 (.inr ⟨rfl, ?_⟩)
  exact Prod.Lex.toLex_lt_toLex.2 (.inr ⟨rfl, less⟩)

end Lock

/-! ## Statements -/

/-- **The locks that a statement of a unit takes**, in the order in which it takes
them: a key that is inserted unless it is there, rows that are locked in
ascending order, a row that is updated, and the user's row to which an inserted
row refers. -/
def Statement.locks : Statement → List Lock
  | .insertEvent relation event _ _ => [.event relation event.key event.user]
  | .lockUsers ids => (distinctAscending ids).map .user
  | .creditReferrer _ referrer => [.user referrer]
  | .insertIncome user _ _ _ _ _ => [.user user]
  | .creditUser _ _ _ user => [.user user]
  | .debitUser _ user => [.user user]
  | .insertWithdrawal order => [.user order.user]
  | .addToDay day _ => [.day day.number]
  | _ => []

/-- The user to whom a request credits something. -/
def StoreOp.payee? : StoreOp → Option Int
  | .creditReward c => some c.user
  | .creditPartner c => some c.user
  | _ => none

/-- The statement of a credit needs the row of a user for what it writes. -/
def Statement.Credits (id : Int) : Statement → Prop
  | .creditReferrer _ referrer => referrer = id
  | .insertIncome user _ _ _ _ _ => user = id
  | .creditUser _ _ _ user => user = id
  | _ => False

/-- **A statement is in order** for a unit that serves a request, holds some locks
and exchanged something already. -/
structure Statement.InOrder (op : StoreOp) (held : List Lock) (log : List Exchange)
    (s : Statement) : Prop where
  /-- The locks that it takes ascend. -/
  ascending : s.locks.Pairwise Lock.Precedes
  /-- Each of them is held already, or comes after all that are held. -/
  above : ∀ l ∈ s.locks, l ∈ held ∨ ∀ h ∈ held, h.Precedes l
  /-- The row of a user that it credits is held, and was named by the statement
  that locked rows. -/
  named : ∀ id, s.Credits id →
    .user id ∈ held ∧ ∃ ids reply, (.lockUsers ids, reply) ∈ log ∧ id ∈ ids
  /-- Rows are locked by one statement only, which names the user and the referrer
  that was found just before. -/
  single : ∀ ids, s = .lockUsers ids →
    (∀ x ∈ log, ∀ others, x.1 ≠ .lockUsers others)
      ∧ ∃ user referrer reply, op.payee? = some user
        ∧ (.selectReferrer user, reply) ∈ log ∧ DatabaseStep.referrerIn user reply = .ok referrer
        ∧ ids = user :: referrer.toList

/-- The locks of a unit are released when its transaction is rolled back, or
kept. -/
def Statement.Releases (s : Statement) (reply : DatabaseReply) : Prop :=
  s = .rollback ∨ s = .commit ∧ reply.failure? = none

instance (s : Statement) (reply : DatabaseReply) : Decidable (s.Releases reply) :=
  inferInstanceAs (Decidable (_ ∨ _))

/-- A row that comes back from the statement that locks rows is locked. -/
def Statement.Locked (s : Statement) (reply : DatabaseReply) (held : List Lock) : Prop :=
  ∀ ids, s = .lockUsers ids → reply.failure? = none → ∀ row ∈ reply.rowList,
    ∀ u, row.user? = some u → u.id ∈ ids → .user u.id ∈ held

/-- **The locks with which a statement may leave a unit** that held some: none
when it ends the transaction, and otherwise some of its own besides. -/
structure Statement.Leaves (s : Statement) (reply : DatabaseReply) (held held' : List Lock) :
    Prop where
  released : s.Releases reply → held' = []
  kept : ¬ s.Releases reply → ∀ l ∈ held, l ∈ held'
  own : ∀ l ∈ held', l ∈ held ∨ l ∈ s.locks
  locked : ¬ s.Releases reply → s.Locked reply held'

/-- A statement that takes nothing more leaves what was held, or releases it. -/
theorem Statement.leaves_if {s : Statement} {reply : DatabaseReply} {held : List Lock}
    (locked : s.Locked reply held) :
    s.Leaves reply held (if s.Releases reply then [] else held) := by
  by_cases ends : s.Releases reply
  · rw [if_pos ends]
    exact ⟨fun _ => rfl, fun going => absurd ends going, nofun, fun going => absurd ends going⟩
  · rw [if_neg ends]
    exact ⟨fun released => absurd released ends, fun _ _ hl => hl, fun _ hl => .inl hl,
      fun _ => locked⟩

/-- A lock of its own that a statement has taken already it may leave as well. -/
theorem Statement.Leaves.of_taken {s : Statement} {reply : DatabaseReply} {l : Lock}
    {held held' : List Lock} (leaves : s.Leaves reply (l :: held) held') (own : l ∈ s.locks) :
    s.Leaves reply held held' where
  released := leaves.released
  kept going k hk := leaves.kept going k (List.mem_cons_of_mem l hk)
  own k hk := by
    obtain hk | hk := leaves.own k hk
    · rcases List.mem_cons.1 hk with rfl | hk
      · exact .inr own
      · exact .inl hk
    · exact .inr hk
  locked := leaves.locked

/-! ## Programs -/

variable {α β : Type}

/-- **All statements of a program are in order**, whatever the database replies
and whichever rows it finds, and at the end something holds of the value, the
locks and the exchanges. -/
def Program.Takes (op : StoreOp) (Q : α → List Lock → List Exchange → Prop) :
    Program Statement (fun _ => DatabaseReply) α → List Lock → List Exchange → Prop
  | .done a, held, log => Q a held log
  | .call s next, held, log => s.InOrder op held log ∧ ∀ reply held', s.Leaves reply held held' →
      (next reply).Takes op Q held' (log ++ [(s, reply)])

namespace Program

variable {op : StoreOp} {p : Program Statement (fun _ => DatabaseReply) α}
  {held : List Lock} {log : List Exchange}

/-- A program in two parts is in order if the second is from wherever the first
may end. -/
theorem takes_bind {f : α → Program Statement (fun _ => DatabaseReply) β}
    {Q : β → List Lock → List Exchange → Prop}
    (h : p.Takes op (fun a held log => (f a).Takes op Q held log) held log) :
    (p.bind f).Takes op Q held log := by
  induction p generalizing held log with
  | done a => exact h
  | call s next ih =>
    exact ⟨h.1, fun reply held' leaves => ih reply (h.2 reply held' leaves)⟩

/-- What holds at the end may be weakened. -/
theorem Takes.mono {Q R : α → List Lock → List Exchange → Prop} (h : p.Takes op Q held log)
    (imp : ∀ a held log, Q a held log → R a held log) : p.Takes op R held log := by
  induction p generalizing held log with
  | done a => exact imp a held log h
  | call s next ih =>
    exact ⟨h.1, fun reply held' leaves => ih reply (h.2 reply held' leaves)⟩

end Program

end RewardLedger
