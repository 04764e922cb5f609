/-!
# Programs over a set of operations

A **program** is a computation that reaches the world only through named
operations. It is a tree: either it is finished, or it calls one operation and
goes on according to the reply.

The same program can be run against a handler that answers at once, be taken
one operation at a time in between the steps of others, or be followed along
every reply that a partner outside might give. Statements about interleavings
and about hostile replies need all three.
-/

namespace RewardLedger

/-- A computation over operations `Op`, each with its own type of reply. -/
inductive Program (Op : Type) (Reply : Op → Type) (α : Type) where
  /-- The computation is finished. -/
  | done (value : α)
  /-- It calls `op` and goes on with the reply. -/
  | call (op : Op) (next : Reply op → Program Op Reply α)

namespace Program

variable {Op : Type} {Reply : Op → Type} {α β γ σ : Type}

/-- Run the first program, then the one chosen by its value. -/
def bind : Program Op Reply α → (α → Program Op Reply β) → Program Op Reply β
  | .done value, f => f value
  | .call op next, f => .call op fun reply => (next reply).bind f

instance : Monad (Program Op Reply) where
  pure := .done
  bind := bind

/-- Call one operation and return its reply. -/
def perform (op : Op) : Program Op Reply (Reply op) := .call op .done

@[simp] theorem pure_eq (a : α) : (pure a : Program Op Reply α) = .done a := rfl

@[simp] theorem bind_eq (p : Program Op Reply α) (f : α → Program Op Reply β) :
    p >>= f = p.bind f := rfl

@[simp] theorem done_bind (a : α) (f : α → Program Op Reply β) :
    (Program.done a).bind f = f a := rfl

@[simp] theorem call_bind (op : Op) (next : Reply op → Program Op Reply α)
    (f : α → Program Op Reply β) :
    (Program.call op next).bind f = .call op fun reply => (next reply).bind f := rfl

theorem bind_done (p : Program Op Reply α) : p.bind .done = p := by
  induction p with
  | done a => rfl
  | call op next ih => simp [ih]

theorem bind_assoc (p : Program Op Reply α) (f : α → Program Op Reply β)
    (g : β → Program Op Reply γ) :
    (p.bind f).bind g = p.bind fun a => (f a).bind g := by
  induction p with
  | done a => rfl
  | call op next ih => simp [ih]

/-- Run a program against a handler that answers every operation at once and
keeps a state of its own. -/
def run (handle : (op : Op) → σ → Reply op × σ) : Program Op Reply α → σ → α × σ
  | .done value, s => (value, s)
  | .call op next, s =>
    let (reply, s') := handle op s
    (next reply).run handle s'

@[simp] theorem run_done (handle : (op : Op) → σ → Reply op × σ) (a : α) (s : σ) :
    (Program.done a : Program Op Reply α).run handle s = (a, s) := rfl

@[simp] theorem run_call (handle : (op : Op) → σ → Reply op × σ) (op : Op)
    (next : Reply op → Program Op Reply α) (s : σ) :
    (Program.call op next).run handle s
      = (next (handle op s).1).run handle (handle op s).2 := rfl

/-- Running a sequence is running its parts in order. -/
theorem run_bind (handle : (op : Op) → σ → Reply op × σ)
    (p : Program Op Reply α) (f : α → Program Op Reply β) (s : σ) :
    (p.bind f).run handle s
      = (f (p.run handle s).1).run handle (p.run handle s).2 := by
  induction p generalizing s with
  | done a => rfl
  | call op next ih => simp [ih]

end Program

end RewardLedger
