import RewardLedger.Proofs.Interleaving

/-!
# Calls one at a time

When calls come one at a time nothing happens between the effects of a program, so
what it comes to is a function of the service that it starts on. To **serve** a
program is to run it like that, and serving a sequence is serving its parts. The same
holds of any other way to handle the effects of a program.
-/

namespace RewardLedger

namespace ServiceStep

/-! ## Any handler -/

section Handler

variable {σ α β : Type} (handle : (e : Effect) → σ → e.Reply × σ)

/-- **A program is run to its end** by whatever handles its effects. -/
def runWith (x : ServiceStep α) (s : σ) : Outcome α × σ := x.run.run handle s

variable {handle} {s s' : σ}

@[simp] theorem runWith_pure (a : α) : (pure a : ServiceStep α).runWith handle s = (.ok a, s) :=
  rfl

@[simp] theorem runWith_perform (e : Effect) :
    (perform e).runWith handle s = (.ok (handle e s).1, (handle e s).2) := rfl

/-- A program in two parts that stops in the first part comes to that. -/
theorem runWith_bind_of_error {x : ServiceStep α} {f : α → ServiceStep β} {fault : Fault}
    (h : x.runWith handle s = (.error fault, s')) :
    (x >>= f).runWith handle s = (.error fault, s') := by
  have parts : (x >>= f).runWith handle s = _ := Program.run_bind handle x.run _ s
  rw [parts, show x.run.run handle s = _ from h]
  rfl

/-- Otherwise it goes on with the second. -/
theorem runWith_bind_of_ok {x : ServiceStep α} {f : α → ServiceStep β} {a : α}
    (h : x.runWith handle s = (.ok a, s')) :
    (x >>= f).runWith handle s = (f a).runWith handle s' := by
  have parts : (x >>= f).runWith handle s = _ := Program.run_bind handle x.run _ s
  rw [parts, show x.run.run handle s = _ from h]
  rfl

/-- Asking the store comes to the reply of the store. -/
@[simp] theorem runWith_ask (op : StoreOp) :
    (ask op).runWith handle s = ((handle (.store op) s).1, (handle (.store op) s).2) := by
  refine (runWith_bind_of_ok (runWith_perform (.store op))).trans ?_
  cases (handle (.store op) s).1 <;> rfl

/-- A program that is only watched comes to its outcome. -/
@[simp] theorem runWith_observe (x : ServiceStep α) :
    (observe x).runWith handle s = (.ok (x.runWith handle s).1, (x.runWith handle s).2) :=
  Program.run_bind handle x.run _ s

end Handler

/-! ## The service itself -/

variable {α β : Type}

/-- **A program is served to its end**, with nothing in between. -/
def serve (x : ServiceStep α) (s : Service Memory) : Outcome α × Service Memory :=
  x.run.run (Service.handle Memory.answer) s

variable {s : Service Memory}

@[simp] theorem serve_pure (a : α) : (pure a : ServiceStep α).serve s = (.ok a, s) := rfl

@[simp] theorem serve_throw (fault : Fault) :
    (throw fault : ServiceStep α).serve s = (.error fault, s) := rfl

@[simp] theorem serve_refuse (cause : Error) :
    (refuse cause : ServiceStep α).serve s = (.error (.error cause), s) := rfl

@[simp] theorem serve_perform (e : Effect) :
    (perform e).serve s
      = (.ok (s.handle Memory.answer e).1, (s.handle Memory.answer e).2) := rfl

@[simp] theorem serve_ofOutcome (o : Outcome α) : (ofOutcome o).serve s = (o, s) := by
  cases o <;> rfl

theorem serve_bind_of_error {x : ServiceStep α} {f : α → ServiceStep β} {fault : Fault}
    {s' : Service Memory} (h : x.serve s = (.error fault, s')) :
    (x >>= f).serve s = (.error fault, s') := runWith_bind_of_error h

theorem serve_bind_of_ok {x : ServiceStep α} {f : α → ServiceStep β} {a : α}
    {s' : Service Memory} (h : x.serve s = (.ok a, s')) :
    (x >>= f).serve s = (f a).serve s' := runWith_bind_of_ok h

/-- Performing an effect goes on with its reply. -/
@[simp] theorem serve_perform_bind (e : Effect) (f : e.Reply → ServiceStep β) :
    (perform e >>= f).serve s
      = (f (s.handle Memory.answer e).1).serve (s.handle Memory.answer e).2 :=
  serve_bind_of_ok (serve_perform e)

/-- Asking the store comes to what the store answers. -/
@[simp] theorem serve_ask (op : StoreOp) :
    (ask op).serve s = ((s.store.answer op).1, { s with store := (s.store.answer op).2 }) :=
  runWith_ask op

/-- A store that only answers stays as it is. -/
theorem serve_ask_of_answer {op : StoreOp} {r : op.Reply}
    (h : s.store.answer op = (r, s.store)) : (ask op).serve s = (r, s) := by
  rw [serve_ask, h]

@[simp] theorem serve_observe (x : ServiceStep α) :
    (observe x).serve s = (.ok (x.serve s).1, (x.serve s).2) := runWith_observe x

end ServiceStep

end RewardLedger
