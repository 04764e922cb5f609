import RewardLedger.Crediting
import RewardLedger.Proofs.Performing
import RewardLedger.Proofs.Refusal
import RewardLedger.Proofs.Serving
import RewardLedger.Settlement

/-!
# What serving a program leaves

A program that is served for a client either is abandoned, or is refused, or comes to
a value. When it is refused nothing may have happened. Two facts are enough to see
that of a whole program: what only looks around leaves everything as it was, and a
write that the store refuses was taken back. So a program may look around as long as
it likes and then ask for one write; what it does after that write was kept must not
be refused any more.
-/

namespace RewardLedger

namespace Service

/-- **Nothing happened to a service**: its store, its cache and its hub are the same. The
clock and the random words may have moved on. -/
structure Same (s s' : Service Memory) : Prop where
  store : s'.store = s.store
  cache : s'.cache = s.cache
  hub : s'.hub = s.hub

/-- **Nothing happened to a service but that a fail point was met**, if one was. -/
structure Kept (s s' : Service Memory) : Prop where
  store : ∃ cause, s'.store = s.store.disarmedBy cause
  cache : s'.cache = s.cache
  hub : s'.hub = s.hub

/-- **One write was kept**, with an answer, and nothing else happened to the store. -/
structure Committed (s : Service Memory) (op : StoreOp) (a : op.Answer) (s' : Service Memory) :
    Prop where
  on : s.store.disabled = false
  did : s.store.tables.Commits op a s'.store.tables
  store : s'.store = { s.store with tables := s'.store.tables }

variable {s s₁ s' : Service Memory}

@[simp] theorem Same.refl (s : Service Memory) : s.Same s := ⟨rfl, rfl, rfl⟩

theorem Same.trans (h : s.Same s₁) (h' : s₁.Same s') : s.Same s' :=
  ⟨h'.store.trans h.store, h'.cache.trans h.cache, h'.hub.trans h.hub⟩

theorem Same.kept (h : s.Same s') : s.Kept s' where
  -- no fail point provokes this error
  store := ⟨.json, h.store.trans (Memory.disarmedBy_of_ne fun _ => Error.noConfusion).symm⟩
  cache := h.cache
  hub := h.hub

/-- What happens besides the store does not touch a write that was kept. -/
theorem Committed.of_store {op : StoreOp} {a : op.Answer} (h : s.Committed op a s₁)
    (same : s'.store = s₁.store) : s.Committed op a s' where
  on := h.on
  did := same ▸ h.did
  store := same ▸ h.store

end Service

/-! ## Looking around -/

/-- An effect that changes neither the store nor the cache nor the hub. -/
def Effect.Looks : Effect → Prop
  | store op => ¬ op.IsWrite
  | cache .policy | cache (.bands _) | cache (.pool _) | cache .latest => True
  | cache _ | broadcast _ | subscribe _ | unsubscribe _ | write .. => False
  | now | draw _ | activeCount | checks | metrics | uptime => True

/-- An effect that only looks leaves everything as it was. -/
theorem Effect.Looks.same {e : Effect} (looks : e.Looks) (s : Service Memory) :
    s.Same (s.handle Memory.answer e).2 := by
  cases e with
  | store op => exact ⟨Memory.answer_of_not_write _ looks, rfl, rfl⟩
  | cache op =>
    cases op with
    | policy | bands | pool | latest => exact .refl s
    | _ => exact looks.elim
  | now | draw | activeCount | checks | metrics | uptime => exact ⟨rfl, rfl, rfl⟩
  | _ => exact looks.elim

/-- **A program that only looks** leaves everything as it was. -/
theorem Program.Performs.same {α : Type} {p : Program Effect Effect.Reply α}
    (looks : p.Performs Effect.Looks) (s : Service Memory) :
    s.Same (p.run (Service.handle Memory.answer) s).2 := by
  induction p generalizing s with
  | done a => exact .refl s
  | call e next ih => exact (looks.1.same s).trans (ih _ (looks.2 _) _)

namespace ServiceStep

variable {α β : Type}

/-- A program that goes through a list performs what it performs for each member. -/
theorem performs_mapM {P : Effect → Prop} {f : α → ServiceStep β}
    (each : ∀ a, (f a).run.Performs P) (l : List α) : (l.mapM f).run.Performs P := by
  induction l with
  | nil => trivial
  | cons a rest ih =>
    rw [List.mapM_cons]
    exact performs_bind (each a) fun b => performs_bind ih fun bs => trivial

/-! ## The ends of a program -/

/-- **What a program comes to** that is served for a request which found a service: it is
abandoned, or it is refused and nothing happened, or it comes to a value with what
was to be shown of it. -/
inductive Ends (s : Service Memory) (K : α → Service Memory → Prop) :
    Outcome α × Service Memory → Prop
  | abandoned {s' : Service Memory} : Ends s K (.error .outOfRange, s')
  | refused {cause : Error} {s' : Service Memory} (kept : s.Kept s') :
    Ends s K (.error (.error cause), s')
  | done {a : α} {s' : Service Memory} (holds : K a s') : Ends s K (.ok a, s')

variable {s s₁ : Service Memory} {K : α → Service Memory → Prop} {L : β → Service Memory → Prop}

theorem Ends.mono {K' : α → Service Memory → Prop} {r : Outcome α × Service Memory}
    (h : Ends s K r) (weaker : ∀ a s', K a s' → K' a s') : Ends s K' r := by
  cases h with
  | abandoned => exact .abandoned
  | refused kept => exact .refused kept
  | done holds => exact .done (weaker _ _ holds)

/-- A program in two parts comes to what its parts come to. -/
theorem Ends.bind {x : ServiceStep α} {f : α → ServiceStep β} (hx : Ends s K (x.serve s₁))
    (hf : ∀ a s', K a s' → Ends s L ((f a).serve s')) : Ends s L ((x >>= f).serve s₁) := by
  cases first : x.serve s₁ with
  | mk o s' =>
    rw [first] at hx
    cases hx with
    | abandoned =>
      rw [serve_bind_of_error first]
      exact .abandoned
    | refused kept =>
      rw [serve_bind_of_error first]
      exact .refused kept
    | done holds =>
      rw [serve_bind_of_ok first]
      exact hf _ _ holds

/-- A program that only looks may be refused. -/
theorem ends_of_looks {x : ServiceStep α} (looks : x.run.Performs Effect.Looks)
    (same : s.Same s₁) : Ends s (fun _ s' => s.Same s') (x.serve s₁) := by
  have left : s.Same (x.serve s₁).2 := same.trans (looks.same s₁)
  cases served : x.serve s₁ with
  | mk o s' =>
    rw [served] at left
    cases o with
    | ok a => exact .done left
    | error fault =>
      cases fault with
      | error cause => exact .refused left.kept
      | outOfRange => exact .abandoned

/-- A program that looks first goes on from where nothing happened. -/
theorem Ends.after {x : ServiceStep α} {f : α → ServiceStep β}
    (looks : x.run.Performs Effect.Looks) (same : s.Same s₁)
    (hf : ∀ a s', s.Same s' → Ends s L ((f a).serve s')) : Ends s L ((x >>= f).serve s₁) :=
  (ends_of_looks looks same).bind hf

/-- **A write that is asked for** is taken back, or it is kept. -/
theorem ends_ask {op : StoreOp} (write : op.IsWrite) (reach : s.store.Reachable)
    (same : s.Same s₁) : Ends s (s.Committed op) ((ask op).serve s₁) := by
  rw [serve_ask, same.store]
  have ends := reach.writes write
  generalize (s.store.answer op).1 = r, (s.store.answer op).2 = m at ends ⊢
  cases r with
  | ok a =>
    cases ends with
    | kept on _ _ did => exact .done ⟨on, did, rfl⟩
  | error fault =>
    cases fault with
    | error cause => exact .refused ⟨⟨cause, ends.eq_of_refused rfl⟩, same.cache, same.hub⟩
    | outOfRange => exact .abandoned

end ServiceStep

/-! ## Crediting and paying out -/

namespace Crediting

open ServiceStep

variable {s s₁ : Service Memory}

/-- Publishing is never refused, and leaves the store alone. -/
theorem ends_publish {receipt : Receipt} {K : Income → Service Memory → Prop}
    (holds : ∀ s', s'.store = s₁.store → K receipt.income s') :
    Ends s K ((do
      publish receipt
      return receipt.income : ServiceStep Income).serve s₁) :=
  .done (holds _ rfl)

/-- So is counting into the pool, unless a number leaves its range. -/
theorem ends_addToPool {receipt : Receipt} {now : Instant} {K : Income → Service Memory → Prop}
    (holds : ∀ s', s'.store = s₁.store → K receipt.income s') :
    Ends s K ((do
      let disbursed ← ofOutcome (.ofRange receipt.disbursed?)
      ofOutcome (← perform (.cache (.addToPool now disbursed)))
      publish receipt
      return receipt.income : ServiceStep Income).serve s₁) := by
  cases receipt.disbursed? with
  | none => exact .abandoned
  | some disbursed =>
    show Ends s K ((ofOutcome (s₁.cache.addToPool now disbursed).1 >>= fun _ => do
      publish receipt
      return receipt.income).serve { s₁ with cache := (s₁.cache.addToPool now disbursed).2 })
    rw [RateCache.addToPool_eq]
    cases Amount.add? (s₁.cache.poolAt now) disbursed with
    | none => exact .abandoned
    | some total => exact .done (holds _ rfl)

/-- **A draw** is refused, or it was credited. -/
theorem ends_draw (reach : s.store.Reachable) (same : s.Same s₁) (id : Int) (now : Instant) :
    Ends s (fun i s' => ∃ (c : RewardCredit) (receipt : Receipt), c.user = id
      ∧ s.Committed (.creditReward c) receipt s' ∧ i = receipt.income)
      ((draw id now).serve s₁) := by
  unfold draw
  refine .after (performs_ask not_false) same fun user s₂ same => ?_
  refine .after (performs_requireDue id user now) same fun _ s₃ same => ?_
  refine .after (performs_perform trivial) same fun policy s₄ same => ?_
  refine .after (performs_drawAmount policy trivial (fun _ => trivial) fun _ => trivial) same
    fun amount s₅ same => ?_
  refine .bind (ends_ask trivial reach same) fun receipt s₆ committed => ?_
  exact ends_addToPool fun s' kept => ⟨_, receipt, rfl, committed.of_store kept, rfl⟩

/-- **A partner's event** is refused, or it was credited. -/
theorem ends_creditPartner (reach : s.store.Reachable) (same : s.Same s₁)
    (source : IncomeSource) (key : String) (user amount : Int) :
    Ends s (fun i s' => ∃ (share : Int) (now : Instant) (receipt : Receipt),
      s.Committed (.creditPartner ⟨source, key, user, amount, share, now⟩) receipt s'
        ∧ i = receipt.income)
      ((creditPartner source key user amount).serve s₁) := by
  obtain ⟨cause, -, refused⟩ | ⟨-, -, goes⟩ := creditPartner_cases source key user amount
  · rw [refused]
    exact .refused same.kept
  · rw [goes]
    refine .after (performs_perform trivial) same fun policy s₂ same => ?_
    refine .after (performs_perform trivial) same fun now s₃ same => ?_
    refine .bind (ends_ask trivial reach same) fun receipt s₄ committed => ?_
    exact ends_publish fun s' kept => ⟨_, now, receipt, committed.of_store kept, rfl⟩

end Crediting

namespace Settlement

open ServiceStep

variable {s s₁ : Service Memory} (reach : s.store.Reachable) (same : s.Same s₁)

include reach same

/-- **A request for a withdrawal** is refused, or the withdrawal was created. -/
theorem ends_request (user : Int) (address : String) (amount : Int) :
    Ends s (fun w s' => ∃ now, s.Committed (.createWithdrawal ⟨user, address, amount, now⟩) w s')
      ((request user address amount).serve s₁) := by
  unfold request
  by_cases positive : amount ≤ 0
  · rw [if_pos positive]
    exact .refused same.kept
  · rw [if_neg positive]
    by_cases blank : Text.Blank address
    · rw [if_pos blank]
      exact .refused same.kept
    · rw [if_neg blank]
      refine .after (performs_perform trivial) same fun now s₂ same => ?_
      have write : (StoreOp.createWithdrawal ⟨user, address, amount, now⟩).IsWrite := trivial
      exact (ends_ask write reach same).mono fun w s' committed => ⟨now, committed⟩

/-- **A batch** is refused, or it was moved. -/
theorem ends_advance (ids : List Int) (current next : WithdrawalStatus)
    (transaction : Option String) :
    Ends s (fun n s' => ∃ now,
      s.Committed (.advanceWithdrawals ids current next transaction now) n s')
      ((advance ids current next transaction).serve s₁) := by
  unfold advance
  by_cases allowed : current.Advances next
  · rw [if_neg (not_not_intro allowed)]
    refine .after (performs_perform trivial) same fun now s₂ same => ?_
    have write : (StoreOp.advanceWithdrawals ids current next transaction now).IsWrite := trivial
    exact (ends_ask write reach same).mono fun n s' committed => ⟨now, committed⟩
  · rw [if_pos allowed]
    exact .refused same.kept

end Settlement

end RewardLedger
