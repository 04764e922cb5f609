import RewardLedger.Crediting
import RewardLedger.Service
import RewardLedger.Store.Memory

/-!
# What a program may perform

Which effects a program performs depends on what it is told, but not entirely: a
program that never asks for a withdrawal does not ask for one whatever the store
replies. A program **performs** only what satisfies a condition if all of its
operations do along every course of replies. That is a property of the program
as a tree, so it is shown once for each program, part by part, and then holds
wherever and beside whomever the program runs.
-/

namespace RewardLedger

instance {Op : Type} {Reply : Op → Type} : LawfulMonad (Program Op Reply) :=
  LawfulMonad.mk' _ Program.bind_done (fun _ _ => rfl) Program.bind_assoc

/-- **Every effect that a program may perform** satisfies a condition, whatever
the program is told. -/
def Program.Performs {Op : Type} {Reply : Op → Type} {α : Type} (P : Op → Prop) :
    Program Op Reply α → Prop
  | .done _ => True
  | .call op next => P op ∧ ∀ reply, (next reply).Performs P

/-- A program in two parts performs what its parts perform. -/
theorem Program.performs_bind {Op : Type} {Reply : Op → Type} {α β : Type} {P : Op → Prop}
    {p : Program Op Reply α} {f : α → Program Op Reply β} (hp : p.Performs P)
    (hf : ∀ a, (f a).Performs P) : (p.bind f).Performs P := by
  induction p with
  | done a => exact hf a
  | call op next ih => exact ⟨hp.1, fun reply => ih reply (hp.2 reply)⟩

/-- **Every effect that a program may perform** satisfies a condition, and every value
that it may come to satisfies another. -/
def Program.Yields {Op : Type} {Reply : Op → Type} {α : Type} (P : Op → Prop) (Q : α → Prop) :
    Program Op Reply α → Prop
  | .done a => Q a
  | .call op next => P op ∧ ∀ reply, (next reply).Yields P Q

namespace Program

variable {Op : Type} {Reply : Op → Type} {α β : Type} {P : Op → Prop} {Q : α → Prop}
  {R : β → Prop} {p : Program Op Reply α}

/-- A program in two parts yields what its second part yields from whatever the first
does. -/
theorem Yields.bind {f : α → Program Op Reply β} (hp : p.Yields P Q)
    (hf : ∀ a, Q a → (f a).Yields P R) : (p.bind f).Yields P R := by
  induction p with
  | done a => exact hf a hp
  | call op next ih => exact ⟨hp.1, fun reply => ih reply (hp.2 reply)⟩

/-- Whatever a program performs, it yields a value. -/
theorem Performs.yields (hp : p.Performs P) : p.Yields P fun _ => True := by
  induction p with
  | done a => trivial
  | call op next ih => exact ⟨hp.1, fun reply => ih reply (hp.2 reply)⟩

theorem Yields.performs (hp : p.Yields P Q) : p.Performs P := by
  induction p with
  | done a => trivial
  | call op next ih => exact ⟨hp.1, fun reply => ih reply (hp.2 reply)⟩

/-- What satisfies a condition satisfies a weaker one. -/
theorem Yields.mono {P' : Op → Prop} (hp : p.Yields P Q) (weaker : ∀ op, P op → P' op) :
    p.Yields P' Q := by
  induction p with
  | done a => exact hp
  | call op next ih => exact ⟨weaker op hp.1, fun reply => ih reply (hp.2 reply)⟩

/-- A program that is run comes to one of its values. -/
theorem Yields.run {σ : Type} (hp : p.Yields P Q) (handle : (op : Op) → σ → Reply op × σ)
    (s : σ) : Q (p.run handle s).1 := by
  induction p generalizing s with
  | done a => exact hp
  | call op next ih => exact ih _ (hp.2 _) _

end Program

/-! ## Programs that may be refused -/

namespace ServiceStep

variable {α β : Type} {P : Effect → Prop}

/-- A program that may be refused performs what its parts perform. -/
theorem performs_bind {x : ServiceStep α} {f : α → ServiceStep β} (hx : x.run.Performs P)
    (hf : ∀ a, (f a).run.Performs P) : (x >>= f).run.Performs P := by
  refine Program.performs_bind (p := x.run) hx fun o => ?_
  cases o with
  | ok a => exact hf a
  | error fault => trivial

theorem performs_perform {e : Effect} (h : P e) : (perform e).run.Performs P :=
  ⟨h, fun _ => trivial⟩

theorem performs_ofOutcome (o : Outcome α) : (ofOutcome o).run.Performs P := by
  cases o <;> trivial

theorem performs_ask {op : StoreOp} (h : P (.store op)) : (ask op).run.Performs P :=
  performs_bind (performs_perform h) performs_ofOutcome

theorem performs_observe {x : ServiceStep α} (hx : x.run.Performs P) :
    (observe x).run.Performs P :=
  Program.performs_bind (p := x.run) hx fun _ => trivial

end ServiceStep

/-! ## Parts of a credit -/

namespace Crediting

open ServiceStep

variable {P : Effect → Prop}

/-- Looking whether a reward is due performs nothing. -/
theorem performs_requireDue (id : Int) (user : User) (now : Instant) :
    (requireDue id user now).run.Performs P := by
  unfold requireDue
  obtain _ | _ | _ := user.rewardDue? now <;> trivial

/-- Drawing an amount looks at the pool and the bands, and takes random words. -/
theorem performs_drawAmount (policy : RewardPolicy) {now : Instant}
    (pool : P (.cache (.pool now))) (bands : ∀ level, P (.cache (.bands level)))
    (draw : ∀ bands, P (.draw bands)) : (drawAmount policy now).run.Performs P := by
  refine performs_bind (performs_perform pool) fun pool => ?_
  refine performs_bind (performs_perform (bands _)) fun bands => ?_
  refine performs_bind (performs_perform (draw bands)) fun drawn => ?_
  cases drawn <;> trivial

/-- Publishing tells the latest incomes and the feed. -/
theorem performs_publish (receipt : Receipt) (remember : ∀ n, P (.cache (.remember n)))
    (broadcast : ∀ n, P (.broadcast (Frame.ofNotice n).text)) : (publish receipt).run.Performs P :=
  performs_bind (performs_perform (remember _)) fun _ => performs_perform (broadcast _)

/-- **What a draw performs.** The share that it offers is that of the amount, or nothing. -/
theorem performs_draw_sharing {id : Int} {now : Instant} (looks : P (.store (.user id)))
    (credits : ∀ amount share, (share = 0 ∨ ∃ rate, share = referrerShare amount rate) →
      P (.store (.creditReward ⟨id, amount, share, now⟩)))
    (cache : ∀ op, P (.cache op)) (draws : ∀ bands, P (.draw bands))
    (tells : ∀ n, P (.broadcast (Frame.ofNotice n).text)) : (draw id now).run.Performs P := by
  refine performs_bind (performs_ask looks) fun user => ?_
  refine performs_bind (performs_requireDue id user now) fun _ => ?_
  refine performs_bind (performs_perform (cache _)) fun policy => ?_
  refine performs_bind (performs_drawAmount policy (cache _) (fun _ => cache _) draws)
    fun amount => ?_
  refine performs_bind (performs_ask (credits _ _ ?_)) fun receipt => ?_
  · split
    · exact .inr ⟨_, rfl⟩
    · exact .inl rfl
  refine performs_bind (performs_ofOutcome _) fun disbursed => ?_
  refine performs_bind (performs_perform (cache _)) fun added => ?_
  refine performs_bind (performs_ofOutcome added) fun _ => ?_
  exact performs_bind (performs_publish receipt (fun _ => cache _) tells) fun _ => trivial

/-- What a draw performs, whatever the share. -/
theorem performs_draw_of {id : Int} {now : Instant} (looks : P (.store (.user id)))
    (credits : ∀ amount share, P (.store (.creditReward ⟨id, amount, share, now⟩)))
    (cache : ∀ op, P (.cache op)) (draws : ∀ bands, P (.draw bands))
    (tells : ∀ n, P (.broadcast (Frame.ofNotice n).text)) : (draw id now).run.Performs P :=
  performs_draw_sharing looks (fun amount share _ => credits amount share) cache draws tells

/-- **What a delivery performs.** -/
theorem performs_creditPartner_of {source : IncomeSource} {key : String} {user amount : Int}
    (credits : 0 < amount → ∀ rate now,
      P (.store (.creditPartner ⟨source, key, user, amount, referrerShare amount rate, now⟩)))
    (cache : ∀ op, P (.cache op)) (now : P .now)
    (tells : ∀ n, P (.broadcast (Frame.ofNotice n).text)) :
    (creditPartner source key user amount).run.Performs P := by
  obtain ⟨cause, -, refused⟩ | ⟨-, positive, goes⟩ := creditPartner_cases source key user amount
  · rw [refused]
    trivial
  · rw [goes]
    refine performs_bind (performs_perform (cache _)) fun policy => ?_
    refine performs_bind (performs_perform now) fun now => ?_
    refine performs_bind (performs_ask (credits positive _ _)) fun receipt => ?_
    exact performs_bind (performs_publish receipt (fun _ => cache _) tells) fun _ => trivial

end Crediting

/-! ## What is asked of the store -/

namespace Effect

/-- **What an effect asks of the store**, if it asks it at all, satisfies a
condition. -/
def AsksOnly (P : StoreOp → Prop) : Effect → Prop
  | store op => P op
  | _ => True

instance {P : StoreOp → Prop} [DecidablePred P] : DecidablePred (AsksOnly P)
  | store op => inferInstanceAs (Decidable (P op))
  | cache _ | now | draw _ | broadcast _ | activeCount | subscribe _ | unsubscribe _
  | write .. | checks | metrics | uptime => instDecidableTrue

/-- An effect on a service is a request to its store, or leaves the store
alone. -/
theorem store_handle (e : Effect) (s : Service Memory) :
    (s.handle Memory.answer e).2.store = match e with
      | store op => (s.store.answer op).2
      | _ => s.store := by
  cases e with
  | write client payload =>
    show (s.write client payload).2.store = s.store
    unfold Service.write
    cases s.clients[client]? <;> rfl
  | _ => rfl

end Effect

namespace Crediting

open ServiceStep

variable {P : StoreOp → Prop}

/-- A draw asks for its user and for the credit. -/
theorem performs_draw {id : Int} {now : Instant} (looks : P (.user id))
    (credits : ∀ amount share, P (.creditReward ⟨id, amount, share, now⟩)) :
    (draw id now).run.Performs (Effect.AsksOnly P) :=
  performs_draw_of looks credits (fun _ => trivial) (fun _ => trivial) fun _ => trivial

/-- A delivery asks for the credit. -/
theorem performs_creditPartner {source : IncomeSource} {key : String} {user amount : Int}
    (credits : 0 < amount → ∀ rate now,
      P (.creditPartner ⟨source, key, user, amount, referrerShare amount rate, now⟩)) :
    (creditPartner source key user amount).run.Performs (Effect.AsksOnly P) :=
  performs_creditPartner_of credits (fun _ => trivial) trivial fun _ => trivial

end Crediting

/-! ## What reaches the cache and the hub -/

namespace Effect

variable (e : Effect) (s : Service Memory)

/-- An effect on a service is a request to its cache, or leaves the cache
alone. -/
theorem cache_handle :
    (s.handle Memory.answer e).2.cache = match e with
      | cache op => (s.cache.answer op).2
      | _ => s.cache := by
  cases e with
  | write client payload =>
    show (s.write client payload).2.cache = s.cache
    unfold Service.write
    cases s.clients[client]? <;> rfl
  | _ => rfl

/-- Only what is broadcast gets into the queue of the hub. -/
theorem queue_handle :
    (s.handle Memory.answer e).2.hub.queue = match e with
      | broadcast payload => (s.hub.broadcast payload).queue
      | _ => s.hub.queue := by
  cases e with
  | write client payload =>
    show (s.write client payload).2.hub.queue = s.hub.queue
    unfold Service.write
    cases s.clients[client]? <;> rfl
  | unsubscribe id =>
    show (s.hub.unsubscribe id).2.queue = s.hub.queue
    unfold Hub.unsubscribe
    split <;> rfl
  | _ => rfl

/-- No effect stops the hub. -/
theorem stopped_handle : (s.handle Memory.answer e).2.hub.stopped = s.hub.stopped := by
  cases e with
  | write client payload =>
    show (s.write client payload).2.hub.stopped = s.hub.stopped
    unfold Service.write
    cases s.clients[client]? <;> rfl
  | unsubscribe id =>
    show (s.hub.unsubscribe id).2.stopped = s.hub.stopped
    unfold Hub.unsubscribe
    split <;> rfl
  | broadcast payload => exact s.hub.stopped_enqueue _
  | _ => rfl

end Effect

end RewardLedger
