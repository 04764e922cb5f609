import RewardLedger.Crediting
import RewardLedger.Proofs.Serving
import RewardLedger.Proofs.Solvency
import RewardLedger.Settlement

/-!
# Calls that pay no reward

What a draw pays depends on the totals of the days, the policies and the bands, in the
store and in the snapshot. Most calls do not come near any of that, and to say so once
for each of them is all that has to be known about them where rewards are concerned.

A program **spares** what a draw reads if it leaves all of it as it was, in a store
that can still be used. A call that is abandoned disables the store, so a program spares
only if it is not abandoned itself: whoever watches another program has to pass on that
it was abandoned, and cannot go on after it (`SparesWatched.bind`).
-/

namespace RewardLedger

/-! ## What is spared -/

/-- The request asks for a reward to be paid. -/
def StoreOp.PaysReward : StoreOp → Prop
  | creditReward _ => True
  | _ => False

/-- A write that pays no reward changes neither the totals of the days nor what
governs rewards. -/
theorem Tables.Commits.spared {t t' : Tables} {op : StoreOp} {a : op.Answer}
    (did : t.Commits op a t') (unpaid : ¬ op.PaysReward) :
    t'.dayTotals = t.dayTotals ∧ t'.policies = t.policies ∧ t'.bands = t.bands := by
  cases op with
  | creditReward => exact absurd trivial unpaid
  | createUser => obtain ⟨-, -, rfl⟩ := did; exact ⟨rfl, rfl, rfl⟩
  | creditPartner => obtain ⟨-, -, u, -, -, rfl⟩ := did; exact ⟨rfl, rfl, rfl⟩
  | createWithdrawal => obtain ⟨u, -, -, -, rfl⟩ := did; exact ⟨rfl, rfl, rfl⟩
  | advanceWithdrawals => obtain ⟨-, -, rfl⟩ := did; exact ⟨rfl, rfl, rfl⟩
  | _ => exact did.elim

/-- **What a draw reads is as it was**, in a store that can still be used. -/
structure Service.Spared (s s' : Service Memory) : Prop where
  store : s'.store.Reachable
  on : s'.store.disabled = false
  dayTotals : s'.store.tables.dayTotals = s.store.tables.dayTotals
  policies : s'.store.tables.policies = s.store.tables.policies
  bands : s'.store.tables.bands = s.store.tables.bands
  pool : s'.cache.dayTotal = s.cache.dayTotal
  policy : s'.cache.policy = s.cache.policy
  levels : s'.cache.bands = s.cache.bands

namespace Service.Spared

variable {s s' s'' : Service Memory}

theorem refl (reach : s.store.Reachable) (on : s.store.disabled = false) : s.Spared s :=
  ⟨reach, on, rfl, rfl, rfl, rfl, rfl, rfl⟩

theorem trans (h : s.Spared s') (h' : s'.Spared s'') : s.Spared s'' where
  store := h'.store
  on := h'.on
  dayTotals := h'.dayTotals.trans h.dayTotals
  policies := h'.policies.trans h.policies
  bands := h'.bands.trans h.bands
  pool := h'.pool.trans h.pool
  policy := h'.policy.trans h.policy
  levels := h'.levels.trans h.levels

/-- A request that pays no reward spares what a draw reads, unless it is
abandoned. -/
theorem of_answer (reach : s.store.Reachable) (on : s.store.disabled = false) {op : StoreOp}
    (unpaid : ¬ op.PaysReward) (calm : (s.store.answer op).1 ≠ .error .outOfRange) :
    s.Spared { s with store := (s.store.answer op).2 } := by
  have same : (s.store.answer op).2.tables.dayTotals = s.store.tables.dayTotals
      ∧ (s.store.answer op).2.tables.policies = s.store.tables.policies
      ∧ (s.store.answer op).2.tables.bands = s.store.tables.bands := by
    by_cases write : op.IsWrite
    · have ends := reach.writes write
      generalize (s.store.answer op).1 = r, (s.store.answer op).2 = m' at ends calm ⊢
      cases ends with
      | kept _ _ _ did => exact did.spared unpaid
      | outOfRange => exact absurd rfl calm
      | _ => exact ⟨rfl, rfl, rfl⟩
    · rw [Memory.answer_of_not_write _ write]
      exact ⟨rfl, rfl, rfl⟩
  exact ⟨reach.perform (.request op), reach.usable_answer on calm, same.1, same.2.1, same.2.2,
    rfl, rfl, rfl⟩

end Service.Spared

/-- An effect that does not come near what a draw reads. -/
def Effect.Aside : Effect → Prop
  | cache .policy => True
  | cache (.remember _) => True
  | now => True
  | broadcast _ => True
  | _ => False

namespace ServiceStep

variable {α β : Type}

/-- **A program spares what a draw reads** when it is served, unless it is
abandoned. -/
def Spares (x : ServiceStep α) : Prop :=
  ∀ s : Service Memory, s.store.Reachable → s.store.disabled = false →
    (x.serve s).1 ≠ .error .outOfRange → s.Spared (x.serve s).2

/-- A program that is watched spares what a draw reads, if what it watches is not
abandoned. -/
def SparesWatched (x : ServiceStep (Outcome α)) : Prop :=
  ∀ s : Service Memory, s.store.Reachable → s.store.disabled = false →
    ∃ o, (x.serve s).1 = .ok o ∧ (o ≠ .error .outOfRange → s.Spared (x.serve s).2)

theorem spares_pure (a : α) : (pure a : ServiceStep α).Spares :=
  fun _ reach on _ => .refl reach on

theorem spares_refuse (cause : Error) : (refuse cause : ServiceStep α).Spares :=
  fun _ reach on _ => .refl reach on

theorem Spares.bind {x : ServiceStep α} {f : α → ServiceStep β} (hx : x.Spares)
    (hf : ∀ a, (f a).Spares) : (x >>= f).Spares := by
  intro s reach on calm
  have first := hx s reach on
  cases hserve : x.serve s with
  | mk o s' =>
    rw [hserve] at first
    cases o with
    | error fault =>
      rw [serve_bind_of_error hserve] at calm ⊢
      exact first fun h => calm (by cases h; rfl)
    | ok a =>
      rw [serve_bind_of_ok hserve] at calm ⊢
      have spared := first nofun
      exact spared.trans (hf a s' spared.store spared.on calm)

theorem spares_perform {e : Effect} (aside : e.Aside) : (perform e).Spares := by
  intro s reach on _
  cases e with
  | cache op =>
    cases op with
    | policy | remember => exact ⟨reach, on, rfl, rfl, rfl, rfl, rfl, rfl⟩
    | _ => exact aside.elim
  | now | broadcast => exact ⟨reach, on, rfl, rfl, rfl, rfl, rfl, rfl⟩
  | _ => exact aside.elim

theorem spares_ask {op : StoreOp} (unpaid : ¬ op.PaysReward) : (ask op).Spares := by
  intro s reach on calm
  rw [serve_ask] at calm ⊢
  exact .of_answer reach on unpaid calm

theorem sparesWatched_observe {x : ServiceStep α} (hx : x.Spares) :
    (observe x).SparesWatched := by
  intro s reach on
  rw [serve_observe]
  exact ⟨_, rfl, hx s reach on⟩

/-- Whoever watches goes on only if nothing was abandoned. -/
theorem SparesWatched.bind {x : ServiceStep (Outcome α)} {f : Outcome α → ServiceStep β}
    (hx : x.SparesWatched) (hf : ∀ o, o ≠ .error .outOfRange → (f o).Spares)
    (abandoned : f (.error .outOfRange) = throw .outOfRange) : (x >>= f).Spares := by
  intro s reach on calm
  obtain ⟨o, ho, first⟩ := hx s reach on
  cases hserve : x.serve s with
  | mk r s' =>
    rw [hserve] at ho first
    cases ho
    rw [serve_bind_of_ok hserve] at calm ⊢
    by_cases stopped : o = .error .outOfRange
    · rw [stopped, abandoned] at calm
      exact absurd rfl calm
    · have spared := first stopped
      exact spared.trans (hf o stopped s' spared.store spared.on calm)

end ServiceStep

/-- Publishing a receipt spares what a draw reads. -/
theorem Crediting.spares_publish (receipt : Receipt) : (publish receipt).Spares :=
  .bind (ServiceStep.spares_perform trivial) fun _ => ServiceStep.spares_perform trivial

/-- So does crediting a partner's event. -/
theorem Crediting.spares_creditPartner (source : IncomeSource) (key : String)
    (user amount : Int) : (creditPartner source key user amount).Spares := by
  obtain ⟨cause, -, refused⟩ | ⟨-, -, goes⟩ := creditPartner_cases source key user amount
  · rw [refused]
    exact ServiceStep.spares_refuse cause
  · rw [goes]
    refine .bind (ServiceStep.spares_perform trivial) fun policy => ?_
    refine .bind (ServiceStep.spares_perform trivial) fun now => ?_
    refine .bind (ServiceStep.spares_ask id) fun receipt => ?_
    exact .bind (spares_publish receipt) fun _ => ServiceStep.spares_pure _

namespace Settlement

open ServiceStep

theorem spares_request (user : Int) (address : String) (amount : Int) :
    (request user address amount).Spares := by
  unfold request
  by_cases positive : amount ≤ 0
  · rw [if_pos positive]
    exact spares_refuse _
  · rw [if_neg positive]
    by_cases blank : Text.Blank address
    · rw [if_pos blank]
      exact spares_refuse _
    · rw [if_neg blank]
      exact .bind (spares_perform trivial) fun now => spares_ask id

theorem spares_advance (ids : List Int) (current next : WithdrawalStatus)
    (transaction : Option String) : (advance ids current next transaction).Spares := by
  unfold advance
  by_cases allowed : current.Advances next
  · rw [if_neg (not_not_intro allowed)]
    exact .bind (spares_perform trivial) fun now => spares_ask id
  · rw [if_pos allowed]
    exact spares_refuse _

theorem sparesWatched_requestTwice (user : Int) (address : String) (amount : Int) :
    (requestTwice user address amount).SparesWatched := by
  have again := sparesWatched_observe (spares_request user address amount)
  intro s reach on
  obtain ⟨o, ho, first⟩ := again s reach on
  cases hserve : (observe (request user address amount)).serve s with
  | mk r s' =>
    rw [hserve] at ho first
    cases ho
    rw [requestTwice, serve_bind_of_ok hserve]
    obtain (cause | _) | w := o
    · have spared := first nofun
      obtain ⟨o', ho', second⟩ := again s' spared.store spared.on
      exact ⟨o', ho', fun calm => spared.trans (second calm)⟩
    · exact ⟨_, rfl, fun calm => absurd rfl calm⟩
    · exact ⟨_, rfl, first⟩

/-- Paying out all balances goes on after a refusal, and ends when a request is
abandoned. -/
theorem spares_payAll (users : List User) : (payAll users).Spares := by
  induction users with
  | nil => exact spares_pure _
  | cons u rest ih =>
    refine (sparesWatched_requestTwice u.id u.address u.balance).bind (fun o calm => ?_) rfl
    obtain (cause | _) | w := o
    · exact .bind ih fun _ => spares_pure _
    · exact absurd rfl calm
    · exact .bind ih fun _ => spares_pure _

theorem spares_sweep (least : Int) : (sweep least).Spares :=
  .bind (spares_ask id) spares_payAll

end Settlement

/-- **A call that pays no reward**: a delivery, or a call of the settlement. -/
inductive ServiceStep.Unrewarding : {α : Type} → ServiceStep α → Prop
  | creditPartner (source : IncomeSource) (key : String) (user amount : Int) :
    Unrewarding (Crediting.creditPartner source key user amount)
  | request (user : Int) (address : String) (amount : Int) :
    Unrewarding (Settlement.request user address amount)
  | advance (ids : List Int) (current next : WithdrawalStatus) (transaction : Option String) :
    Unrewarding (Settlement.advance ids current next transaction)
  | sweep (least : Int) : Unrewarding (Settlement.sweep least)

/-- **Calls that pay no reward spare what a draw reads.** -/
theorem ServiceStep.Unrewarding.spares {α : Type} {x : ServiceStep α} (call : x.Unrewarding) :
    x.Spares := by
  cases call with
  | creditPartner => exact Crediting.spares_creditPartner _ _ _ _
  | request => exact Settlement.spares_request _ _ _
  | advance => exact Settlement.spares_advance _ _ _ _
  | sweep => exact Settlement.spares_sweep _

end RewardLedger
