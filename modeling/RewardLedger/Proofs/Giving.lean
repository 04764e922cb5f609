import RewardLedger.Proofs.Disbursing
import RewardLedger.Proofs.Draw.Harmless
import RewardLedger.Proofs.Pooling
import RewardLedger.Proofs.Publishing

/-!
# Draws that take nothing away

A partner's event and a withdrawal are refused unless their amount is positive. The amount
of a draw is looked at by nobody: it is that of a band, which the draw has from the
snapshot, which has it from the store, and the store accepts bands with any ends. Whether a
draw gives or takes is therefore up to the bands alone.

A list of bands is **harmless** if none of its bands that can be picked starts below zero,
and precisely then no random words make a draw take anything (`RewardBand.harmless_iff`).
A draw from a harmless list leaves nobody with less than before, and neither the total of
its day nor the pool, whatever comes of it. As long as every draw is of that kind no balance
falls below zero, whatever else is done to the service at the same time; one draw that is
not is enough for an overdrawn balance.
-/

namespace RewardLedger

/-! ## Rewards that are only given -/

namespace Tables

/-- **Nobody has lost anything** since the tables were the others. -/
def NobodyLost (before t : Tables) : Prop :=
  ∀ k u, before.users.get? k = some u → ∃ v, t.users.get? k = some v ∧ u.AtMost v

theorem NobodyLost.refl (t : Tables) : t.NobodyLost t := fun _ u hu => ⟨u, hu, .refl u⟩

/-- Gains leave it so. -/
theorem admitsGains_nobodyLost (before : Tables) :
    AdmitsGains fun t => t.UsersKeyed ∧ before.NobodyLost t where
  put {t k u} v h hu same more := by
    obtain ⟨keyed, kept⟩ := h
    have key : v.id = k := same.trans (keyed k u hu)
    refine ⟨fun j w hw => ?_, fun j w hw => ?_⟩
    · rw [Table.get?_insert] at hw
      split at hw
      · next here =>
        cases hw
        exact here.symm
      · exact keyed j w hw
    · obtain ⟨w', hw', grown⟩ := kept j w hw
      by_cases here : j = v.id
      · have row : w' = u := by
          rw [here, key, hu] at hw'
          exact (Option.some.inj hw').symm
        exact ⟨v, by rw [Table.get?_insert, if_pos here], grown.trans (row ▸ more)⟩
      · exact ⟨w', by rw [Table.get?_insert, if_neg here]; exact hw', grown⟩
  record _ h _ _ := h
  aside _ _ _ _ h := h

end Tables

/-- **A request that only gives**: it pays a reward of that day that takes nothing away, or
it writes nothing. -/
def StoreOp.OnlyGives (today : Instant) : StoreOp → Prop
  | creditReward c => c.now.day = today.day ∧ 0 ≤ c.amount ∧ 0 ≤ c.referrerAmount
  | op => ¬ op.IsWrite

namespace Memory

variable {m : Memory} (reach : m.Reachable) {today : Instant}

include reach

/-- **Nobody loses by a request that only gives**, whatever comes of it. -/
theorem Reachable.nobodyLost_answer {op : StoreOp} (gives : op.OnlyGives today) :
    m.tables.NobodyLost (m.answer op).2.tables := by
  by_cases write : op.IsWrite
  · cases op with
    | creditReward c =>
      cases off : m.disabled with
      | true =>
        have same : (m.answer (.creditReward c)).2 = m :=
          congrArg Prod.snd (transact_of_disabled off (UnitStep.creditReward c))
        rw [same]
        exact .refl m.tables
      | false =>
        let P (t : Tables) : Prop := t.UsersKeyed ∧ m.tables.NobodyLost t
        have keeps : (UnitStep.creditReward c).Keeps P :=
          UnitStep.keeps_creditReward (Tables.admitsGains_nobodyLost m.tables) gives.2.1 gives.2.2
        have kept : P (m.answer (.creditReward c)).2.tables :=
          reach.keeps_answer ⟨(reach.wellFormed off).users_keyed, .refl m.tables⟩ keeps
        exact kept.2
    | _ => exact absurd write gives
  · rw [answer_of_not_write m write]
    exact .refl m.tables

/-- **A reward that is paid is posted to the rows**, with an amount and a share that take
nothing away. -/
theorem Reachable.posted_of_paid {c : RewardCredit} {receipt : Receipt}
    (gives : StoreOp.OnlyGives today (.creditReward c))
    (paid : (m.answer (.creditReward c)).1 = .ok receipt) :
    receipt.income.user = c.user ∧ 0 ≤ receipt.income.amount
      ∧ 0 ≤ receipt.income.referrerAmount
      ∧ (m.answer (.creditReward c)).2.tables.users
        = m.tables.users.map (·.post receipt.income) := by
  obtain ⟨-, amount, share⟩ := gives
  obtain ⟨on, u, hu, -, rfl, booked⟩ := reach.commits
    (show (StoreOp.creditReward c).IsWrite from trivial) paid
  refine ⟨(reach.wellFormed on).users_keyed _ _ hu, amount, ?_, by rw [booked]; rfl⟩
  show 0 ≤ if _ then c.referrerAmount else 0
  split
  · exact share
  · exact Int.le_refl 0

end Memory

/-! ## What a draw does turn by turn -/

/-- The effect takes no amount from a list of bands that is not harmless. -/
def Effect.DrawsHarmlessly : Effect → Prop
  | draw bands => RewardBand.Harmless bands
  | _ => True

instance : DecidablePred Effect.DrawsHarmlessly
  | .draw bands => inferInstanceAs (Decidable (RewardBand.Harmless bands))
  | .store _ | .cache _ | .now | .broadcast _ | .activeCount | .subscribe _ | .unsubscribe _
  | .write .. | .checks | .metrics | .uptime => instDecidableTrue

namespace Turn

/-- **A turn takes nothing away** on a day: not from anybody who is there, not from the
total of the day, and not from the pool. -/
structure TakesNothing (today : Instant) (t : Turn) : Prop where
  users : t.found.store.tables.NobodyLost t.left.store.tables
  total : t.found.store.tables.totalOf today.day ≤ t.left.store.tables.totalOf today.day
  pool : t.found.cache.poolAt today ≤ t.left.cache.poolAt today

/-- A turn that pays is one of a reward that the store grants. -/
theorem exists_reward_of_pays {t : Turn} (pays : t.pays = true) :
    ∃ (c : RewardCredit) (receipt : Receipt), t.effect = .store (.creditReward c)
      ∧ (t.found.store.answer (.creditReward c)).1 = .ok receipt := by
  obtain ⟨task, found, e⟩ := t
  cases e with
  | store op =>
    cases op with
    | creditReward c =>
      change (found.store.answer (.creditReward c)).1.isOk = true at pays
      cases replied : (found.store.answer (.creditReward c)).1 with
      | ok receipt => exact ⟨c, receipt, rfl, replied⟩
      | error fault =>
        rw [replied] at pays
        cases pays
    | _ => cases pays
  | _ => cases pays

section OnlyGives

variable {today : Instant} {t : Turn} (reach : t.found.store.Reachable)
  (gives : t.effect.AsksOnly (StoreOp.OnlyGives today))

include reach gives

/-- Nobody loses by a turn that only gives. -/
theorem nobodyLost : t.found.store.tables.NobodyLost t.left.store.tables := by
  obtain ⟨task, found, e⟩ := t
  show found.store.tables.NobodyLost (found.handle Memory.answer e).2.store.tables
  rw [Effect.store_handle]
  cases e with
  | store op => exact reach.nobodyLost_answer gives
  | _ => exact .refl _

/-- It does not pay less than nothing. -/
theorem paid_nonneg : 0 ≤ t.paid today := by
  cases pays : t.pays with
  | false => exact Int.le_of_eq (paid_of_not_pays reach pays).symm
  | true =>
    obtain ⟨c, receipt, rewards, ok⟩ := exists_reward_of_pays pays
    obtain ⟨task, found, e⟩ := t
    cases rewards
    obtain ⟨-, amount, share, -⟩ := reach.posted_of_paid gives ok
    rw [paid_of_reward reach gives.1 ok]
    exact Int.add_nonneg amount share

end OnlyGives

end Turn

namespace Crediting

open ServiceStep

/-- An amount that was taken harmlessly is not negative. -/
theorem nonneg_of_drawAmount {policy : RewardPolicy} {now : Instant} {amount : Int}
    {turns : List Turn} (h : (drawAmount policy now).run.Follows turns (.done (.ok amount)))
    (harmless : ∀ t ∈ turns, t.effect.DrawsHarmlessly) : 0 ≤ amount := by
  obtain ⟨_, _, _, rfl, looked⟩ := follows_perform_bind h
  obtain ⟨_, _, _, rfl, listed⟩ := follows_perform_bind looked
  obtain ⟨task, found, rest, rfl, drew⟩ := follows_perform_bind listed
  simp only [List.forall_mem_cons] at harmless
  obtain ⟨-, -, harmless, -⟩ := harmless
  cases drawn : (found.handle Memory.answer (.draw _)).1 with
  | ok amount' =>
    rw [drawn] at drew
    cases (Program.follows_done drew).2
    exact RewardBand.Harmless.nonneg harmless drawn
  | error cause =>
    rw [drawn] at drew
    cases (Program.follows_done drew).2

variable {id : Int} {now : Instant} {turns : List Turn}
  {q : Program Effect Effect.Reply (Outcome Income)}

/-- **A draw only gives** if it takes its amount from a harmless list. -/
theorem onlyGives_draw (h : (draw id now).run.Follows turns q)
    (harmless : ∀ t ∈ turns, t.effect.DrawsHarmlessly) :
    ∀ t ∈ turns, t.effect.AsksOnly (StoreOp.OnlyGives now) := by
  let gives : Effect → Prop := Effect.AsksOnly (StoreOp.OnlyGives now)
  refine forall_follows_bind (performs_ask (show gives (.store (.user id)) from not_false)) ?_ h
  rintro user _ turns rfl - h
  refine forall_follows_bind (performs_requireDue id user now) ?_ h
  rintro - _ turns rfl - h
  refine forall_follows_bind (performs_perform (e := .cache .policy) trivial) ?_ h
  rintro policy _ turns rfl - h
  refine forall_follows_bind
    (performs_drawAmount policy trivial (fun _ => trivial) fun _ => trivial) ?_ h
  rintro amount first rest rfl drawn h
  simp only [List.forall_mem_append] at harmless
  have positive := nonneg_of_drawAmount drawn harmless.2.2.2.1
  have share :
      0 ≤ if user.referrer.isSome then referrerShare amount policy.referrerRate else 0 := by
    split
    · exact referrerShare_nonneg _ _
    · exact Int.le_refl 0
  refine (Program.Performs.follows ?_ h).1
  refine performs_bind (performs_ask ⟨rfl, positive, share⟩) fun receipt => ?_
  refine performs_bind (performs_ofOutcome _) fun paid => ?_
  refine performs_bind (performs_perform trivial) fun added => ?_
  refine performs_bind (performs_ofOutcome added) fun _ => ?_
  exact performs_bind (performs_publish receipt (fun _ => trivial) fun _ => trivial)
    fun _ => trivial

/-- **No turn of such a draw takes anything away**, whatever comes of the draw. -/
theorem takesNothing_draw (reach : ∀ t ∈ turns, t.found.store.Reachable)
    (h : (draw id now).run.Follows turns q) (harmless : ∀ t ∈ turns, t.effect.DrawsHarmlessly) :
    ∀ t ∈ turns, t.TakesNothing now := by
  have gives := onlyGives_draw h harmless
  have paid (t : Turn) (ht : t ∈ turns) : 0 ≤ t.paid now :=
    Turn.paid_nonneg (reach t ht) (gives t ht)
  have inAll : 0 ≤ Turn.paidIn now turns := List.sum_nonneg (List.forall_mem_map.2 paid)
  have once := paysOnce_draw id rfl turns q reach h
  have kept := ((performs_draw_putsTotal id now).follows h).1
  intro t ht
  refine ⟨Turn.nobodyLost (reach t ht) (gives t ht), ?_, ?_⟩
  · have more := paid t ht
    unfold Turn.paid at more
    omega
  · -- what is added to the pool is what was paid in all
    have added : 0 ≤ t.added now := by
      rw [once.added t ht]
      split
      · exact inAll
      · exact Int.le_refl 0
    rw [t.poolAt_left (kept t ht)]
    omega

/-- **What a call gave** to a user: an income of an amount and a share that take nothing
away, posted to the rows in one of its turns. -/
structure Gave (id : Int) (turns : List Turn) (i : Income) : Prop where
  user : i.user = id
  amount : 0 ≤ i.amount
  share : 0 ≤ i.referrerAmount
  posted : ∃ t ∈ turns, t.left.store.tables.users = t.found.store.tables.users.map (·.post i)

/-- **A call gives** the income that it returns, as long as it only gives. -/
def Gives (id : Int) (x : ServiceStep Income) : Prop :=
  ∀ (now : Instant) (turns : List Turn) (i : Income),
    (∀ t ∈ turns, t.found.store.Reachable) →
      (∀ t ∈ turns, t.effect.AsksOnly (StoreOp.OnlyGives now)) →
        x.run.Follows turns (.done (.ok i)) → Gave id turns i

/-- Whatever comes before, it is given. -/
theorem Gives.bind {α : Type} {x : ServiceStep α} {f : α → ServiceStep Income}
    (gives : ∀ a, Gives id (f a)) : Gives id (x >>= f) := by
  intro now turns i reach only h
  obtain ⟨a, first, second, rfl, -, after⟩ := follows_bind_ok h
  have gave := gives a now second i (List.forall_mem_append.1 reach).2
    (List.forall_mem_append.1 only).2 after
  obtain ⟨t, ht, posted⟩ := gave.posted
  exact { gave with posted := ⟨t, List.mem_append_right _ ht, posted⟩ }

/-- **A draw gives the income that it comes to.** -/
theorem gives_draw (id : Int) (now : Instant) : Gives id (draw id now) := by
  refine .bind fun user => .bind fun _ => .bind fun policy => .bind fun amount => ?_
  intro today turns i reach only h
  obtain ⟨receipt, _, rest, rfl, paid, after⟩ := follows_bind_ok h
  obtain ⟨task, found, rfl, replied⟩ := follows_ask paid
  have returned : receipt.income = i := by
    obtain ⟨_, _, _, -, -, counted⟩ := follows_bind_ok after
    obtain ⟨_, _, _, -, -, added⟩ := follows_bind_ok counted
    obtain ⟨_, _, _, -, -, checked⟩ := follows_bind_ok added
    cases (follows_publish checked).1
    rfl
  obtain ⟨user, least, share, posted⟩ :=
    (reach ⟨task, found, .store (.creditReward _)⟩ List.mem_cons_self).posted_of_paid
      (only ⟨task, found, .store (.creditReward _)⟩ List.mem_cons_self) replied.symm
  rw [returned] at user least share posted
  exact ⟨user, least, share, ⟨task, found, _⟩, List.mem_cons_self, posted⟩

end Crediting

/-! ## Histories of the whole service -/

/-- **What the service does** to balances and to the snapshot: draws and deliveries, calls
of the settlement, and refreshes. -/
inductive Service.Call : {α : Type} → Program Effect Effect.Reply α → Prop
  | credit {α : Type} {p : Program Effect Effect.Reply α} (call : Crediting.Call p) : Call p
  | settle {α : Type} {p : Program Effect Effect.Reply α} (call : Settlement.Call p) : Call p
  | refresh (now : Instant) : Call (RateCache.refresh now).run

/-- A request that is **honest**: a credit takes nothing away, and a withdrawal is of a
positive amount. -/
def StoreOp.Honest (op : StoreOp) : Prop := op.Gives ∧ op.TakesPositive

/-- A request that only gives is honest. -/
theorem StoreOp.OnlyGives.honest {today : Instant} {op : StoreOp} (gives : op.OnlyGives today) :
    op.Honest := by
  cases op with
  | creditReward c => exact ⟨gives.2, trivial⟩
  | creditPartner | createWithdrawal => exact absurd trivial gives
  | _ => exact ⟨trivial, trivial⟩

/-- **The whole service is at work** on a store that was empty, with any snapshot. Around
its calls the store may be given any honest command: users are registered, policies and
bands are added, fail points are armed. All the rest, the snapshot and the random words
too, may change there at will. -/
def Setting.service : Setting where
  Initial s := s.store = .empty
  Begins p := Service.Call p
  Around s s' := s'.store = s.store ∨ ∃ c : Memory.Command,
    c.AsksOnly StoreOp.Honest ∧ s'.store = (s.store.perform c).2
  reachable_of_initial := Service.reachable_of_empty
  disturbed_of_around := by
    rintro s s' (same | ⟨c, -, commanded⟩)
    · exact .inl same
    · exact .inr ⟨c, commanded⟩

/-- **A delivery is honest**: its amount is looked at. -/
theorem Crediting.honest_creditPartner (source : IncomeSource) (key : String)
    (user amount : Int) :
    (creditPartner source key user amount).run.Performs (Effect.AsksOnly StoreOp.Honest) :=
  performs_creditPartner fun positive rate _ =>
    ⟨⟨Int.le_of_lt positive, referrerShare_nonneg amount rate⟩, trivial⟩

/-- **The settlement is honest.** -/
theorem Settlement.Call.honest {α : Type} {p : Program Effect Effect.Reply α} (call : Call p) :
    p.Performs (Effect.AsksOnly StoreOp.Honest) := by
  cases call with
  | request => exact performs_request fun positive _ => ⟨trivial, positive⟩
  | advance => exact performs_advance fun _ _ => ⟨trivial, trivial⟩
  | sweep least =>
    exact performs_sweep least ⟨trivial, trivial⟩ fun _ positive => ⟨trivial, positive⟩

/-- A refresh only looks at the store. -/
theorem RateCache.honest_refresh (now : Instant) :
    (refresh now).run.Performs (Effect.AsksOnly StoreOp.Honest) :=
  performs_refresh_of ⟨trivial, trivial⟩ (fun _ => ⟨trivial, trivial⟩) ⟨trivial, trivial⟩
    (fun _ => trivial) (fun _ _ => trivial) fun _ => trivial

namespace Memory

variable {m : Memory} (reach : m.Reachable)

include reach

/-- **Honest commands keep everybody solvent.** -/
theorem Reachable.solvent_perform (h : m.tables.Solvent) {c : Command}
    (honest : c.AsksOnly StoreOp.Honest) : (m.perform c).2.tables.Solvent := by
  cases c with
  | request op => exact reach.solvent_answer h honest.1 honest.2
  | addPolicy p =>
    exact transact_write_keeps h (h.of_same rfl (fun _ => rfl) h.balance)
  | addBand b =>
    exact transact_write_keeps h (h.of_same rfl (fun _ => rfl) h.balance)
  | arm p => exact h

end Memory

namespace History

variable {h : History} (reach : h.Reachable .service)

include reach

/-- The store may be given any honest command. -/
theorem Reachable.given (c : Memory.Command) (honest : c.AsksOnly StoreOp.Honest) :
    Reachable .service { h with pool.service.store := (h.pool.service.store.perform c).2 } :=
  reach.step (.around (.inr ⟨c, honest, rfl⟩))

/-- **Every turn is honest**, if all draws are from harmless lists. -/
theorem Reachable.honest (harmless : ∀ t ∈ h.turns, t.effect.DrawsHarmlessly) {t : Turn}
    (ht : t ∈ h.turns) : t.effect.AsksOnly StoreOp.Honest := by
  have own : ∀ u ∈ h.turnsOf t.task, u.effect.DrawsHarmlessly :=
    fun u hu => harmless u (List.mem_filter.1 hu).1
  have mine : t ∈ h.turnsOf t.task := List.mem_filter.2 ⟨ht, decide_eq_true rfl⟩
  obtain ⟨⟨Value, began, rest⟩, hn⟩ : ∃ task, h.pool.tasks[t.task]? = some task :=
    ⟨_, List.getElem?_eq_getElem (reach.task_lt ht)⟩
  obtain ⟨begins, follows⟩ := reach.follows hn
  cases begins with
  | credit call =>
    cases call with
    | draw id now =>
      have gives := Crediting.onlyGives_draw follows own t mine
      revert gives
      cases t.effect with
      | store op => exact fun gives => StoreOp.OnlyGives.honest gives
      | _ => exact fun _ => trivial
    | creditPartner source key user amount =>
      exact ((Crediting.honest_creditPartner source key user amount).follows follows).1 t mine
  | settle call => exact (call.honest.follows follows).1 t mine
  | refresh now => exact ((RateCache.honest_refresh now).follows follows).1 t mine

/-- **Nobody is overdrawn**, if all draws are from harmless lists. -/
theorem Reachable.solvent (harmless : ∀ t ∈ h.turns, t.effect.DrawsHarmlessly) :
    h.pool.service.store.tables.Solvent ∧ ∀ t ∈ h.turns, t.found.store.tables.Solvent := by
  induction reach with
  | new initial =>
    refine ⟨?_, fun t ht => absurd ht List.not_mem_nil⟩
    rw [initial]
    exact Tables.solvent_empty
  | @step h _ reach step ih =>
    have whole := reach.step step
    cases step with
    | start => exact ih harmless
    | @act n α began e next calls =>
      obtain ⟨now, before⟩ := ih fun t ht => harmless t (List.mem_append_left _ ht)
      have honest := whole.honest harmless (List.mem_append_right _ (List.mem_singleton_self _))
      refine ⟨?_, ?_⟩
      · show (h.pool.service.handle Memory.answer e).2.store.tables.Solvent
        rw [Effect.store_handle]
        cases e with
        | store op => exact reach.store.solvent_answer now honest.1 honest.2
        | _ => exact now
      · simp only [List.forall_mem_append, List.forall_mem_singleton]
        exact ⟨before, now⟩
    | @around s aside =>
      obtain ⟨now, before⟩ := ih harmless
      refine ⟨?_, before⟩
      obtain same | ⟨c, honest, commanded⟩ := aside
      · show s.store.tables.Solvent
        rw [same]
        exact now
      · show s.store.tables.Solvent
        rw [commanded]
        exact reach.store.solvent_perform now honest

/-- **A draw from a harmless list takes nothing away.** In every history of the service,
with whatever bands and random words, and whatever others do in between: no turn of such a
draw leaves anybody with less than before, nor the total of its day, nor the pool, and the
income that it comes to is of an amount and a share that are not negative, posted to the
rows in one of its turns. If all draws are of that kind no balance was ever below zero, and
nobody has withdrawn more than it earned. -/
theorem draws_take_nothing :
    (∀ n id now rest, h.pool.tasks[n]? = some ⟨_, (Crediting.draw id now).run, rest⟩ →
        (∀ t ∈ h.turnsOf n, t.effect.DrawsHarmlessly) →
          (∀ t ∈ h.turnsOf n, t.TakesNothing now)
            ∧ ∀ i, rest = .done (.ok i) → Crediting.Gave id (h.turnsOf n) i)
      ∧ ((∀ t ∈ h.turns, t.effect.DrawsHarmlessly) →
        ∀ s ∈ h.services, s.store.tables.Solvent) := by
  constructor
  · intro n id now rest hn harmless
    obtain ⟨-, follows⟩ := reach.follows hn
    have found : ∀ t ∈ h.turnsOf n, t.found.store.Reachable :=
      fun t ht => reach.found (List.mem_filter.1 ht).1
    refine ⟨Crediting.takesNothing_draw found follows harmless, ?_⟩
    rintro i rfl
    exact Crediting.gives_draw id now now _ i found
      (Crediting.onlyGives_draw follows harmless) follows
  · intro harmless s hs
    obtain ⟨now, before⟩ := reach.solvent harmless
    obtain hs | hs := List.mem_append.1 hs
    · obtain ⟨t, ht, rfl⟩ := List.mem_map.1 hs
      exact before t ht
    · rw [List.mem_singleton.1 hs]
      exact now

omit reach in
/-- One band takes, but it has no weight; the other one gives. A draw has taken its amount
when a delivery and a sweep come in between, which pays out all that its user holds. -/
theorem draws_take_nothing_of_weightless_band :
    ∃ h : History, h.Reachable .service
      ∧ h.pool.tasks[1]? = some ⟨_, (Crediting.draw 1 ⟨0, 0⟩).run,
        .done (.ok ⟨2, 1, none, .reward, 5, 0, ⟨0, 0⟩⟩)⟩
      ∧ (∀ t ∈ h.turns, t.effect.DrawsHarmlessly)
      ∧ (h.pool.service.store.tables.users.get? 1).map (·.balance) = some 5
      ∧ Crediting.Gave 1 (h.turnsOf 1) ⟨2, 1, none, .reward, 5, 0, ⟨0, 0⟩⟩
      ∧ h.pool.service.store.tables.Solvent := by
  have started := Reachable.new (S := .service) (s := Service.new Memory.empty 10 ⟨0, 0⟩) rfl
  have ready := (((started.given (.request (.createUser ⟨"a@x", "addr", none, 300⟩ ⟨0, 0⟩))
    ⟨trivial, trivial⟩).given (.addPolicy ⟨1000, .zero, ⟨0, 0⟩⟩) trivial).given
    (.addBand ⟨.low, -5, -5, 0⟩) trivial).given (.addBand ⟨.low, 5, 6, 1⟩) trivial
  have refreshed := (ready.step (.start (.refresh ⟨0, 0⟩))).run (n := 0) rfl
  have begun := refreshed.step (.start (.credit (.draw 1 ⟨0, 0⟩)))
  have looked := ((begun.step (.act (n := 1) rfl)).step (.act (n := 1) rfl)).step
    (.act (n := 1) rfl)
  have drawn := (looked.step (.act (n := 1) rfl)).step (.act (n := 1) rfl)
  have delivered := (drawn.step (.start (.credit (.creditPartner .offertoro "k" 1 100)))).run
    (n := 2) rfl
  have swept := (delivered.step (.start (.settle (.sweep 1)))).run (n := 3) rfl
  have finished := swept.run (n := 1) rfl
  obtain ⟨h, reach, paid, holds, harmless⟩ : ∃ h : History, h.Reachable .service
      ∧ h.pool.tasks[1]? = some ⟨_, (Crediting.draw 1 ⟨0, 0⟩).run,
        .done (.ok ⟨2, 1, none, .reward, 5, 0, ⟨0, 0⟩⟩)⟩
      ∧ (h.pool.service.store.tables.users.get? 1).map (·.balance) = some 5
      ∧ ∀ t ∈ h.turns, t.effect.DrawsHarmlessly := ⟨_, finished, rfl, rfl, by decide +kernel⟩
  obtain ⟨each, all⟩ := draws_take_nothing reach
  have own := each 1 1 ⟨0, 0⟩ _ paid fun t ht => harmless t (List.mem_filter.1 ht).1
  refine ⟨h, reach, paid, harmless, holds, own.2 _ rfl, ?_⟩
  exact all harmless _ (List.mem_append_right _ (List.mem_singleton_self _))

omit reach in
/-- **One draw can overdraw a balance.** The store accepts a band that takes, a refresh puts
it into the snapshot, and the draw that picks it comes to an income below zero. The user
held three and is left with minus two, in its balance and in its total; the five are taken
from the total of the day and from the pool as well. -/
theorem draw_overdraws :
    ∃ (h : History) (i : Income), h.Reachable .service
      ∧ h.pool.tasks[2]? = some ⟨_, (Crediting.draw 1 ⟨0, 0⟩).run, .done (.ok i)⟩
      ∧ i.amount = -5
      ∧ (h.pool.service.store.tables.users.get? 1).map (fun u => (u.balance, u.totalIncome))
        = some (-2, -2)
      ∧ h.pool.service.store.tables.totalOf ⟨0⟩ = -5
      ∧ h.pool.service.cache.poolAt ⟨0, 0⟩ = -5 := by
  have started := Reachable.new (S := .service) (s := Service.new Memory.empty 10 ⟨0, 0⟩) rfl
  have ready := ((started.given (.request (.createUser ⟨"a@x", "addr", none, 300⟩ ⟨0, 0⟩))
    ⟨trivial, trivial⟩).given (.addPolicy ⟨1000, .zero, ⟨0, 0⟩⟩) trivial).given
    (.addBand ⟨.low, -5, -5, 1⟩) trivial
  have refreshed := (ready.step (.start (.refresh ⟨0, 0⟩))).run (n := 0) rfl
  have delivered := (refreshed.step (.start (.credit (.creditPartner .offertoro "k" 1 3)))).run
    (n := 1) rfl
  have drawn := (delivered.step (.start (.credit (.draw 1 ⟨0, 0⟩)))).run (n := 2) rfl
  exact ⟨_, ⟨2, 1, none, .reward, -5, 0, ⟨0, 0⟩⟩, drawn, rfl, rfl, rfl, rfl, rfl⟩

end History

end RewardLedger
