import Mathlib.Algebra.Order.BigOperators.Group.List
import Mathlib.Data.List.DropRight
import RewardLedger.Proofs.DayPool
import RewardLedger.Proofs.History

/-!
# The pool while others are at work

One at a time, draws and refreshes keep the two counts of a day the same. Beside each
other they do not. A draw commits in the store and adds what it paid to the snapshot
later; a refresh reads the total of the store and puts it into the snapshot later. What
was committed but not added yet is missing from the pool, which is no harm. But a draw
that commits before a refresh reads, and adds after the refresh has put, is in the
total that was put and is added to it once more.

How often a draw is in the pool is therefore read off the order of four turns: the pool
has what was paid before the read of the last refresh that put (`History.seen`), and
what was added since (`History.since`). Each draw pays once and adds what it paid once,
whatever others do, so it is in the pool never, once or twice (`History.timesPooled`),
and the total and the pool are sums over the same payments.
-/

namespace RewardLedger

/-! ## What changes the total of a day -/

/-- **Counting is the last that the unit of a reward does**, so nothing is counted by a
unit that stops early. -/
theorem UnitStep.dayTotals_of_stopped {c : RewardCredit} {s s' : UnitState} {fault : Fault}
    (stopped : (creditReward c).run s = (.error fault, s')) :
    s'.unit.tables.dayTotals = s.unit.tables.dayTotals := by
  let P (t : Tables) : Prop := t.dayTotals = s.unit.tables.dayTotals
  have credited : (credit .reward c.user c.amount c.referrerAmount c.now).Keeps P :=
    keeps_creditHoldings ⟨fun _ _ _ h => h, fun _ _ _ _ h => h⟩ _ _ _ _ _
  have first := credited s rfl
  rw [creditReward, run_bind] at stopped
  cases hrun : (credit .reward c.user c.amount c.referrerAmount c.now).run s with
  | mk o s₁ =>
    rw [hrun] at first stopped
    cases o with
    | error fault =>
      cases stopped
      exact first
    | ok receipt =>
      dsimp only at stopped
      rw [run_bind, run_countInto c.now.day rfl] at stopped
      split at stopped
      · next counted =>
        split at counted <;> cases counted
        cases stopped
      · next s₂ uncounted =>
        split at uncounted <;> cases uncounted
        cases stopped
        exact first

namespace Memory

variable {m : Memory} (reach : m.Reachable)

include reach

/-- A request that pays no reward leaves the totals of the days alone, even if it is
abandoned half way. -/
theorem Reachable.dayTotals_answer {op : StoreOp} (unpaid : ¬ op.PaysReward) :
    (m.answer op).2.tables.dayTotals = m.tables.dayTotals := by
  let P (t : Tables) : Prop := t.dayTotals = m.tables.dayTotals
  have accounts : Tables.IgnoresAccounts P := fun _ _ _ _ _ _ h => h
  refine reach.keeps_answer (P := P) rfl ?_
  cases op with
  | createUser user now => exact UnitStep.keeps_createUser accounts user now
  | creditReward c => exact absurd trivial unpaid
  | creditPartner c => exact UnitStep.keeps_creditPartnerHoldings accounts.holdings c
  | createWithdrawal order =>
    exact UnitStep.keeps_createWithdrawal accounts.holdings (fun _ _ h => h) order
  | advanceWithdrawals ids current next transaction now =>
    exact UnitStep.keeps_advance (fun _ _ h => h) ids current next transaction now
  | _ => trivial

/-- So does every other command. -/
theorem Reachable.dayTotals_perform {c : Command}
    (unpaid : c.AsksOnly fun op => ¬ op.PaysReward) :
    (m.perform c).2.tables.dayTotals = m.tables.dayTotals := by
  cases c with
  | request op => exact reach.dayTotals_answer unpaid
  | addPolicy p => exact transact_write_keeps (P := (·.dayTotals = _)) rfl rfl
  | addBand b => exact transact_write_keeps (P := (·.dayTotals = _)) rfl rfl
  | arm p => rfl

/-- **A reward that is not paid is not counted**, even if its unit is abandoned. -/
theorem Reachable.dayTotals_of_unpaid {c : RewardCredit}
    (unpaid : (m.answer (.creditReward c)).1.isOk = false) :
    (m.answer (.creditReward c)).2.tables.dayTotals = m.tables.dayTotals := by
  cases off : m.disabled with
  | true =>
    have same := transact_of_disabled off (UnitStep.creditReward c)
    exact congrArg (fun r => r.2.tables.dayTotals) same
  | false =>
    cases replied : (m.answer (.creditReward c)).1 with
    | ok receipt =>
      rw [replied] at unpaid
      cases unpaid
    | error fault =>
      cases fault with
      | error cause =>
        rw [reach.tables_of_refused (show (StoreOp.creditReward c).IsWrite from trivial) replied]
      | outOfRange =>
        change (m.transact (UnitStep.creditReward c)).1 = _ at replied
        show (m.transact (UnitStep.creditReward c)).2.tables.dayTotals = _
        unfold transact at replied ⊢
        rw [if_neg (ne_true_of_eq_false off)] at replied ⊢
        cases hrun : (UnitStep.creditReward c).run ⟨.start m.tables, m.armed⟩ with
        | mk o s =>
          rw [hrun] at replied
          cases o with
          | ok receipt => cases replied
          | error fault =>
            have early := UnitStep.dayTotals_of_stopped hrun
            cases fault with
            | error cause => cases replied
            | outOfRange => exact early

/-- A reward that is paid is counted into its day. -/
theorem Reachable.totalOf_of_paid {c : RewardCredit} {receipt : Receipt}
    (paid : (m.answer (.creditReward c)).1 = .ok receipt) :
    (m.answer (.creditReward c)).2.tables.totalOf c.now.day
      = m.tables.totalOf c.now.day
        + (receipt.income.amount + receipt.income.referrerAmount) := by
  obtain ⟨-, u, -, -, rfl, booked⟩ := reach.commits
    (show (StoreOp.creditReward c).IsWrite from trivial) paid
  rw [booked]
  show (Table.get? (m.tables.dayTotals.insert c.now.day.number _) c.now.day.number).getD 0 = _
  rw [Table.get?_insert, if_pos rfl]
  rfl

end Memory

/-! ## What a turn does to the two counts -/

/-- Instants of one day see the same pool. -/
theorem RateCache.poolAt_congr {c : RateCache} {now today : Instant}
    (same : now.day = today.day) : c.poolAt now = c.poolAt today :=
  if_congr (by rw [DayTotal.Covers, DayTotal.Covers, same]) rfl rfl

namespace Effect

/-- An effect that pays no reward, and adds nothing to the pool. -/
def Uncounted : Effect → Prop
  | store op => ¬ op.PaysReward
  | cache (.addToPool ..) => False
  | _ => True

/-- The effect reads the total of a day. -/
def readsTotal : Effect → Bool
  | store (.dayTotal _) => true
  | _ => false

/-- The effect puts a total into the snapshot. -/
def putsTotal : Effect → Bool
  | cache (.setDayTotal _) => true
  | _ => false

end Effect

namespace Turn

/-- The turn paid a reward. -/
def pays : Turn → Bool
  | ⟨_, found, .store (.creditReward c)⟩ => (found.store.answer (.creditReward c)).1.isOk
  | _ => false

/-- The turn added to the pool. -/
def adds : Turn → Bool
  | ⟨_, found, .cache (.addToPool now delta)⟩ => (found.cache.addToPool now delta).1.isOk
  | _ => false

/-- **What the turn paid**, by the store's total of the day. -/
def paid (today : Instant) (t : Turn) : Int :=
  t.left.store.tables.totalOf today.day - t.found.store.tables.totalOf today.day

/-- **What the turn added to the pool of the day**, other than by putting a total. -/
def added (today : Instant) (t : Turn) : Int :=
  match t.effect with
  | .cache (.addToPool ..) => t.left.cache.poolAt today - t.found.cache.poolAt today
  | _ => 0

variable {today : Instant} {t : Turn}

/-- A turn that leaves the totals of the days as they are pays nothing. -/
theorem paid_of_same
    (same : t.left.store.tables.dayTotals = t.found.store.tables.dayTotals) :
    t.paid today = 0 := by
  rw [paid, Tables.totalOf, same]
  exact Int.sub_self _

/-- **Only a reward pays.** -/
theorem paid_of_not_pays (reach : t.found.store.Reachable) (unpaid : t.pays = false) :
    t.paid today = 0 := by
  obtain ⟨task, found, e⟩ := t
  refine paid_of_same ?_
  show (found.handle Memory.answer e).2.store.tables.dayTotals = found.store.tables.dayTotals
  rw [Effect.store_handle]
  cases e with
  | store op =>
    by_cases reward : op.PaysReward
    · cases op with
      | creditReward c => exact reach.dayTotals_of_unpaid unpaid
      | _ => exact reward.elim
    · exact reach.dayTotals_answer reward
  | _ => rfl

/-- Only putting a total and adding to the pool change it. -/
theorem poolAt_left (kept : t.effect.putsTotal = false) :
    t.left.cache.poolAt today = t.found.cache.poolAt today + t.added today := by
  obtain ⟨task, found, e⟩ := t
  show (found.handle Memory.answer e).2.cache.poolAt today = _
  rw [Effect.cache_handle]
  cases e with
  | cache op =>
    cases op with
    | setDayTotal total => cases kept
    | addToPool now delta =>
      show (found.cache.addToPool now delta).2.poolAt today
        = _ + ((found.cache.addToPool now delta).2.poolAt today - _)
      omega
    | _ => exact (Int.add_zero _).symm
  | _ => exact (Int.add_zero _).symm

/-- A turn neither paid nor added anything. -/
structure Idle (today : Instant) (t : Turn) : Prop where
  pays : t.pays = false
  adds : t.adds = false
  paid : t.paid today = 0
  added : t.added today = 0

theorem idle_of_uncounted (reach : t.found.store.Reachable) (uncounted : t.effect.Uncounted) :
    t.Idle today := by
  have unpaid : t.pays = false := by
    obtain ⟨task, found, e⟩ := t
    cases e with
    | store op =>
      cases op with
      | creditReward c => exact absurd trivial uncounted
      | _ => rfl
    | _ => rfl
  refine ⟨unpaid, ?_, paid_of_not_pays reach unpaid, ?_⟩
  all_goals
    obtain ⟨task, found, e⟩ := t
    cases e with
    | cache op =>
      cases op with
      | addToPool => exact uncounted.elim
      | _ => rfl
    | _ => rfl

section Draw

variable {task : Nat} {found : Service Memory}

/-- **A reward pays** its amount and the share. -/
theorem paid_of_reward (reach : found.store.Reachable) {c : RewardCredit}
    (same : c.now.day = today.day) {receipt : Receipt}
    (ok : (found.store.answer (.creditReward c)).1 = .ok receipt) :
    Turn.paid today ⟨task, found, .store (.creditReward c)⟩
      = receipt.income.amount + receipt.income.referrerAmount := by
  have counted := reach.totalOf_of_paid ok
  rw [same] at counted
  show (found.store.answer (.creditReward c)).2.tables.totalOf today.day
    - found.store.tables.totalOf today.day = _
  omega

/-- **What is added to the pool** is there, unless the sum is out of range. -/
theorem added_of_addToPool {now : Instant} (same : now.day = today.day) (delta : Int) :
    let t : Turn := ⟨task, found, .cache (.addToPool now delta)⟩
    t.added today = if t.adds then delta else 0 := by
  have pool (total : Int) :
      RateCache.poolAt { found.cache with dayTotal := ⟨now.day, total⟩ } today = total :=
    if_pos same
  show (found.cache.addToPool now delta).2.poolAt today - found.cache.poolAt today
    = if (found.cache.addToPool now delta).1.isOk then delta else 0
  rw [RateCache.addToPool_eq, RateCache.poolAt_congr same]
  cases hsum : Amount.add? (found.cache.poolAt today) delta with
  | none =>
    show RateCache.poolAt { found.cache with dayTotal := ⟨now.day, _⟩ } today - _ = 0
    rw [pool]
    exact Int.sub_self _
  | some total =>
    obtain ⟨-, rfl⟩ := Amount.add?_eq_some_iff.1 hsum
    show RateCache.poolAt { found.cache with dayTotal := ⟨now.day, _⟩ } today - _ = delta
    rw [pool]
    omega

end Draw

/-! ## A draw pays once and adds what it paid -/

/-- What turns paid in all. -/
def paidIn (today : Instant) (turns : List Turn) : Int := (turns.map (·.paid today)).sum

/-- What turns added to the pool in all. -/
def addedIn (today : Instant) (turns : List Turn) : Int := (turns.map (·.added today)).sum

/-- **Turns pay once**: at most one of them pays and at most one adds, and whatever is
added is what was paid. -/
structure PayOnce (today : Instant) (turns : List Turn) : Prop where
  pays : turns.countP (·.pays) ≤ 1
  adds : turns.countP (·.adds) ≤ 1
  paid : ∀ t ∈ turns, t.paid today = if t.pays then paidIn today turns else 0
  added : ∀ t ∈ turns, t.added today = if t.adds then paidIn today turns else 0

namespace PayOnce

variable {turns : List Turn}

theorem nil : PayOnce today [] where
  pays := Nat.zero_le 1
  adds := Nat.zero_le 1
  paid := fun _ h => absurd h List.not_mem_nil
  added := fun _ h => absurd h List.not_mem_nil

/-- A turn that is idle may come before. -/
theorem cons (idle : t.Idle today) (once : PayOnce today turns) : PayOnce today (t :: turns) := by
  have total : paidIn today (t :: turns) = paidIn today turns := by
    simp only [paidIn, List.map_cons, List.sum_cons, idle.paid, Int.zero_add]
  refine ⟨?_, ?_, fun u hu => ?_, fun u hu => ?_⟩
  · simpa [idle.pays] using once.pays
  · simpa [idle.adds] using once.adds
  · rw [total]
    obtain rfl | hu := List.mem_cons.1 hu
    · simp [idle.paid, idle.pays]
    · exact once.paid u hu
  · rw [total]
    obtain rfl | hu := List.mem_cons.1 hu
    · simp [idle.added, idle.adds]
    · exact once.added u hu

/-- Any number of them may. -/
theorem append {before : List Turn} (idle : ∀ t ∈ before, t.Idle today)
    (once : PayOnce today turns) : PayOnce today (before ++ turns) := by
  induction before with
  | nil => exact once
  | cons t before ih =>
    exact cons (idle t List.mem_cons_self) (ih fun u hu => idle u (List.mem_cons_of_mem t hu))

theorem of_idle (idle : ∀ t ∈ turns, t.Idle today) : PayOnce today turns := by
  simpa using append idle nil

/-- **A reward is paid**, and later added at most once. -/
theorem pay {pay : Turn} (first : pay.adds = false ∧ pay.added today = 0)
    (reward : pay.pays = true) (unpaid : ∀ t ∈ turns, t.pays = false ∧ t.paid today = 0)
    (adds : turns.countP (·.adds) ≤ 1)
    (added : ∀ t ∈ turns, t.added today = if t.adds then pay.paid today else 0) :
    PayOnce today (pay :: turns) := by
  have none : turns.countP (·.pays) = 0 :=
    List.countP_eq_zero.2 fun t ht => by simp [(unpaid t ht).1]
  have nothing : turns.map (·.paid today) = turns.map fun _ => 0 :=
    List.map_congr_left fun t ht => (unpaid t ht).2
  have total : paidIn today (pay :: turns) = pay.paid today := by
    simp [paidIn, nothing]
  refine ⟨?_, ?_, fun u hu => ?_, fun u hu => ?_⟩
  · simp [reward, none]
  · simpa [first.1] using adds
  · rw [total]
    obtain rfl | hu := List.mem_cons.1 hu
    · simp [reward]
    · simp [unpaid u hu]
  · rw [total]
    obtain rfl | hu := List.mem_cons.1 hu
    · simp [first]
    · exact added u hu

end PayOnce

/-- A sum to which each turn that is marked adds the same. -/
theorem sum_of_marked {f : Turn → Int} {p : Turn → Bool} {v : Int} {turns : List Turn}
    (marked : ∀ t ∈ turns, f t = if p t then v else 0) :
    (turns.map f).sum = turns.countP p * v := by
  induction turns with
  | nil => simp
  | cons t rest ih =>
    obtain ⟨first, others⟩ := List.forall_mem_cons.1 marked
    rw [List.map_cons, List.sum_cons, ih others, first, List.countP_cons]
    split
    · rw [Int.natCast_add, Int.add_mul, Int.add_comm]
      simp
    · simp

end Turn

namespace ServiceStep

/-- **A program pays once** on a day, along whatever turns it takes. -/
def PaysOnce {α : Type} (today : Instant) (x : ServiceStep α) : Prop :=
  ∀ turns q, (∀ t ∈ turns, t.found.store.Reachable) → x.run.Follows turns q →
    Turn.PayOnce today turns

variable {α β : Type} {today : Instant}

/-- What a program performs that is not counted is idle. -/
theorem idle_of_follows {x : ServiceStep α} {turns : List Turn}
    {q : Program Effect Effect.Reply (Outcome α)} (uncounted : x.run.Performs Effect.Uncounted)
    (reach : ∀ t ∈ turns, t.found.store.Reachable) (h : x.run.Follows turns q) :
    ∀ t ∈ turns, t.Idle today :=
  fun t ht => Turn.idle_of_uncounted (reach t ht) ((uncounted.follows h).1 t ht)

/-- Whatever is not counted may come before. -/
theorem PaysOnce.bind {x : ServiceStep α} {f : α → ServiceStep β}
    (uncounted : x.run.Performs Effect.Uncounted) (once : ∀ a, (f a).PaysOnce today) :
    (x >>= f).PaysOnce today := by
  intro turns q reach h
  obtain ⟨_, _, _, hx, -⟩ | ⟨_, hx, -⟩ | ⟨a, first, second, rfl, hfirst, hsecond⟩ :=
    follows_bind_underway h
  · exact .of_idle (idle_of_follows uncounted reach hx)
  · exact .of_idle (idle_of_follows uncounted reach hx)
  · obtain ⟨reachFirst, reachSecond⟩ := List.forall_mem_append.1 reach
    exact .append (idle_of_follows uncounted reachFirst hfirst)
      (once a second q reachSecond hsecond)

end ServiceStep

namespace Crediting

open ServiceStep

/-- **What follows a paid reward** adds what was paid to the pool, and nothing else. -/
theorem added_once {now today : Instant} (same : now.day = today.day) {receipt : Receipt}
    {turns : List Turn} {q : Program Effect Effect.Reply (Outcome Income)}
    (reach : ∀ t ∈ turns, t.found.store.Reachable)
    (h : (do
      let disbursed ← ofOutcome (.ofRange receipt.disbursed?)
      ofOutcome (← perform (.cache (.addToPool now disbursed)))
      publish receipt
      return receipt.income : ServiceStep Income).run.Follows turns q) :
    (∀ t ∈ turns, t.pays = false ∧ t.paid today = 0) ∧ turns.countP (·.adds) ≤ 1
      ∧ ∀ t ∈ turns, t.added today
        = if t.adds then receipt.income.amount + receipt.income.referrerAmount else 0 := by
  cases hpaid : receipt.disbursed? with
  | none =>
    rw [hpaid] at h
    obtain ⟨rfl, -⟩ := Program.follows_done h
    simp
  | some paid =>
    obtain ⟨-, rfl⟩ := Amount.add?_eq_some_iff.1 hpaid
    rw [hpaid] at h
    cases turns with
    | nil => simp
    | cons t rest =>
      obtain ⟨task, found, e⟩ := t
      obtain ⟨_, called, h⟩ := h
      cases called
      obtain ⟨-, reach⟩ := List.forall_mem_cons.1 reach
      -- whatever came of the addition, nothing is counted any more
      have idle : ∀ t ∈ rest, t.Idle today := idle_of_follows (x := do
          ofOutcome (found.cache.addToPool now _).1
          publish receipt
          return receipt.income)
        (performs_bind (performs_ofOutcome _) fun _ => performs_bind
          (performs_publish _ (fun _ => trivial) fun _ => trivial) fun _ => trivial) reach h
      have none : rest.countP (·.adds) = 0 :=
        List.countP_eq_zero.2 fun t ht => by simp [(idle t ht).adds]
      refine ⟨?_, ?_, ?_⟩
      · exact List.forall_mem_cons.2
          ⟨⟨rfl, Turn.paid_of_same rfl⟩, fun t ht => ⟨(idle t ht).pays, (idle t ht).paid⟩⟩
      · rw [List.countP_cons, none, Nat.zero_add]
        split <;> decide
      · refine List.forall_mem_cons.2 ⟨Turn.added_of_addToPool same _, fun t ht => ?_⟩
        simp [(idle t ht).added, (idle t ht).adds]

/-- **A draw pays once.** -/
theorem paysOnce_draw (id : Int) {now today : Instant} (same : now.day = today.day) :
    (draw id now).PaysOnce today := by
  refine PaysOnce.bind (performs_ask not_false) fun user => ?_
  refine PaysOnce.bind (performs_requireDue id user now) fun _ => ?_
  refine PaysOnce.bind (performs_perform trivial) fun policy => ?_
  refine PaysOnce.bind (performs_drawAmount policy trivial (fun _ => trivial) fun _ => trivial)
    fun amount => ?_
  intro turns q reach h
  cases turns with
  | nil => exact .nil
  | cons t rest =>
    obtain ⟨task, found, e⟩ := t
    obtain ⟨_, called, h⟩ := h
    cases called
    obtain ⟨reachFound, reach⟩ := List.forall_mem_cons.1 reach
    let share := if user.referrer.isSome then referrerShare amount policy.referrerRate else 0
    let c : RewardCredit := ⟨id, amount, share, now⟩
    cases replied : (found.store.answer (.creditReward c)).1 with
    | error fault =>
      have unpaid : Turn.pays ⟨task, found, .store (.creditReward c)⟩ = false := by
        show (found.store.answer (.creditReward c)).1.isOk = false
        rw [replied]
        rfl
      have stopped : rest = [] := by
        change Program.Follows (ExceptT.run (ofOutcome (found.store.answer (.creditReward c)).1
          >>= _)) rest q at h
        rw [replied] at h
        exact (Program.follows_done h).1
      rw [stopped]
      exact .cons ⟨unpaid, rfl, Turn.paid_of_not_pays reachFound unpaid, rfl⟩ .nil
    | ok receipt =>
      have reward : Turn.pays ⟨task, found, .store (.creditReward c)⟩ = true := by
        show (found.store.answer (.creditReward c)).1.isOk = true
        rw [replied]
        rfl
      change Program.Follows (ExceptT.run (ofOutcome (found.store.answer (.creditReward c)).1
        >>= _)) rest q at h
      rw [replied] at h
      obtain ⟨unpaid, adds, added⟩ := added_once same reach h
      refine .pay ⟨rfl, rfl⟩ reward unpaid adds ?_
      rwa [Turn.paid_of_reward reachFound same replied]

/-- A draw puts no total into the snapshot. -/
theorem performs_draw_putsTotal (id : Int) (now : Instant) :
    (draw id now).run.Performs fun e => e.putsTotal = false := by
  refine performs_bind (performs_ask rfl) fun user => ?_
  refine performs_bind (performs_requireDue id user now) fun _ => ?_
  refine performs_bind (performs_perform rfl) fun policy => ?_
  refine performs_bind (performs_drawAmount policy rfl (fun _ => rfl) fun _ => rfl) fun amount => ?_
  refine performs_bind (performs_ask rfl) fun receipt => ?_
  refine performs_bind (performs_ofOutcome _) fun paid => ?_
  refine performs_bind (performs_perform rfl) fun added => ?_
  refine performs_bind (performs_ofOutcome added) fun _ => ?_
  exact performs_bind (performs_publish receipt (fun _ => rfl) fun _ => rfl) fun _ => trivial

end Crediting

/-! ## A refresh puts what it read -/

namespace RateCache

open ServiceStep

/-- **What a refresh performs.** -/
theorem performs_refresh_of {P : Effect → Prop} {now : Instant}
    (policy : P (.store .latestPolicy)) (bands : ∀ level, P (.store (.rewardBands level)))
    (total : P (.store (.dayTotal now.day))) (putPolicy : ∀ p, P (.cache (.setPolicy p)))
    (putBands : ∀ level bands, P (.cache (.setBands level bands)))
    (putTotal : ∀ total, P (.cache (.setDayTotal total))) : (refresh now).run.Performs P := by
  have again (level : PoolLevel) : (refreshBands level).run.Performs P :=
    performs_bind (performs_ask (bands level)) fun _ => performs_perform (putBands level _)
  rw [refresh_eq]
  refine performs_bind (performs_ask policy) fun policy? => performs_bind ?_ fun _ =>
    performs_bind (again .low) fun _ => performs_bind (again .high) fun _ =>
      performs_bind (performs_ask total) fun _ => performs_perform (putTotal _)
  cases policy? with
  | none => trivial
  | some policy => exact performs_perform (putPolicy policy)

/-- A refresh pays nothing, and adds nothing to the pool. -/
theorem performs_refresh (now : Instant) : (refresh now).run.Performs Effect.Uncounted :=
  performs_refresh_of not_false (fun _ => not_false) not_false (fun _ => trivial)
    (fun _ _ => trivial) fun _ => trivial

/-- The effect neither reads the total of a day nor puts it. -/
def Bypasses (e : Effect) : Prop := e.readsTotal = false ∧ e.putsTotal = false

/-- A program in two parts of which the first bypasses the total is in the second when
it is about to put one. -/
theorem follows_to_put {α β : Type} {x : ServiceStep α} {f : α → ServiceStep β}
    {turns : List Turn} {total : DayTotal} {next : PUnit → Program Effect Effect.Reply (Outcome β)}
    (bypasses : x.run.Performs Bypasses)
    (h : (x >>= f).run.Follows turns (.call (.cache (.setDayTotal total)) next)) :
    ∃ a first second, turns = first ++ second ∧ (∀ t ∈ first, t.effect.readsTotal = false)
      ∧ (f a).run.Follows second (.call (.cache (.setDayTotal total)) next) := by
  obtain ⟨e, _, _, hx, same⟩ | ⟨_, -, same⟩ | ⟨a, first, second, rfl, hfirst, hsecond⟩ :=
    follows_bind_underway h
  · have putting := (bypasses.follows hx).2.1.2
    cases same
    cases putting
  · cases same
  · exact ⟨a, first, second, rfl, fun t ht => ((bypasses.follows hfirst).1 t ht).1, hsecond⟩

/-- **A refresh that is about to put a total** has just read it. -/
theorem follows_refresh_put {now : Instant} {turns : List Turn} {total : DayTotal}
    {next : PUnit → Program Effect Effect.Reply (Outcome PUnit)}
    (h : (refresh now).run.Follows turns (.call (.cache (.setDayTotal total)) next)) :
    ∃ before task found, turns = before ++ [⟨task, found, .store (.dayTotal now.day)⟩]
      ∧ (∀ t ∈ before, t.effect.readsTotal = false)
      ∧ (found.store.answer (.dayTotal now.day)).1 = .ok total := by
  have bands (level : PoolLevel) : (refreshBands level).run.Performs Bypasses :=
    performs_bind (performs_ask ⟨rfl, rfl⟩) fun _ => performs_perform ⟨rfl, rfl⟩
  have policy (policy? : Option RewardPolicy) : (putPolicy policy?).run.Performs Bypasses := by
    cases policy? with
    | none => trivial
    | some policy => exact performs_perform ⟨rfl, rfl⟩
  rw [refresh_eq] at h
  obtain ⟨policy?, first, turns, rfl, hfirst, h⟩ := follows_to_put (performs_ask ⟨rfl, rfl⟩) h
  obtain ⟨-, second, turns, rfl, hsecond, h⟩ := follows_to_put (policy policy?) h
  obtain ⟨-, third, turns, rfl, hthird, h⟩ := follows_to_put (bands .low) h
  obtain ⟨-, fourth, turns, rfl, hfourth, h⟩ := follows_to_put (bands .high) h
  have early : ∀ t ∈ first ++ (second ++ (third ++ fourth)), t.effect.readsTotal = false := by
    simp only [List.forall_mem_append]
    exact ⟨hfirst, hsecond, hthird, hfourth⟩
  cases turns with
  | nil => cases h
  | cons t rest =>
    obtain ⟨task, found, e⟩ := t
    obtain ⟨_, called, h⟩ := h
    cases called
    change Program.Follows (ExceptT.run (ofOutcome (found.store.answer (.dayTotal now.day)).1
      >>= _)) rest _ at h
    cases replied : (found.store.answer (.dayTotal now.day)).1 with
    | error fault =>
      rw [replied] at h
      obtain ⟨-, impossible⟩ := Program.follows_done h
      cases impossible
    | ok read =>
      rw [replied] at h
      cases rest with
      | nil =>
        cases h
        refine ⟨first ++ (second ++ (third ++ fourth)), task, found, ?_, early, replied⟩
        simp only [List.append_assoc]
      | cons u rest =>
        obtain ⟨task', found', e⟩ := u
        obtain ⟨_, called, h⟩ := h
        cases called
        obtain ⟨-, impossible⟩ := Program.follows_done h
        cases impossible

end RateCache

/-! ## Draws beside refreshes -/

/-- **A draw or a refresh** on a day. -/
inductive PoolCall (today : Instant) : {α : Type} → Program Effect Effect.Reply α → Prop
  | draw (id : Int) (now : Instant) (same : now.day = today.day) :
    PoolCall today (Crediting.draw id now).run
  | refresh (now : Instant) (same : now.day = today.day) :
    PoolCall today (RateCache.refresh now).run

/-- **Draws and refreshes take turns** on a day on which nothing was paid yet, by neither
count. Around them the store may be given any command that pays no reward, and anything
may happen to the rest of the service, as long as nobody else touches the pool. -/
def Setting.pooling (today : Instant) : Setting where
  Initial s := s.store.Reachable ∧ s.store.tables.totalOf today.day = 0
    ∧ s.cache.poolAt today = 0
  Begins p := PoolCall today p
  Around s s' := s'.cache.dayTotal = s.cache.dayTotal ∧ (s'.store = s.store
    ∨ ∃ c : Memory.Command, (c.AsksOnly fun op => ¬ op.PaysReward)
      ∧ s'.store = (s.store.perform c).2)
  reachable_of_initial := fun _ new => new.1
  disturbed_of_around := fun _ _ aside => aside.2.imp_right fun ⟨c, _, commanded⟩ =>
    ⟨c, commanded⟩

namespace History

/-- The turns up to the last one that put a total into the snapshot. -/
def untilPut (h : History) : List Turn := h.turns.rdropWhile fun t => !t.effect.putsTotal

/-- **What the snapshot was last put from**: the turns before the read of the refresh
that put last. -/
def seen (h : History) : List Turn :=
  match h.untilPut.getLast? with
  | none => []
  | some put => h.untilPut.takeWhile fun t => !(t.task = put.task && t.effect.readsTotal)

/-- **The turns since the last one that put a total** into the snapshot. -/
def since (h : History) : List Turn := h.turns.rtakeWhile fun t => !t.effect.putsTotal

/-- What a task paid. -/
def paidBy (h : History) (today : Instant) (n : Nat) : Int := Turn.paidIn today (h.turnsOf n)

/-- **How often a draw is in the pool**: once if the last refresh to put had seen it pay,
and once if it added since. -/
def timesPooled (h : History) (n : Nat) : Nat :=
  ((h.seen.filter fun t => t.task = n).countP (·.pays))
    + (h.since.filter fun t => t.task = n).countP (·.adds)

/-- **What the two counts are made of.** -/
structure CountsDraws (h : History) (today : Instant) : Prop where
  /-- The store has what each draw paid, once. -/
  total : h.pool.service.store.tables.totalOf today.day
    = ((List.range h.pool.tasks.length).map fun n => h.paidBy today n).sum
  /-- The snapshot has it as often as the order of the turns says. -/
  pool : h.pool.service.cache.poolAt today
    = ((List.range h.pool.tasks.length).map fun n => h.timesPooled n * h.paidBy today n).sum
  atMostTwice : ∀ n, h.timesPooled n ≤ 2
  /-- The pool lags as long as no draw is in it twice. -/
  lags : (∀ n, 0 ≤ h.paidBy today n) → (∀ n, h.timesPooled n ≤ 1) →
    h.pool.service.cache.poolAt today ≤ h.pool.service.store.tables.totalOf today.day
      ∧ ∀ threshold, PoolLevel.ofPool (h.pool.service.cache.poolAt today) threshold = .high →
        threshold < h.pool.service.store.tables.totalOf today.day

/-- **What was seen by a refresh that has just put** are the turns before its read, of
which it has only one. -/
theorem seen_of_put {h : History} {turns before : List Turn} {put read : Turn}
    (all : h.turns = turns ++ [put]) (puts : put.effect.putsTotal = true)
    (own : (turns.filter fun t => t.task = put.task) = before ++ [read])
    (reads : read.effect.readsTotal = true)
    (early : ∀ t ∈ before, t.effect.readsTotal = false) :
    ∃ after, h.turns = h.seen ++ read :: after := by
  let p (t : Turn) : Bool := !(t.task = put.task && t.effect.readsTotal)
  have upToPut : h.untilPut = h.turns := by
    rw [untilPut, all]
    exact List.rdropWhile_concat_neg _ _ _ (by simp [puts])
  have seen : h.seen = h.turns.takeWhile p := by
    rw [History.seen, upToPut, all, List.getLast?_concat]
  have quiet : put.effect.readsTotal = false := by
    obtain ⟨task, found, e⟩ := put
    cases e with
    | store op => cases puts
    | _ => rfl
  have mem : read ∈ turns.filter fun t => t.task = put.task := by
    rw [own]
    exact List.mem_append_right _ (List.mem_singleton_self _)
  obtain ⟨taken, named⟩ := List.mem_filter.1 mem
  have split : h.turns.takeWhile p ++ h.turns.dropWhile p = h.turns :=
    List.takeWhile_append_dropWhile
  have first := List.head?_dropWhile_not p h.turns
  cases rest : h.turns.dropWhile p with
  | nil =>
    rw [List.dropWhile_eq_nil_iff, all] at rest
    have passed := rest read (List.mem_append_left _ taken)
    simp [p, reads, of_decide_eq_true named] at passed
  | cons r after =>
    rw [rest] at split first
    have stops : r.task = put.task ∧ r.effect.readsTotal = true := by simpa [p] using first
    have there : r ∈ turns ++ [put] := by
      rw [← all, ← split]
      exact List.mem_append_right _ List.mem_cons_self
    have same : r = read := by
      obtain there | there := List.mem_append.1 there
      · have there : r ∈ before ++ [read] :=
          own ▸ List.mem_filter.2 ⟨there, decide_eq_true stops.1⟩
        obtain there | there := List.mem_append.1 there
        · rw [early r there] at stops
          cases stops.2
        · exact List.mem_singleton.1 there
      · rw [List.mem_singleton.1 there, quiet] at stops
        cases stops.2
    rw [seen, ← same]
    exact ⟨after, split.symm⟩

/-- The turns that were seen, and those since, are all turns that were taken. -/
theorem sublist_seen (h : History) : h.seen.Sublist h.turns := by
  unfold seen
  split
  · exact List.nil_sublist _
  · exact (List.takeWhile_sublist _).trans (List.rdropWhile_prefix _ _).sublist

theorem sublist_since (h : History) : h.since.Sublist h.turns :=
  (List.rtakeWhile_suffix _ _).sublist

section Reachable

variable {today : Instant} {h : History} (reach : h.Reachable (.pooling today))

include reach

/-- **The store's total is what the turns paid**, now and at every turn. -/
theorem Reachable.totals :
    h.pool.service.store.tables.totalOf today.day = Turn.paidIn today h.turns
      ∧ ∀ before t after, h.turns = before ++ t :: after →
        t.found.store.tables.totalOf today.day = Turn.paidIn today before := by
  induction reach with
  | new initial => exact ⟨initial.2.1, fun before t after split => by simp at split⟩
  | @step h _ reach step ih =>
    obtain ⟨now, earlier⟩ := ih
    cases step with
    | start => exact ⟨now, earlier⟩
    | @act n α began e next calls =>
      let t : Turn := ⟨n, h.pool.service, e⟩
      constructor
      · show t.left.store.tables.totalOf today.day = Turn.paidIn today (h.turns ++ [t])
        have paid : t.paid today = t.left.store.tables.totalOf today.day
          - h.pool.service.store.tables.totalOf today.day := rfl
        rw [Turn.paidIn, List.map_append, List.sum_append, List.map_singleton,
          List.sum_singleton, ← Turn.paidIn, ← now, paid]
        omega
      · intro before u after split
        obtain rfl | ⟨after, v, rfl⟩ := List.eq_nil_or_concat after
        · obtain ⟨rfl, last⟩ := List.append_inj' split rfl
          cases last
          exact now
        · rw [List.concat_eq_append, ← List.cons_append, ← List.append_assoc] at split
          obtain ⟨split, -⟩ := List.append_inj' split rfl
          exact earlier before u after split
    | @around s aside =>
      obtain ⟨-, same | ⟨c, unpaid, commanded⟩⟩ := aside
      · refine ⟨?_, earlier⟩
        rw [same]
        exact now
      · have days := reach.store.dayTotals_perform unpaid
        refine ⟨?_, earlier⟩
        rw [commanded, Tables.totalOf, days]
        exact now

/-- **A total that is put is what was paid before it was read.** -/
theorem Reachable.poolAt_put {n : Nat} {α : Type} {began : Program Effect Effect.Reply α}
    {e : Effect} {next : e.Reply → Program Effect Effect.Reply α}
    (calls : h.pool.tasks[n]? = some ⟨α, began, .call e next⟩) (puts : e.putsTotal = true) :
    let t : Turn := ⟨n, h.pool.service, e⟩
    t.left.cache.poolAt today = Turn.paidIn today
      (History.seen ⟨⟨t.left, h.pool.tasks.set n ⟨α, began, next t.reply⟩⟩, h.turns ++ [t]⟩) := by
  intro t
  obtain ⟨begins, follows⟩ := reach.follows calls
  cases begins with
  | draw id now same =>
    have kept : e.putsTotal = false :=
      ((Crediting.performs_draw_putsTotal id now).follows follows).2.1
    rw [puts] at kept
    cases kept
  | refresh now same =>
    obtain ⟨total, rfl⟩ : ∃ total, e = .cache (.setDayTotal total) := by
      cases e with
      | cache op =>
        cases op with
        | setDayTotal total => exact ⟨total, rfl⟩
        | _ => cases puts
      | _ => cases puts
    obtain ⟨before, task, found, own, early, replied⟩ := RateCache.follows_refresh_put follows
    obtain ⟨after, split⟩ := seen_of_put (h := ⟨⟨t.left, h.pool.tasks.set n _⟩, h.turns ++ [t]⟩)
      rfl puts own rfl early
    have paid := (reach.step (.act calls)).totals.2 _ _ _ split
    rw [← paid]
    cases off : found.store.disabled with
    | true =>
      have refused : (found.store.answer (.dayTotal now.day)).1 = .refuse Memory.disabledError :=
        Memory.read_of_disabled off fun t => (⟨now.day, t.totalOf now.day⟩ : DayTotal)
      rw [refused] at replied
      cases replied
    | false =>
      rw [Memory.answer_dayTotal off] at replied
      cases replied
      show (h.pool.service.cache.setDayTotal ⟨now.day, _⟩).poolAt today = _
      rw [← same, ← RateCache.poolAt_congr same]
      exact if_pos (show DayTotal.Covers ⟨now.day, _⟩ now from rfl)

/-- **The pool is what the last refresh to put had seen paid, and what was added
since.** -/
theorem Reachable.pooled : h.pool.service.cache.poolAt today
    = Turn.paidIn today h.seen + Turn.addedIn today h.since := by
  induction reach with
  | new initial => exact initial.2.2
  | @step h _ reach step ih =>
    cases step with
    | start => exact ih
    | @act n α began e next calls =>
      let t : Turn := ⟨n, h.pool.service, e⟩
      let h' : History := ⟨⟨t.left, h.pool.tasks.set n ⟨α, began, next t.reply⟩⟩, h.turns ++ [t]⟩
      show t.left.cache.poolAt today = Turn.paidIn today h'.seen + Turn.addedIn today h'.since
      by_cases puts : e.putsTotal = true
      · have none : h'.since = [] := List.rtakeWhile_concat_neg _ _ _ (by simp [t, puts])
        rw [none, reach.poolAt_put calls puts]
        exact (Int.add_zero _).symm
      · rw [Bool.not_eq_true] at puts
        have more : h'.since = h.since ++ [t] :=
          List.rtakeWhile_concat_pos _ _ _ (by simp [t, puts])
        have same : h'.untilPut = h.untilPut :=
          List.rdropWhile_concat_pos _ _ _ (by simp [t, puts])
        have seen : h'.seen = h.seen := by
          rw [History.seen, same]
          rfl
        have before : t.found.cache.poolAt today = _ := ih
        rw [t.poolAt_left puts, more, seen, Turn.addedIn, List.map_append, List.sum_append,
          List.map_singleton, List.sum_singleton, ← Turn.addedIn]
        omega
    | @around s aside =>
      show s.cache.poolAt today = _
      rw [RateCache.poolAt, aside.1]
      exact ih

/-- Every task pays at most once, and adds what it paid. -/
theorem Reachable.payOnce (n : Nat) : Turn.PayOnce today (h.turnsOf n) := by
  cases hn : h.pool.tasks[n]? with
  | none =>
    rw [reach.turnsOf_of_length_le (List.getElem?_eq_none_iff.1 hn)]
    exact .nil
  | some task =>
    have found : ∀ t ∈ h.turnsOf n, t.found.store.Reachable :=
      fun t ht => reach.found (List.mem_filter.1 ht).1
    obtain ⟨begins, follows⟩ := reach.follows hn
    obtain ⟨Value, began, rest⟩ := task
    cases begins with
    | draw id now same => exact Crediting.paysOnce_draw id same _ _ found follows
    | refresh now same =>
      exact .of_idle (ServiceStep.idle_of_follows (RateCache.performs_refresh now) found follows)

/-- **A sum over turns, task by task.** -/
theorem Reachable.sum_by_task {turns : List Turn} (sub : turns.Sublist h.turns)
    (f : Turn → Int) :
    (turns.map f).sum = ((List.range h.pool.tasks.length).map fun n =>
      ((turns.filter fun t => t.task = n).map f).sum).sum := by
  have split := perm_flatMap_turns turns h.pool.tasks.length fun t ht =>
    reach.task_lt (sub.mem ht)
  rw [(split.map f).sum_eq, List.map_flatMap, List.flatMap_def, List.sum_flatten, List.map_map]
  rfl

/-- The same, if each turn that is marked stands for what its task paid. -/
theorem Reachable.sum_marked {turns : List Turn} (sub : turns.Sublist h.turns) {f : Turn → Int}
    {p : Turn → Bool} (marked : ∀ n, ∀ t ∈ h.turnsOf n,
      f t = if p t then h.paidBy today n else 0) :
    (turns.map f).sum = ((List.range h.pool.tasks.length).map fun n =>
      ((turns.filter fun t => t.task = n).countP p : Int) * h.paidBy today n).sum := by
  rw [reach.sum_by_task sub]
  refine congrArg List.sum (List.map_congr_left fun n _ => Turn.sum_of_marked fun t ht => ?_)
  obtain ⟨taken, named⟩ := List.mem_filter.1 ht
  exact marked n t (List.mem_filter.2 ⟨sub.mem taken, named⟩)

/-- **What the two counts are made of**, in every history of draws and refreshes on one
day, whatever their order: the store has what each draw paid, and the pool has it
never, once or twice. So the pool lags behind the store if no draw is in it twice. -/
theorem pool_counts_draws : h.CountsDraws today := by
  have paid (n : Nat) := (reach.payOnce n).paid
  have added (n : Nat) := (reach.payOnce n).added
  have total : h.pool.service.store.tables.totalOf today.day
      = ((List.range h.pool.tasks.length).map fun n => h.paidBy today n).sum := by
    rw [reach.totals.1]
    exact reach.sum_by_task (List.Sublist.refl _) _
  have pool : h.pool.service.cache.poolAt today
      = ((List.range h.pool.tasks.length).map fun n =>
        (h.timesPooled n : Int) * h.paidBy today n).sum := by
    have seen : Turn.paidIn today h.seen = _ := reach.sum_marked h.sublist_seen paid
    have since : Turn.addedIn today h.since = _ := reach.sum_marked h.sublist_since added
    rw [reach.pooled, seen, since, ← List.sum_map_add]
    refine congrArg List.sum (List.map_congr_left fun n _ => ?_)
    rw [← Int.add_mul, ← Int.natCast_add]
    rfl
  refine ⟨total, pool, fun n => ?_, fun nonneg once => ?_⟩
  · have pays := (h.sublist_seen.filter fun t => t.task = n).countP_le (p := (·.pays))
    have adds := (h.sublist_since.filter fun t => t.task = n).countP_le (p := (·.adds))
    exact Nat.add_le_add (pays.trans (reach.payOnce n).pays) (adds.trans (reach.payOnce n).adds)
  · have lags : h.pool.service.cache.poolAt today
        ≤ h.pool.service.store.tables.totalOf today.day := by
      rw [total, pool]
      refine List.sum_le_sum fun n _ => ?_
      calc (h.timesPooled n : Int) * h.paidBy today n
          ≤ 1 * h.paidBy today n :=
            Int.mul_le_mul_of_nonneg_right (Int.ofNat_le.2 (once n)) (nonneg n)
        _ = h.paidBy today n := Int.one_mul _
    exact ⟨lags, fun threshold high => (PoolLevel.ofPool_eq_high.1 high).trans_le lags⟩

end Reachable

/-- The first draw commits before the refresh reads and has not added yet. The second
commits after the refresh has put. The pool has one of the two. -/
theorem pool_counts_draws_of_lagging_snapshot :
    ∃ h : History, h.Reachable (.pooling ⟨0, 0⟩)
      ∧ h.pool.service.store.tables.totalOf ⟨0⟩ = 10
      ∧ h.pool.service.cache.poolAt ⟨0, 0⟩ = 5
      ∧ h.timesPooled 0 = 1 ∧ h.timesPooled 1 = 0 ∧ h.CountsDraws ⟨0, 0⟩ := by
  have store := Memory.Reachable.after .empty
    [.request (.createUser ⟨"a@x", "addr", none, 300⟩ ⟨0, 0⟩),
      .request (.createUser ⟨"b@x", "addr", none, 300⟩ ⟨0, 0⟩)]
  have started := Reachable.new (S := .pooling ⟨0, 0⟩)
    (s := ⟨_, ⟨.initial, fun level => [⟨level, 5, 6, 1⟩], .empty ⟨0⟩, [], 1⟩, .empty, [], [], [],
      .ofList [], ⟨0, 0⟩, 0⟩) ⟨store, rfl, rfl⟩
  have begun := ((started.step (.start (.draw 1 ⟨0, 0⟩ rfl))).step
    (.start (.draw 2 ⟨0, 0⟩ rfl))).step (.start (.refresh ⟨0, 0⟩ rfl))
  -- both draws take the amount, and the first commits
  have looked := ((begun.step (.act (n := 0) rfl)).step (.act (n := 0) rfl)).step
    (.act (n := 0) rfl)
  have drawn := (looked.step (.act (n := 0) rfl)).step (.act (n := 0) rfl)
  have looked' := ((drawn.step (.act (n := 1) rfl)).step (.act (n := 1) rfl)).step
    (.act (n := 1) rfl)
  have drawn' := (looked'.step (.act (n := 1) rfl)).step (.act (n := 1) rfl)
  have refreshed := (drawn'.step (.act (n := 0) rfl)).run (n := 2) rfl
  have committed := refreshed.step (.act (n := 1) rfl)
  exact ⟨_, committed, rfl, rfl, rfl, rfl, pool_counts_draws committed⟩

/-- **The pool can run ahead of the store.** A draw commits, the refresh reads and puts
the total, and the draw adds what it paid to that. The store has five and the pool ten,
which is above a threshold that the store has not reached. -/
theorem pool_ahead_of_store :
    ∃ h : History, h.Reachable (.pooling ⟨0, 0⟩)
      ∧ h.pool.service.store.tables.totalOf ⟨0⟩ = 5
      ∧ h.pool.service.cache.poolAt ⟨0, 0⟩ = 10 ∧ h.timesPooled 0 = 2
      ∧ PoolLevel.ofPool (h.pool.service.cache.poolAt ⟨0, 0⟩) 7 = .high := by
  have store := Memory.Reachable.after .empty
    [.request (.createUser ⟨"a@x", "addr", none, 300⟩ ⟨0, 0⟩)]
  have started := Reachable.new (S := .pooling ⟨0, 0⟩)
    (s := ⟨_, ⟨.initial, fun level => [⟨level, 5, 6, 1⟩], .empty ⟨0⟩, [], 1⟩, .empty, [], [], [],
      .ofList [], ⟨0, 0⟩, 0⟩) ⟨store, rfl, rfl⟩
  have begun := (started.step (.start (.draw 1 ⟨0, 0⟩ rfl))).step (.start (.refresh ⟨0, 0⟩ rfl))
  have looked := ((begun.step (.act (n := 0) rfl)).step (.act (n := 0) rfl)).step
    (.act (n := 0) rfl)
  have drawn := (looked.step (.act (n := 0) rfl)).step (.act (n := 0) rfl)
  have committed := drawn.step (.act (n := 0) rfl)
  have added := (committed.run (n := 1) rfl).run (n := 0) rfl
  exact ⟨_, added, rfl, rfl, rfl, rfl⟩

end History

end RewardLedger
