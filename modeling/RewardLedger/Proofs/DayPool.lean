import RewardLedger.Proofs.Settling
import RewardLedger.Proofs.Sparing
import RewardLedger.RateCache.Refresh

/-!
# The pool of the day

What is paid in scheduled rewards on a day is counted twice. The store has a total
for each day; the snapshot has one, for one day, and begins anew when a draw is paid
on another. A draw asks the snapshot how much there is in the pool and takes the
list of bands by that, and only then goes to the store.

The two counts are the same as long as nobody else pays rewards. What keeps them
together is that the snapshot is never of a later day than the latest draw or
refresh, and that the store has nothing on any day after the snapshot's
(`Service.Tracks`): a pool that begins anew and a day without a total are both empty.
Draws and refreshes are the only calls that touch what is said here, and each is
looked at once.
-/

namespace RewardLedger

/-! ## What the store is asked for -/

namespace Memory

variable {m : Memory} (on : m.disabled = false)

include on

theorem answer_latestPolicy : m.answer .latestPolicy = (.ok m.tables.latestPolicy?, m) :=
  Prod.ext (read_of_usable on (·.latestPolicy?)) rfl

theorem answer_rewardBands (level : PoolLevel) :
    m.answer (.rewardBands level) = (.ok (m.tables.bandsOf level), m) :=
  Prod.ext (read_of_usable on (·.bandsOf level)) rfl

theorem answer_dayTotal (day : Day) :
    m.answer (.dayTotal day) = (.ok ⟨day, m.tables.totalOf day⟩, m) :=
  Prod.ext (read_of_usable on fun t => DayTotal.mk day (t.totalOf day)) rfl

end Memory

/-- There is a latest policy if there is any. -/
theorem Tables.latestPolicy?_isSome {t : Tables} (configured : t.policies ≠ []) :
    t.latestPolicy?.isSome := by
  obtain ⟨before, last, split⟩ := (List.eq_nil_or_concat t.policies).resolve_left configured
  rw [latestPolicy?, split, List.concat_eq_append, List.foldl_append]
  rfl

/-! ## Refreshing -/

namespace RateCache

open ServiceStep

/-- Put the policy that was read, if there is one. -/
def putPolicy : Option RewardPolicy → ServiceStep PUnit
  | some policy => perform (.cache (.setPolicy policy))
  | none => pure ⟨⟩

/-- **A refresh, part by part.** -/
theorem refresh_eq (now : Instant) : refresh now = (do
    putPolicy (← ask .latestPolicy)
    refreshBands .low
    refreshBands .high
    let total ← ask (.dayTotal now.day)
    perform (.cache (.setDayTotal total))) := by
  unfold refresh
  congr 1
  funext policy?
  cases policy? <;> rfl

variable {s : Service Memory} (on : s.store.disabled = false)

include on

/-- Reading one list of bands again puts it into the snapshot. -/
theorem serve_refreshBands (cache : RateCache) (level : PoolLevel) :
    (refreshBands level).serve { s with cache }
      = (.ok ⟨⟩, { s with cache := cache.setBands level (s.store.tables.bandsOf level) }) := by
  have read : (ask (.rewardBands level)).serve { s with cache }
      = (.ok (s.store.tables.bandsOf level), { s with cache }) :=
    serve_ask_of_answer (Memory.answer_rewardBands on level)
  rw [refreshBands, serve_bind_of_ok read]
  rfl

/-- **A refresh takes everything from the store.** -/
theorem serve_refresh {policy : RewardPolicy}
    (latest : s.store.tables.latestPolicy? = some policy) (now : Instant) :
    (refresh now).serve s
      = (.ok ⟨⟩, { s with cache := { s.cache with
          policy
          bands := s.store.tables.bandsOf
          dayTotal := ⟨now.day, s.store.tables.totalOf now.day⟩ } }) := by
  have read := serve_ask_of_answer (Memory.answer_latestPolicy on)
  have put : (perform (.cache (.setPolicy policy))).serve s
      = (.ok ⟨⟩, { s with cache := s.cache.setPolicy policy }) := rfl
  have total (cache : RateCache) : (ask (.dayTotal now.day)).serve { s with cache }
      = (.ok ⟨now.day, s.store.tables.totalOf now.day⟩, { s with cache }) :=
    serve_ask_of_answer (Memory.answer_dayTotal on now.day)
  rw [latest] at read
  rw [refresh, serve_bind_of_ok read]
  dsimp only
  rw [serve_bind_of_ok put, serve_bind_of_ok (serve_refreshBands on _ .low),
    serve_bind_of_ok (serve_refreshBands on _ .high), serve_bind_of_ok (total _)]
  -- what was read of both levels is what there is
  have both : (fun level => if level = PoolLevel.high then s.store.tables.bandsOf .high
      else if level = .low then s.store.tables.bandsOf .low else s.cache.bands level)
      = s.store.tables.bandsOf := by
    funext level
    cases level <;> rfl
  rw [← both]
  rfl

end RateCache

/-! ## Drawing -/

namespace Crediting

open ServiceStep

/-- What is drawn by what the snapshot says, on a service. -/
def drawnFor (s : Service Memory) (now : Instant) : Except Error Int :=
  (drawReward (s.cache.bands (.ofPool (s.cache.poolAt now) s.cache.policy.threshold)) s.words).1

/-- **What a draw comes to** when it is served: nothing is paid, or an amount is that
the snapshot gives, and it is counted in the store and in the snapshot. -/
inductive DrawEnds (s : Service Memory) (now : Instant) : Outcome Income × Service Memory → Prop
  | abandoned {s' : Service Memory} : DrawEnds s now (.error .outOfRange, s')
  | refused {cause : Error} {s' : Service Memory} (spared : s.Spared s')
    (incomes : s'.store.tables.incomes = s.store.tables.incomes) :
    DrawEnds s now (.error (.error cause), s')
  | paid {i : Income} {paid : Int} {s' : Service Memory} (store : s'.store.Reachable)
    (on : s'.store.disabled = false) (drawn : drawnFor s now = .ok i.amount)
    (incomes : s'.store.tables.incomes = s.store.tables.incomes ++ [i])
    (total : s'.store.tables.dayTotals
      = s.store.tables.dayTotals.insert now.day.number (s.store.tables.totalOf now.day + paid))
    (policies : s'.store.tables.policies = s.store.tables.policies)
    (bands : s'.store.tables.bands = s.store.tables.bands)
    (pool : s'.cache.dayTotal = ⟨now.day, s.cache.poolAt now + paid⟩)
    (policy : s'.cache.policy = s.cache.policy) (levels : s'.cache.bands = s.cache.bands) :
    DrawEnds s now (.ok i, s')

variable {s : Service Memory} {now : Instant}

/-- A draw that is not due is refused, or cannot be told to be. -/
theorem serve_requireDue (s : Service Memory) (id : Int) (user : User) (now : Instant) :
    (requireDue id user now).serve s = (.error .outOfRange, s)
      ∨ (requireDue id user now).serve s = (.error (.error (.rewardNotDue id)), s)
      ∨ (requireDue id user now).serve s = (.ok ⟨⟩, s) := by
  unfold requireDue
  obtain _ | _ | _ := user.rewardDue? now
  · exact .inl rfl
  · exact .inr (.inl rfl)
  · exact .inr (.inr rfl)

/-- Drawing an amount takes words and nothing else. -/
theorem serve_drawAmount (s : Service Memory) (now : Instant) :
    ∃ words, (drawAmount s.cache.policy now).serve s
      = ((drawnFor s now).mapError .error, { s with words }) := by
  let drawn := drawReward
    (s.cache.bands (.ofPool (s.cache.poolAt now) s.cache.policy.threshold)) s.words
  refine ⟨drawn.2, ?_⟩
  unfold drawAmount
  rw [serve_perform_bind, serve_perform_bind, serve_perform_bind]
  split
  · next amount drew =>
    rw [show drawnFor s now = .ok amount from drew]
    rfl
  · next cause drew =>
    rw [show drawnFor s now = .error cause from drew]
    rfl

/-- **A reward that is credited** is counted in the store, and then in the snapshot,
unless a number is out of range. -/
theorem drawEnds_of_credited (reach : s.store.Reachable) {words : Words} {c : RewardCredit}
    {receipt : Receipt} (drawn : drawnFor s c.now = .ok c.amount)
    (credited : (s.store.answer (.creditReward c)).1 = .ok receipt) :
    DrawEnds s c.now ((do
      let disbursed ← ofOutcome (.ofRange receipt.disbursed?)
      ofOutcome (← perform (.cache (.addToPool c.now disbursed)))
      publish receipt
      return receipt.income : ServiceStep Income).serve
        { s with store := (s.store.answer (.creditReward c)).2, words }) := by
  obtain ⟨on, u, hu, due, rfl, booked⟩ := reach.commits
    (show (StoreOp.creditReward c).IsWrite from trivial) credited
  have store : (s.store.answer (.creditReward c)).2.Reachable := reach.perform (.request _)
  have on' : (s.store.answer (.creditReward c)).2.disabled = false :=
    reach.usable_answer on (by rw [credited]; exact nofun)
  let i := s.store.tables.incomeOf .reward u c.amount c.referrerAmount c.now
  generalize (s.store.answer (.creditReward c)).2 = m at booked store on' ⊢
  have sum : Receipt.disbursed? (s.store.tables.receiptOf .reward u c.amount c.referrerAmount c.now)
      = Amount.add? i.amount i.referrerAmount := rfl
  rw [sum]
  cases hpaid : Amount.add? i.amount i.referrerAmount with
  | none => exact .abandoned
  | some paid =>
    obtain ⟨-, rfl⟩ := Amount.add?_eq_some_iff.1 hpaid
    show DrawEnds s c.now ((ofOutcome (s.cache.addToPool c.now (i.amount + i.referrerAmount)).1
      >>= fun _ => publish _ >>= fun _ => pure i).serve { s with
        store := m
        cache := (s.cache.addToPool c.now (i.amount + i.referrerAmount)).2
        words })
    rw [RateCache.addToPool_eq]
    cases hsum : Amount.add? (s.cache.poolAt c.now) (i.amount + i.referrerAmount) with
    | none => exact .abandoned
    | some total =>
      obtain ⟨-, rfl⟩ := Amount.add?_eq_some_iff.1 hsum
      refine .paid store on' drawn ?_ ?_ ?_ ?_ rfl rfl rfl
      all_goals
        show _ = _
        rw [booked]
        rfl

/-- A draw that the store refuses leaves everything as it was. -/
theorem drawEnds_of_refused (reach : s.store.Reachable) (on : s.store.disabled = false)
    {words : Words} {c : RewardCredit} {cause : Error}
    (refused : (s.store.answer (.creditReward c)).1 = .error (.error cause)) :
    DrawEnds s now
      (.error (.error cause), { s with store := (s.store.answer (.creditReward c)).2, words }) := by
  have same := reach.tables_of_refused (show (StoreOp.creditReward c).IsWrite from trivial) refused
  have on' : (s.store.answer (.creditReward c)).2.disabled = false :=
    reach.usable_answer on (by rw [refused]; exact nofun)
  refine .refused ⟨reach.perform (.request _), on', ?_, ?_, ?_, rfl, rfl, rfl⟩ ?_
  all_goals
    show _ = _
    rw [same]

/-- **A draw comes to one of these ends.** -/
theorem drawEnds (reach : s.store.Reachable) (on : s.store.disabled = false) (id : Int)
    (now : Instant) : DrawEnds s now ((draw id now).serve s) := by
  have spared := Service.Spared.refl reach on
  cases found : (s.store.answer (.user id)).1 with
  | error fault =>
    rw [draw, serve_bind_of_error (serve_ask_of_answer (Prod.ext found rfl))]
    cases fault with
    | error cause => exact .refused spared rfl
    | outOfRange => exact .abandoned
  | ok user =>
    rw [draw, serve_bind_of_ok (serve_ask_of_answer (Prod.ext found rfl))]
    obtain late | early | due := serve_requireDue s id user now
    · rw [serve_bind_of_error late]
      exact .abandoned
    · rw [serve_bind_of_error early]
      exact .refused spared rfl
    · have looked : (perform (.cache .policy)).serve s = (.ok s.cache.policy, s) := rfl
      rw [serve_bind_of_ok due, serve_bind_of_ok looked]
      obtain ⟨words, drew⟩ := serve_drawAmount s now
      cases drawn : drawnFor s now with
      | error cause =>
        rw [drawn] at drew
        rw [serve_bind_of_error drew]
        exact .refused ⟨reach, on, rfl, rfl, rfl, rfl, rfl, rfl⟩ rfl
      | ok amount =>
        rw [drawn] at drew
        rw [serve_bind_of_ok drew]
        let share := if user.referrer.isSome
          then referrerShare amount s.cache.policy.referrerRate else 0
        let c : RewardCredit := ⟨id, amount, share, now⟩
        have asked : (ask (.creditReward c)).serve { s with words }
            = ((s.store.answer (.creditReward c)).1,
              { s with store := (s.store.answer (.creditReward c)).2, words }) := serve_ask _
        show DrawEnds s now ((ask (.creditReward c) >>= _).serve { s with words })
        cases replied : (s.store.answer (.creditReward c)).1 with
        | error fault =>
          rw [replied] at asked
          rw [serve_bind_of_error asked]
          cases fault with
          | error cause => exact drawEnds_of_refused reach on replied
          | outOfRange => exact .abandoned
        | ok receipt =>
          rw [replied] at asked
          rw [serve_bind_of_ok asked]
          exact drawEnds_of_credited (c := c) reach drawn replied

end Crediting

/-! ## Calls that come one at a time -/

/-- The command adds a policy or a band. -/
def Memory.Command.configures : Memory.Command → Bool
  | addPolicy _ => true
  | addBand _ => true
  | _ => false

namespace Service

/-- **Calls came one at a time**, and nobody else paid rewards, since the snapshot was
refreshed from a store that has a policy and nothing paid on any later day. The day is
that of the latest draw or refresh, and the snapshot is `current` if neither a policy
nor a band was added since the latest refresh. -/
inductive Serial : Service Memory → Day → Bool → Prop
  | refreshed {s : Service Memory} (now : Instant) (reach : s.store.Reachable)
    (on : s.store.disabled = false) (configured : s.store.tables.policies ≠ [])
    (ahead : ∀ day : Day, now.day.number < day.number →
      s.store.tables.dayTotals.get? day.number = none) :
    Serial ((RateCache.refresh now).serve s).2 now.day true
  | draw {s : Service Memory} {day : Day} {current : Bool} (serial : Serial s day current)
    (id : Int) (now : Instant) (later : day.number ≤ now.day.number)
    (calm : ((Crediting.draw id now).serve s).1 ≠ .error .outOfRange) :
    Serial ((Crediting.draw id now).serve s).2 now.day current
  | refresh {s : Service Memory} {day : Day} {current : Bool} (serial : Serial s day current)
    (now : Instant) (later : day.number ≤ now.day.number) :
    Serial ((RateCache.refresh now).serve s).2 now.day true
  | call {s : Service Memory} {day : Day} {current : Bool} (serial : Serial s day current)
    {α : Type} {x : ServiceStep α} (other : x.Unrewarding)
    (calm : (x.serve s).1 ≠ .error .outOfRange) : Serial (x.serve s).2 day current
  | command {s : Service Memory} {day : Day} {current : Bool} (serial : Serial s day current)
    (c : Memory.Command) (unpaid : c.AsksOnly fun op => ¬ op.PaysReward)
    (calm : ¬ c.Abandoned (s.store.perform c).1) :
    Serial { s with store := (s.store.perform c).2 } day (current && !c.configures)
  | around {s s' : Service Memory} {day : Day} {current : Bool} (serial : Serial s day current)
    (store : s'.store = s.store) (cache : s'.cache = s.cache) : Serial s' day current

/-- **The snapshot tracks the store**: its pool is the store's total for its day, which
is not after the given one, and the store has nothing on any day after it. If it is
current, its policy and its bands are the store's. -/
structure Tracks (s : Service Memory) (day : Day) (current : Bool) : Prop where
  store : s.store.Reachable
  on : s.store.disabled = false
  configured : s.store.tables.policies ≠ []
  past : s.cache.dayTotal.day.number ≤ day.number
  total : s.cache.dayTotal.total = s.store.tables.totalOf s.cache.dayTotal.day
  ahead : ∀ d : Day, s.cache.dayTotal.day.number < d.number → s.store.tables.totalOf d = 0
  policy : current = true → s.store.tables.latestPolicy? = some s.cache.policy
  levels : current = true → s.cache.bands = s.store.tables.bandsOf

namespace Tracks

variable {s s' : Service Memory} {day : Day} {current : Bool}

/-- **The pool is the store's total** for every day that is not before the given
one. -/
theorem poolAt (tracks : s.Tracks day current) {now : Instant}
    (later : day.number ≤ now.day.number) :
    s.cache.poolAt now = s.store.tables.totalOf now.day := by
  unfold RateCache.poolAt
  by_cases same : s.cache.dayTotal.Covers now
  · rw [if_pos same, tracks.total, show s.cache.dayTotal.day = now.day from same]
  · rw [if_neg same, tracks.ahead]
    have other : s.cache.dayTotal.day.number ≠ now.day.number := mt Day.number_inj.1 same
    have past := tracks.past
    omega

theorem mono (tracks : s.Tracks day current) {day' : Day} (later : day.number ≤ day'.number) :
    s.Tracks day' current :=
  { tracks with past := Int.le_trans tracks.past later }

/-- What spares a draw's reading leaves the snapshot on the track. -/
theorem spared (tracks : s.Tracks day current) (h : s.Spared s') : s'.Tracks day current := by
  have total (d : Day) : s'.store.tables.totalOf d = s.store.tables.totalOf d := by
    rw [Tables.totalOf, h.dayTotals]
    rfl
  refine ⟨h.store, h.on, ?_, ?_, ?_, fun d => ?_, fun fresh => ?_, fun fresh => ?_⟩
  · rw [h.policies]
    exact tracks.configured
  · rw [h.pool]
    exact tracks.past
  · rw [h.pool, total]
    exact tracks.total
  · rw [h.pool, total]
    exact tracks.ahead d
  · rw [Tables.latestPolicy?, h.policies, h.policy]
    exact tracks.policy fresh
  · rw [h.levels, tracks.levels fresh]
    funext level
    rw [Tables.bandsOf, Tables.bandsOf, h.bands]

/-- **A refresh puts the snapshot on the track**, whatever was in it. -/
theorem refresh (reach : s.store.Reachable) (on : s.store.disabled = false)
    (configured : s.store.tables.policies ≠ []) {now : Instant}
    (ahead : ∀ d : Day, now.day.number < d.number → s.store.tables.totalOf d = 0) :
    Tracks ((RateCache.refresh now).serve s).2 now.day true := by
  obtain ⟨policy, latest⟩ := Option.isSome_iff_exists.1 (Tables.latestPolicy?_isSome configured)
  rw [RateCache.serve_refresh on latest now]
  exact ⟨reach, on, configured, Int.le_refl _, rfl, ahead, fun _ => latest, fun _ => rfl⟩

/-- **A draw leaves the snapshot on the track**: what it pays it adds to both
counts. -/
theorem draw (tracks : s.Tracks day current) {now : Instant}
    (later : day.number ≤ now.day.number) {r : Outcome Income × Service Memory}
    (ends : Crediting.DrawEnds s now r) (calm : r.1 ≠ .error .outOfRange) :
    r.2.Tracks now.day current := by
  cases ends with
  | abandoned => exact absurd rfl calm
  | refused spared => exact (tracks.spared spared).mono later
  | @paid i paid s' store on _ _ total policies bands pool policy levels =>
    have totals (d : Day) : s'.store.tables.totalOf d
        = if d = now.day then s.store.tables.totalOf now.day + paid
          else s.store.tables.totalOf d := by
      rw [Tables.totalOf, total, Table.get?_insert]
      by_cases same : d = now.day
      · rw [if_pos same, if_pos (Day.number_inj.2 same)]
        rfl
      · rw [if_neg same, if_neg (mt Day.number_inj.1 same)]
        rfl
    refine ⟨store, on, ?_, ?_, ?_, fun d after => ?_, fun fresh => ?_, fun fresh => ?_⟩
    · rw [policies]
      exact tracks.configured
    · exact Int.le_of_eq (congrArg (·.day.number) pool)
    · rw [pool, totals, if_pos rfl, tracks.poolAt later]
    · have after' : now.day.number < d.number := by rwa [pool] at after
      have past := tracks.past
      rw [totals, if_neg fun h => Int.ne_of_gt after' (Day.number_inj.2 h),
        tracks.ahead d (by omega)]
    · rw [Tables.latestPolicy?, policies, policy]
      exact tracks.policy fresh
    · rw [levels, tracks.levels fresh]
      funext level
      rw [Tables.bandsOf, Tables.bandsOf, bands]

/-- A command that pays no reward leaves the snapshot on the track, but not current
if it adds to what governs rewards. -/
theorem command (tracks : s.Tracks day current) {c : Memory.Command}
    (unpaid : c.AsksOnly fun op => ¬ op.PaysReward)
    (calm : ¬ c.Abandoned (s.store.perform c).1) :
    Tracks { s with store := (s.store.perform c).2 } day (current && !c.configures) := by
  have store := tracks.store.perform c
  cases c with
  | request op =>
    rw [show (current && !Memory.Command.configures (.request op)) = current from
      Bool.and_true current]
    exact tracks.spared (.of_answer tracks.store tracks.on unpaid calm)
  | arm point =>
    rw [show (current && !Memory.Command.configures (.arm point)) = current from
      Bool.and_true current]
    exact tracks.spared ⟨store, tracks.on, rfl, rfl, rfl, rfl, rfl, rfl⟩
  | addPolicy p =>
    have same : (s.store.perform (.addPolicy p)).2 = { s.store with
        tables.policies := s.store.tables.policies ++ [p] } :=
      congrArg Prod.snd (Memory.transact_write tracks.on (·.addPolicy p))
    rw [same] at store ⊢
    rw [show (current && !Memory.Command.configures (.addPolicy p)) = false from
      Bool.and_false current]
    exact ⟨store, tracks.on, List.append_ne_nil_of_right_ne_nil _ (List.cons_ne_nil p []),
      tracks.past, tracks.total, tracks.ahead, nofun, nofun⟩
  | addBand b =>
    have same : (s.store.perform (.addBand b)).2 = { s.store with
        tables.bands := s.store.tables.bands ++ [b] } :=
      congrArg Prod.snd (Memory.transact_write tracks.on (·.addBand b))
    rw [same] at store ⊢
    rw [show (current && !Memory.Command.configures (.addBand b)) = false from
      Bool.and_false current]
    exact ⟨store, tracks.on, tracks.configured, tracks.past, tracks.total, tracks.ahead,
      nofun, nofun⟩

end Tracks

/-- **The snapshot tracks the store** as long as calls come one at a time. -/
theorem Serial.tracks {s : Service Memory} {day : Day} {current : Bool}
    (serial : s.Serial day current) : s.Tracks day current := by
  induction serial with
  | refreshed now reach on configured ahead =>
    refine .refresh reach on configured fun d after => ?_
    rw [Tables.totalOf, ahead d after]
    rfl
  | draw _ id now later calm ih =>
    exact ih.draw later (Crediting.drawEnds ih.store ih.on id now) calm
  | @refresh s day current _ now later ih =>
    have past := ih.past
    exact .refresh ih.store ih.on ih.configured fun d after => ih.ahead d (by omega)
  | call _ other calm ih => exact ih.spared (other.spares _ ih.store ih.on calm)
  | command _ c unpaid calm ih => exact ih.command unpaid calm
  | @around s s' day current _ store cache ih =>
    refine ih.spared ⟨?_, ?_, ?_, ?_, ?_, ?_, ?_, ?_⟩ <;> (first | rw [store] | rw [cache])
    exacts [ih.store, ih.on]

end Service

/-- **The store offers an amount** to a draw on a day: its total for the day and the
threshold of its latest policy tell which of its lists applies, and a band of positive
weight in that list gives the amount. -/
def Memory.Offers (m : Memory) (day : Day) (amount : Int) : Prop :=
  ∃ policy total bands, (m.answer .latestPolicy).1 = .ok (some policy)
    ∧ (m.answer (.dayTotal day)).1 = .ok total
    ∧ (m.answer (.rewardBands (.ofPool total.total policy.threshold))).1 = .ok bands
    ∧ ∃ b ∈ bands, 0 < b.weight ∧ b.Gives amount

namespace Service

/-- **What a draw adds is what the store offers**, if the snapshot is on the track and
current. -/
theorem Tracks.offers {s : Service Memory} {day : Day} (tracks : s.Tracks day true)
    {now : Instant} (later : day.number ≤ now.day.number) {r : Outcome Income × Service Memory}
    (ends : Crediting.DrawEnds s now r) (calm : r.1 ≠ .error .outOfRange) :
    ∀ i ∈ r.2.store.tables.incomes.drop s.store.tables.incomes.length,
      s.store.Offers now.day i.amount := by
  intro i hi
  cases ends with
  | abandoned => exact absurd rfl calm
  | refused _ incomes =>
    rw [incomes, List.drop_length] at hi
    cases hi
  | paid _ _ drawn incomes =>
    rw [incomes, List.drop_left, List.mem_singleton] at hi
    subst hi
    rw [Crediting.drawnFor, tracks.levels rfl, tracks.poolAt later] at drawn
    refine ⟨s.cache.policy, ⟨now.day, s.store.tables.totalOf now.day⟩, _, ?_, ?_, ?_,
      gives_of_drawReward drawn⟩
    · rw [Memory.answer_latestPolicy tracks.on, tracks.policy rfl]
    · rw [Memory.answer_dayTotal tracks.on]
    · rw [Memory.answer_rewardBands tracks.on]

end Service

end RewardLedger
