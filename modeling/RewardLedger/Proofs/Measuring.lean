import RewardLedger.Proofs.DayPool
import RewardLedger.Proofs.Referral

/-!
# Intervals that can be measured

A sign-up may ask for any interval between its rewards that is positive. Whether an
interval can be measured is another matter: an interval has a longest length, and it must
not end after the last admitted day. Nobody looks at that before the second claim, and
whoever does has no answer then (`User.rewardDue?`).

So the intervals of a service fall into two kinds. One is measurable (`User.Measurable`),
and then both looks at the clock have an answer, that of the claim and that of the store
inside the unit: nothing but a sum that does not fit is left to abandon the claim. The
other is not, and then the first look abandons the claim, and the second, which a claim
gets to if it was overtaken by another one, abandons the unit and disables the store.
-/

namespace RewardLedger

/-! ## Measuring -/

namespace Instant

/-- The last second of the last admitted day. -/
def lastSecond : Int := Day.last.number * 86400 + 86399

/-- The instant lies between the years 1970 and 9999. -/
def InCommonYears (t : Instant) : Prop :=
  (Date.toDay ⟨1970, 1, 1⟩).number ≤ t.day.number
    ∧ t.day.number ≤ (Date.toDay ⟨9999, 12, 31⟩).number

instance (t : Instant) : Decidable t.InCommonYears := inferInstanceAs (Decidable (_ ∧ _))

variable {t : Instant} {n : Int}

/-- **There are two limits to an interval**: its own length, and the day on which it ends.
The fraction of a second has no part in it, and neither has a leap second. -/
theorem isSome_plusSeconds?_iff (hn : 0 < n) : (t.plusSeconds? n).isSome
    ↔ n ≤ longestInterval ∧ (⟨t.seconds + n, 0⟩ : Instant).day.Admitted := by
  have same (nanos : Nat) : (⟨t.seconds + n, nanos⟩ : Instant).day
      = (⟨t.seconds + n, 0⟩ : Instant).day := rfl
  have least : -longestInterval ≤ n := Int.le_trans (by decide) (Int.le_of_lt hn)
  unfold plusSeconds?
  rw [if_pos hn]
  split <;> simp [same, least]

/-- From an admitted day on only the end matters. -/
theorem measured_iff_of_admitted (admitted : t.day.Admitted) (hn : 0 < n) :
    n ≤ longestInterval ∧ (⟨t.seconds + n, 0⟩ : Instant).day.Admitted
      ↔ t.seconds + n ≤ lastSecond := by
  have longest : longestInterval = 9223372036854775 := rfl
  simp only [Day.Admitted, day, Day.first_number, Day.last_number, lastSecond] at admitted ⊢
  omega

theorem InCommonYears.bounds (common : t.InCommonYears) :
    0 ≤ t.seconds ∧ t.seconds ≤ 253402300799 := by
  have first : (Date.toDay ⟨1970, 1, 1⟩).number = 0 := by decide
  have last : (Date.toDay ⟨9999, 12, 31⟩).number = 2932896 := by decide
  simp only [InCommonYears, day, first, last] at common
  omega

/-- All of those years are admitted. -/
theorem InCommonYears.admitted (common : t.InCommonYears) : t.day.Admitted := by
  have bounds := common.bounds
  simp only [Day.Admitted, day, Day.first_number, Day.last_number]
  omega

end Instant

namespace User

variable {u : User}

/-- **The interval of a user can be measured** from the last reward on: it is none of those
that are too long, and it ends on an admitted day. -/
def Measurable (u : User) : Prop :=
  ∀ last, u.rewardedAt = some last → u.rewardInterval ≤ Instant.longestInterval
    ∧ (⟨last.seconds + u.rewardInterval, 0⟩ : Instant).day.Admitted

/-- **Whether a reward is due has an answer exactly if the interval can be measured**, at any
time. -/
theorem isSome_rewardDue?_iff (positive : 0 < u.rewardInterval) (now : Instant) :
    (u.rewardDue? now).isSome ↔ u.Measurable := by
  unfold rewardDue? Measurable
  cases u.rewardedAt with
  | none => simp
  | some last =>
    rw [Option.isSome_map, Instant.isSome_plusSeconds?_iff positive]
    simp

/-- So it has none exactly if it cannot. -/
theorem rewardDue?_eq_none_iff (positive : 0 < u.rewardInterval) (now : Instant) :
    u.rewardDue? now = none ↔ ¬ u.Measurable := by
  rw [← u.isSome_rewardDue?_iff positive now, Bool.not_eq_true, Option.isSome_eq_false_iff,
    Option.isNone_iff_eq_none]

/-- For a reward that was paid on an admitted day, an interval can be measured exactly if it
ends by the last second of the last one. -/
theorem measurable_iff (positive : 0 < u.rewardInterval) {last : Instant}
    (paid : u.rewardedAt = some last) (admitted : last.day.Admitted) :
    u.Measurable ↔ last.seconds + u.rewardInterval ≤ Instant.lastSecond := by
  rw [← Instant.measured_iff_of_admitted admitted positive]
  constructor
  · exact fun measurable => measurable last paid
  · intro measured _ same
    cases paid.symm.trans same
    exact measured

/-- The longest interval that can be measured from any second between the years 1970 and
9999, which is more than 250 thousand years. -/
def longestCommonInterval : Int := Instant.lastSecond - 253402300799

/-- **No interval is too long that is not longer than that.** -/
theorem measurable_of_common (positive : 0 < u.rewardInterval)
    (short : u.rewardInterval ≤ longestCommonInterval)
    (common : ∀ last, u.rewardedAt = some last → last.InCommonYears) : u.Measurable := by
  cases paid : u.rewardedAt with
  | none =>
    intro last same
    cases paid.symm.trans same
  | some last =>
    have common := common last paid
    have bounds := common.bounds
    rw [measurable_iff positive paid common.admitted]
    unfold longestCommonInterval at short
    omega

end User

/-! ## Claims -/

/-- **The sums of a reward fit**: those of the user and of the referrer, that of the
income, and that of the day. -/
def Tables.RewardFits (t : Tables) (u : User) (c : RewardCredit) : Prop :=
  let i := t.incomeOf .reward u c.amount c.referrerAmount c.now
  t.CreditFits u i ∧ Amount.Fits (i.amount + i.referrerAmount)
    ∧ Amount.Fits (t.totalOf c.now.day + (i.amount + i.referrerAmount))

/-- **A turn of a claim says why the claim is abandoned.** -/
inductive Turn.Abandons (id : Int) (t : Turn) : Prop
  /-- The interval of the user cannot be measured. -/
  | unmeasurable {u : User} (row : t.found.store.tables.users.get? id = some u)
    (long : ¬ u.Measurable)
  /-- The reward is due, and a sum does not fit. -/
  | overflow {u : User} {c : RewardCredit} (row : t.found.store.tables.users.get? id = some u)
    (asks : t.effect = .store (.creditReward c)) (due : u.rewardDue? c.now = some true)
    (unfit : ¬ t.found.store.tables.RewardFits u c)
  /-- The reward was paid, and what is counted besides does not fit. -/
  | paid {c : RewardCredit} {receipt : Receipt} (user : c.user = id)
    (asks : t.effect = .store (.creditReward c))
    (committed : (t.found.store.answer (.creditReward c)).1 = .ok receipt)

namespace Memory

variable {m : Memory} {c : RewardCredit}

/-- Without an answer the unit of a reward is abandoned, before it comes to any fail
point. -/
theorem answer_creditReward_of_unmeasured (on : m.disabled = false) {u : User}
    (row : m.tables.users.get? c.user = some u) (none : u.rewardDue? c.now = none) :
    m.answer (.creditReward c) = (.error .outOfRange, ⟨m.tables, m.armed, true⟩) := by
  have stopped : (UnitStep.creditReward c).run ⟨.start m.tables, m.armed⟩
      = (.error .outOfRange, ⟨.start m.tables, m.armed⟩) := by
    simp only [UnitStep.creditReward, UnitStep.credit, UnitStep.run_bind, UnitStep.run_tables,
      show (WriteUnit.start m.tables).tables = m.tables from rfl, row, UnitStep.run_requireDue,
      none]
    rfl
  show m.transact (UnitStep.creditReward c) = _
  unfold transact
  rw [if_neg (ne_true_of_eq_false on), stopped]
  rfl

/-- **A reward is abandoned** only if there is no answer whether it is due, or if it is and a
sum does not fit. -/
theorem Reachable.unfit_of_creditReward (reach : m.Reachable)
    (abandoned : (m.answer (.creditReward c)).1 = .error .outOfRange) :
    ∃ u, m.tables.users.get? c.user = some u ∧ (u.rewardDue? c.now = none
      ∨ u.rewardDue? c.now = some true ∧ ¬ m.tables.RewardFits u c) := by
  have ends := reach.writes (show (StoreOp.creditReward c).IsWrite from trivial)
  rw [abandoned] at ends
  generalize (m.answer (.creditReward c)).2 = m' at ends
  cases ends with
  | outOfRange on why =>
    obtain ⟨u, h⟩ := Classical.not_forall.1 why
    obtain ⟨row, h⟩ := Classical.not_imp.1 h
    obtain ⟨late, unfit⟩ := Classical.not_imp.1 h
    refine ⟨u, row, ?_⟩
    cases due : u.rewardDue? c.now with
    | none => exact .inl rfl
    | some answer =>
      cases answer with
      | true => exact .inr ⟨rfl, fun fits => unfit ⟨due, fits⟩⟩
      | false => exact absurd due late

end Memory

namespace Crediting

open ServiceStep

variable {id : Int} {now : Instant} {turns : List Turn}

/-- Taking an amount may be refused, but it is not abandoned. -/
theorem not_abandoned_drawAmount {policy : RewardPolicy} :
    ¬ (drawAmount policy now).run.Follows turns (.done (.error .outOfRange)) := by
  intro h
  obtain ⟨_, _, _, rfl, looked⟩ := follows_perform_bind h
  obtain ⟨_, _, _, rfl, listed⟩ := follows_perform_bind looked
  obtain ⟨_, found, rest, rfl, drew⟩ := follows_perform_bind listed
  cases drawn : (found.handle Memory.answer (.draw _)).1 with
  | ok amount =>
    rw [drawn] at drew
    cases (Program.follows_done drew).2
  | error cause =>
    rw [drawn] at drew
    cases (Program.follows_done drew).2

/-- **A claim that was abandoned** had no answer whether a reward is due, or its credit was
abandoned or paid. -/
theorem abandoned_draw (h : (draw id now).run.Follows turns (.done (.error .outOfRange))) :
    (∃ t ∈ turns, ∃ u, t.found.store.tables.users.get? id = some u ∧ u.rewardDue? now = none)
      ∨ ∃ t ∈ turns, ∃ c : RewardCredit, c.user = id ∧ t.effect = .store (.creditReward c)
        ∧ ((t.found.store.answer (.creditReward c)).1 = .error .outOfRange
          ∨ ∃ receipt, (t.found.store.answer (.creditReward c)).1 = .ok receipt) := by
  obtain ⟨_, looked, same⟩ | ⟨user, first, rest, rfl, looked, checked⟩ := follows_bind h
  · cases same
    obtain ⟨task, found, -, replied⟩ := follows_ask looked
    have read : ¬ (StoreOp.user id).IsWrite := not_false
    exact absurd replied.symm (found.store.answer_ne_outOfRange read)
  obtain ⟨task, found, rfl, replied⟩ := follows_ask looked
  have row := (Memory.user_eq_ok_iff.1 replied.symm).2
  cases answer : user.rewardDue? now with
  | none => exact .inl ⟨_, List.mem_append_left _ List.mem_cons_self, user, row, answer⟩
  | some due =>
    obtain ⟨_, stopped, same⟩ | ⟨_, _, paying, rfl, -, goes⟩ := follows_bind checked
    · cases same
      rw [requireDue, answer] at stopped
      cases due <;> cases (Program.follows_done stopped).2
    obtain ⟨_, found', drawing, rfl, drawn⟩ := follows_perform_bind goes
    obtain ⟨_, stopped, same⟩ | ⟨amount, _, asking, rfl, -, asked⟩ := follows_bind drawn
    · cases same
      exact absurd stopped not_abandoned_drawAmount
    obtain ⟨_, stopped, same⟩ | ⟨receipt, _, _, rfl, credited, -⟩ := follows_bind asked
    · cases same
      obtain ⟨task', found'', rfl, replied⟩ := follows_ask stopped
      exact .inr ⟨⟨task', found'', _⟩, by simp, _, rfl, rfl, .inl replied.symm⟩
    · obtain ⟨task', found'', rfl, replied⟩ := follows_ask credited
      exact .inr ⟨⟨task', found'', _⟩, by simp, _, rfl, rfl, .inr ⟨receipt, replied.symm⟩⟩

end Crediting

/-! ## What is signed up for -/

/-- A sign-up is for a positive interval. -/
def StoreOp.Timed : StoreOp → Prop
  | createUser new _ => 0 < new.rewardInterval
  | _ => True

/-- Everybody's interval is positive. -/
def Tables.Timed (t : Tables) : Prop :=
  ∀ k u, t.users.get? k = some u → 0 < u.rewardInterval

/-- **A server lets nobody sign up** for an interval that is not positive. -/
theorem Api.performs_respond_timed (server : Server) (r : Request) :
    (server.respond r).run.Performs (Effect.WritesOnly StoreOp.Timed) := by
  refine performs_respond_of server fun found _ allowed => ?_
  have asks := Handler.performs_handle server allowed
  obtain ⟨route, captured⟩ := found
  by_cases signs : route = .users
  · subst signs
    exact .bind (Handler.performs_body _ r) fun form _ =>
      .bind (Handler.performs_signup form fun positive _ _ => positive)
        fun _ _ => Handler.performs_pure trivial
  · -- what the request orders is no sign-up
    refine asks.mono fun e writes => ?_
    cases e with
    | store op =>
      cases op with
      | createUser =>
        intro write
        cases writes write with
        | signup users => exact absurd users signs
      | _ => exact fun _ => trivial
    | _ => trivial

namespace Tables

/-- Intervals do not change while the same people are there. -/
theorem Timed.of_people {t t' : Tables} (timed : t.Timed) (same : t'.people = t.people) :
    t'.Timed := by
  intro k u' hu'
  obtain ⟨u, hu, profile⟩ := exists_of_people same hu'
  rw [← show u.rewardInterval = u'.rewardInterval from congrArg Profile.rewardInterval profile]
  exact timed k u hu

/-- One more sign-up is for a positive interval as well. -/
theorem Timed.register {t : Tables} (timed : t.Timed) {u : User}
    (positive : 0 < u.rewardInterval) : (t.register u).Timed := by
  intro k v hv
  obtain ⟨-, rfl⟩ | hv := new_or_old_of_register hv
  · exact positive
  · exact timed k v hv

end Tables

/-- **No request makes an interval that is not positive**, unless it signs up for one. -/
theorem Memory.Reachable.timed_answer {m : Memory} (reach : m.Reachable)
    (timed : m.tables.Timed) {op : StoreOp} (asked : op.IsWrite → op.Timed) :
    (m.answer op).2.tables.Timed := by
  cases op with
  | createUser user now =>
    obtain same | ⟨-, new⟩ := reach.tables_createUser user now
    · rwa [same]
    · rw [new]
      exact timed.register (asked trivial)
  | _ =>
    refine timed.of_people (reach.people_answer ?_)
    exact not_false

/-- So does no effect that signs up for none. -/
theorem Service.timed_handle {s : Service Memory} (reach : s.store.Reachable)
    (timed : s.store.tables.Timed) {e : Effect} (asked : e.WritesOnly StoreOp.Timed) :
    (s.handle Memory.answer e).2.store.tables.Timed := by
  rw [Effect.store_handle]
  cases e with
  | store op => exact reach.timed_answer timed asked
  | _ => exact timed

/-! ## Claims in histories of requests -/

/-- **What a row tells of the claims of its user**, on a service whose store is usable. -/
structure Service.Measures (s : Service Memory) (id : Int) (u : User) : Prop where
  positive : 0 < u.rewardInterval
  /-- There is an answer whether a reward is due, at any time. -/
  answers : u.Measurable → ∀ now, ∃ due, u.rewardDue? now = some due
  /-- The first look lets a claim go on, or refuses it. -/
  looks : u.Measurable → ∀ now, Crediting.requireDue id u now = pure ⟨⟩
    ∨ Crediting.requireDue id u now = ServiceStep.refuse (.rewardNotDue id)
  /-- Nothing but a sum disables the store. -/
  credits : u.Measurable → ∀ c : RewardCredit, c.user = id →
    (s.store.answer (.creditReward c)).1 = .error .outOfRange →
      u.rewardDue? c.now = some true ∧ ¬ s.store.tables.RewardFits u c
  /-- Otherwise every claim is abandoned at the first look. -/
  abandons : ¬ u.Measurable → ∀ now,
    (Crediting.draw id now).serve s = (.error .outOfRange, s)
  /-- One that had its first look before disables the store. -/
  disables : ¬ u.Measurable → ∀ c : RewardCredit, c.user = id →
    (s.store.answer (.creditReward c)).1 = .error .outOfRange
      ∧ (s.store.answer (.creditReward c)).2.disabled = true
  /-- A user who was never rewarded is measurable. -/
  never : u.rewardedAt = none → u.Measurable
  /-- What matters to all others is the end of the interval. -/
  ends : ∀ last, u.rewardedAt = some last → last.day.Admitted →
    (u.Measurable ↔ last.seconds + u.rewardInterval ≤ Instant.lastSecond)
  /-- In the years that people live in, no interval below the longest common one is too
  long. -/
  common : (∀ last, u.rewardedAt = some last → last.InCommonYears) →
    u.rewardInterval ≤ User.longestCommonInterval → u.Measurable

/-- **A row tells all of that** if its interval is positive. -/
theorem Service.measures {s : Service Memory} (reach : s.store.Reachable)
    (on : s.store.disabled = false) {id : Int} {u : User}
    (row : s.store.tables.users.get? id = some u) (positive : 0 < u.rewardInterval) :
    s.Measures id u where
  positive := positive
  answers measurable now :=
    Option.isSome_iff_exists.1 ((u.isSome_rewardDue?_iff positive now).2 measurable)
  looks measurable now := by
    obtain ⟨due, answer⟩ :=
      Option.isSome_iff_exists.1 ((u.isSome_rewardDue?_iff positive now).2 measurable)
    unfold Crediting.requireDue
    rw [answer]
    cases due with
    | true => exact .inl rfl
    | false => exact .inr rfl
  credits measurable c := by
    rintro rfl abandoned
    obtain ⟨v, row', cause⟩ := reach.unfit_of_creditReward abandoned
    cases row.symm.trans row'
    refine cause.resolve_left fun none => ?_
    exact (User.rewardDue?_eq_none_iff positive c.now).1 none measurable
  abandons long now := by
    have none := (User.rewardDue?_eq_none_iff positive now).2 long
    have looked : s.store.answer (.user id) = (.ok u, s.store) :=
      Prod.ext (Memory.user_eq_ok_iff.2 ⟨on, row⟩) rfl
    rw [Crediting.draw, ServiceStep.serve_bind_of_ok (ServiceStep.serve_ask_of_answer looked),
      Crediting.requireDue, none]
    rfl
  disables long c := by
    rintro rfl
    have none := (User.rewardDue?_eq_none_iff positive c.now).2 long
    rw [Memory.answer_creditReward_of_unmeasured on row none]
    exact ⟨rfl, rfl⟩
  never unpaid := by
    intro last paid
    cases unpaid.symm.trans paid
  ends last paid admitted := User.measurable_iff positive paid admitted
  common years short := User.measurable_of_common positive short years

namespace History

/-- **Intervals decide about claims** in a history of requests. -/
structure MeasuresClaims (h : History) : Prop where
  rows : ∀ s ∈ h.services, s.store.disabled = false → ∀ id u,
    s.store.tables.users.get? id = some u → s.Measures id u
  /-- A claim that was abandoned met with an interval that cannot be measured, with a sum that
  does not fit, or with one after it was paid. -/
  claims : ∀ id now turns, (∀ t ∈ turns, t ∈ h.turns) →
    (Crediting.draw id now).run.Follows turns (.done (.error .outOfRange)) →
      ∃ t ∈ turns, t.Abandons id

section Reachable

variable {h : History} (reach : h.Reachable .requests)

include reach

/-- Everybody's interval is positive all the time. -/
theorem Reachable.timed : ∀ s ∈ h.services, s.store.tables.Timed := by
  have both : h.pool.service.store.tables.Timed ∧ ∀ t ∈ h.turns, t.found.store.tables.Timed := by
    induction reach with
    | @new s new =>
      have empty : s.store = .empty := new
      refine ⟨?_, fun t ht => absurd ht List.not_mem_nil⟩
      show s.store.tables.Timed
      rw [empty]
      intro k u hu
      cases hu
    | @step h _ reach step ih =>
      cases step with
      | start => exact ih
      | @act n α began e next calls =>
        have asks : e.WritesOnly StoreOp.Timed := by
          refine (reach.step (.act calls)).performs
            (fun begins => ?_) (t := ⟨n, h.pool.service, e⟩) List.mem_concat_self
          cases begins with
          | respond server r => exact Api.performs_respond_timed server r
        refine ⟨Service.timed_handle reach.store ih.1 asks, fun t ht => ?_⟩
        rcases List.mem_append.1 ht with ht | ht
        · exact ih.2 t ht
        · cases List.mem_singleton.1 ht
          exact ih.1
      | @around s aside =>
        refine ⟨?_, ih.2⟩
        obtain same | ⟨c, never, commanded⟩ := aside
        · show s.store.tables.Timed
          rw [same]
          exact ih.1
        · show s.store.tables.Timed
          rw [commanded]
          exact ih.1.of_people (reach.store.people_perform never)
  intro s hs
  rcases List.mem_append.1 hs with hs | hs
  · obtain ⟨t, ht, rfl⟩ := List.mem_map.1 hs
    exact both.2 t ht
  · cases List.mem_singleton.1 hs
    exact both.1

/-- Whatever the service was, its store was only given commands. -/
theorem Reachable.store_of_mem {s : Service Memory} (hs : s ∈ h.services) :
    s.store.Reachable := by
  rcases List.mem_append.1 hs with hs | hs
  · obtain ⟨t, ht, rfl⟩ := List.mem_map.1 hs
    exact reach.found ht
  · cases List.mem_singleton.1 hs
    exact reach.store

/-- **Only an interval that can be measured is safe to claim on.** In every history of
requests everybody has an interval that is positive, and it is settled by the interval and
the time of the last reward what comes of further claims, whenever they look at the clock.
If the interval can be measured both looks have an answer: the claim goes on or is refused
as not due, and its unit is abandoned by nothing but a reward that is due and does not fit.
If it cannot, every claim is abandoned at its first look, and one that is already past it
disables the store. Nobody is safe by having signed up, but whoever has an interval of up
to 250 thousand years is, in the years that people live in. -/
theorem claims_measured : h.MeasuresClaims where
  rows s hs on id u row :=
    Service.measures (reach.store_of_mem hs) on row (reach.timed s hs id u row)
  claims id now turns taken follows := by
    have found (t : Turn) (ht : t ∈ turns) : t.found ∈ h.services :=
      List.mem_append_left _ (List.mem_map.2 ⟨t, taken t ht, rfl⟩)
    obtain ⟨t, ht, u, row, none⟩ | ⟨t, ht, c, rfl, asks, ended⟩ :=
      Crediting.abandoned_draw follows
    · have positive := reach.timed t.found (found t ht) id u row
      exact ⟨t, ht, .unmeasurable row ((User.rewardDue?_eq_none_iff positive now).1 none)⟩
    · obtain abandoned | ⟨receipt, committed⟩ := ended
      · obtain ⟨u, row, none | ⟨due, unfit⟩⟩ :=
          (reach.found (taken t ht)).unfit_of_creditReward abandoned
        · have positive := reach.timed t.found (found t ht) c.user u row
          exact ⟨t, ht, .unmeasurable row ((User.rewardDue?_eq_none_iff positive c.now).1 none)⟩
        · exact ⟨t, ht, .overflow row asks due unfit⟩
      · exact ⟨t, ht, .paid rfl asks committed⟩

end Reachable

/-- Two requests sign up, for five minutes and for the greatest number of seconds, and both
are paid their first rewards. -/
theorem exists_long_interval :
    ∃ h : History, h.Reachable .requests ∧ h.pool.service.store.disabled = false
      ∧ h.pool.service.store.tables.users.get? 1 = some
        ⟨1, "a@x", "addr", 5, 5, 0, 0, none, 300, some ⟨0, 0⟩, ⟨0, 0⟩⟩
      ∧ h.pool.service.store.tables.users.get? 2 = some
        ⟨2, "b@x", "addr", 5, 5, 0, 0, none, 9223372036854775807, some ⟨0, 0⟩, ⟨0, 0⟩⟩ := by
  let server : Api.Server := ⟨.root, false, none⟩
  let signup (body : String) : Api.Request :=
    ⟨"POST", "/users", [("Content-Type", "application/json")], body, false⟩
  let claim (target : String) : Api.Request := ⟨"POST", target, [], "", false⟩
  let s : Service Memory :=
    { Service.new .empty 10 ⟨0, 0⟩ with cache.bands := fun level => [⟨level, 5, 5, 1⟩] }
  have started : Reachable .requests ⟨⟨s, []⟩, []⟩ := .new rfl
  have first := (started.step (.start (.respond server (signup
    "\x7b\"email\": \"a@x\", \"address\": \"addr\"\x7d")))).run (n := 0) rfl
  have second := (first.step (.start (.respond server (signup
    "\x7b\"email\":\"b@x\",\"address\":\"addr\",\"reward_interval_secs\":9223372036854775807\x7d"
    )))).run (n := 1) rfl
  have rewarded := (second.step (.start (.respond server (claim "/users/1/rewards")))).run
    (n := 2) rfl
  have both := (rewarded.step (.start (.respond server (claim "/users/2/rewards")))).run
    (n := 3) rfl
  exact ⟨_, both, by decide +kernel, by decide +kernel, by decide +kernel⟩

/-- From then on there is an answer for the first, whatever the clock shows, and every claim
of the second is abandoned. -/
theorem claims_measured_of_long_interval :
    ∃ (h : History) (u : User), h.Reachable .requests ∧ h.MeasuresClaims
      ∧ h.pool.service.store.tables.users.get? 1 = some u
      ∧ (∀ now, ∃ due, u.rewardDue? now = some due)
      ∧ ∀ now, (Crediting.draw 2 now).serve h.pool.service
        = (.error .outOfRange, h.pool.service) := by
  obtain ⟨h, reach, on, first, second⟩ := exists_long_interval
  have measured := claims_measured reach
  have last : h.pool.service ∈ h.services :=
    List.mem_append_right _ (List.mem_singleton_self _)
  have tells := measured.rows _ last on
  refine ⟨h, _, reach, measured, first, ?_, ?_⟩
  · refine (tells 1 _ first).answers ((tells 1 _ first).common ?_ (by decide))
    rintro _ ⟨⟩
    decide
  · refine (tells 2 _ second).abandons fun measurable => ?_
    exact absurd (measurable ⟨0, 0⟩ rfl).1 (by decide)

/-- **An interval that was accepted may have no end.** Somebody signs up for it and is paid
the first reward, and a second later, in the same year, there is no answer whether the next
one is due, and whoever claims it is not answered. -/
theorem claims_not_measured :
    ¬ ∀ h : History, h.Reachable .requests → h.pool.service.store.disabled = false →
      ∀ id u last now, h.pool.service.store.tables.users.get? id = some u →
        u.rewardedAt = some last → last.InCommonYears → now.InCommonYears → last ≤ now →
          (u.rewardDue? now).isSome
            ∧ ((Crediting.draw id now).serve h.pool.service).1 ≠ .error .outOfRange := by
  intro measured
  obtain ⟨h, reach, on, -, second⟩ := exists_long_interval
  have answered := (measured h reach on 2 _ ⟨0, 0⟩ ⟨1, 0⟩ second rfl (by decide) (by decide)
    (by decide)).1
  exact absurd answered (by decide)

end History

end RewardLedger
