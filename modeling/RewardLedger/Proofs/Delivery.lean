import Mathlib.Data.List.Nodup
import RewardLedger.Proofs.Interleaving

/-!
# A partner's event is credited exactly once

Partners deliver an event again until they are told that it arrived, and
deliveries of one event may overtake each other. The store remembers the events
that it credited, in the same unit as the credit, so that a second delivery
finds the first. What has to be shown is that the two never come apart: an event
is remembered exactly when a delivery of it was answered with a receipt
(`Memory.mem_events_after`), and there are as many events of a partner for a
user as there are incomes (`Tables.OncePerEvent`).
-/

namespace RewardLedger

/-! ## Events and incomes -/

namespace Tables

/-- The keys of the events of a source that were credited to a user. -/
def keysOf (t : Tables) (source : IncomeSource) (user : Int) : List String :=
  (t.events.filter fun e => e.source = source ∧ e.user = user).map (·.key)

/-- A key stands for one event. -/
theorem mem_keysOf {t : Tables} {source : IncomeSource} {user : Int} {key : String} :
    key ∈ t.keysOf source user ↔ ⟨source, key, user⟩ ∈ t.events := by
  unfold keysOf
  rw [List.mem_map]
  constructor
  · rintro ⟨⟨_, _, _⟩, he, rfl⟩
    obtain ⟨hmem, hcond⟩ := List.mem_filter.1 he
    obtain ⟨rfl, rfl⟩ := of_decide_eq_true hcond
    exact hmem
  · intro hmem
    exact ⟨_, List.mem_filter.2 ⟨hmem, decide_eq_true ⟨rfl, rfl⟩⟩, rfl⟩

/-- **Events and incomes correspond**: no event is remembered twice, all of them
are of partners, and for each partner and user there are as many as there are
incomes. -/
structure OncePerEvent (t : Tables) : Prop where
  nodup : t.events.Nodup
  partner : ∀ e ∈ t.events, e.source.IsPartner
  counted : ∀ source user, source.IsPartner →
    (t.keysOf source user).length = (t.incomesOf user (some source)).length

theorem oncePerEvent_empty : OncePerEvent .empty where
  nodup := List.nodup_nil
  partner := by intro e he; cases he
  counted := by intro source user _; rfl

/-- The keys of one source and user are distinct. -/
theorem OncePerEvent.nodup_keysOf {t : Tables} (h : t.OncePerEvent) (source : IncomeSource)
    (user : Int) : (t.keysOf source user).Nodup := by
  refine List.Nodup.map_on (fun e he e' he' hkey => ?_) (h.nodup.filter _)
  obtain ⟨hs, hu⟩ := of_decide_eq_true (List.mem_filter.1 he).2
  obtain ⟨hs', hu'⟩ := of_decide_eq_true (List.mem_filter.1 he').2
  cases e
  cases e'
  exact congr (congr (congrArg PartnerEvent.mk (hs.trans hs'.symm)) hkey) (hu.trans hu'.symm)

/-- One more income is one of those of its user and source. -/
theorem length_incomesOf_book {t : Tables} (i : Income) (user : Int) (source : IncomeSource) :
    ((t.book i).incomesOf user (some source)).length
      = (t.incomesOf user (some source)).length
        + if i.user = user ∧ i.source = source then 1 else 0 := by
  rw [incomesOf_book]
  split
  · exact List.length_append
  · rfl

/-- One more event is one of those of its user and source. -/
theorem length_keysOf_remember {t : Tables} (e : PartnerEvent) (user : Int)
    (source : IncomeSource) :
    ((t.remember e).keysOf source user).length
      = (t.keysOf source user).length + if e.source = source ∧ e.user = user then 1 else 0 := by
  show (((e :: t.events).filter fun e => e.source = source ∧ e.user = user).map (·.key)).length
    = _
  unfold keysOf
  rw [List.length_map, List.length_map, List.filter_cons]
  by_cases h : e.source = source ∧ e.user = user
  · rw [if_pos h, if_pos (decide_eq_true h), List.length_cons]
  · rw [if_neg h, if_neg (mt of_decide_eq_true h)]
    rfl

/-- **Every step keeps events and incomes in correspondence.** -/
theorem OncePerEvent.step {t t' : Tables} (h : t.OncePerEvent) (step : t.Step t') :
    t'.OncePerEvent := by
  cases step with
  | @reward u i amount offered now hu due hi =>
    refine { h with counted := fun source user hsource => ?_ }
    -- a scheduled reward is no income of a partner
    have hnot : ¬ (i.user = user ∧ i.source = source) := by
      rintro ⟨-, rfl⟩
      have hreward : IncomeSource.IsPartner .reward := by
        rw [hi] at hsource
        exact hsource
      exact absurd hreward (by decide)
    have hlength := length_incomesOf_book (t := t) i user source
    rw [if_neg hnot, Nat.add_zero] at hlength
    exact (h.counted source user hsource).trans hlength.symm
  | @partner u i source key amount offered now hu hsource fresh hi =>
    let e : PartnerEvent := ⟨source, key, u.id⟩
    exact
      { nodup := List.nodup_cons.2 ⟨fresh, h.nodup⟩
        partner := by
          intro e' he'
          rcases List.mem_cons.1 he' with rfl | he'
          · exact hsource
          · exact h.partner e' he'
        counted := by
          intro source' user hsource'
          -- event and income are of one user and source, so both counts go up or neither
          have hsame : (e.source = source' ∧ e.user = user)
              ↔ (i.user = user ∧ i.source = source') := by
            rw [hi]
            exact and_comm
          have hincomes : (((t.remember e).book i).incomesOf user (some source')).length = _ :=
            length_incomesOf_book (t := t) i user source'
          refine (length_keysOf_remember e user source').trans ?_
          rw [hincomes, h.counted source' user hsource', if_congr hsame rfl rfl] }
  | register => exact { h with }
  | payOut => exact { h with }
  | advance => exact { h with }
  | policy => exact { h with }
  | band => exact { h with }

/-- No step forgets an event. -/
theorem Step.mem_events {t t' : Tables} (step : t.Step t') {e : PartnerEvent}
    (he : e ∈ t.events) : e ∈ t'.events := by
  cases step with
  | partner => exact List.mem_cons_of_mem _ he
  | _ => exact he

/-- Only a delivery that is kept adds an event. -/
theorem Commits.events {t t' : Tables} {op : StoreOp} {a : op.Answer}
    (did : t.Commits op a t') :
    t'.events = t.events ∨ ∃ c, op = .creditPartner c ∧ t'.events = c.event :: t.events := by
  cases op with
  | createUser => obtain ⟨-, -, rfl⟩ := did; exact .inl rfl
  | creditReward => obtain ⟨u, -, -, -, rfl⟩ := did; exact .inl rfl
  | creditPartner c => obtain ⟨-, -, u, -, -, rfl⟩ := did; exact .inr ⟨c, rfl, rfl⟩
  | createWithdrawal => obtain ⟨u, -, -, -, rfl⟩ := did; exact .inl rfl
  | advanceWithdrawals => obtain ⟨-, -, rfl⟩ := did; exact .inl rfl
  | _ => exact did.elim

end Tables

/-! ## One call -/

namespace Memory

/-- Events and incomes correspond in every usable store that can be reached. -/
theorem Reachable.oncePerEvent {m : Memory} (reach : m.Reachable) (on : m.disabled = false) :
    m.tables.OncePerEvent :=
  reach.tables Tables.oncePerEvent_empty (fun _ _ _ h step => h.step step) on

/-- No failure of a fail point is taken for a duplicate. -/
theorem not_isDuplicate_failure (p : FailPoint) : ¬ p.failure.IsDuplicate := id

section Call

variable {m m' : Memory} {c : PartnerCredit} {r : StoreOp.Reply (.creditPartner c)}

/-- A delivery is refused as a duplicate only if its event was credited
before. -/
theorem Writes.known_of_duplicate (ends : m.Writes (.creditPartner c) r m') {cause : Error}
    (refused : r = .error (.error cause)) (duplicate : cause.IsDuplicate) :
    c.event ∈ m.tables.events := by
  cases ends with
  | invalid why =>
    cases refused
    obtain ⟨_, _, _, rfl⟩ := StoreOp.invalid?_eq_some why
    exact duplicate.elim
  | disabled =>
    cases refused
    exact duplicate.elim
  | refused _ why =>
    cases refused
    obtain ⟨known, -⟩ | ⟨-, -, rfl⟩ := why
    · exact known
    · exact duplicate.elim
  | @stopped p =>
    cases refused
    exact absurd duplicate (not_isDuplicate_failure p)
  | kept => cases refused
  | outOfRange => cases refused

/-- **A delivery is refused as a duplicate** exactly when its event was credited
before, whatever amount it carries. -/
theorem Writes.duplicate_iff (ends : m.Writes (.creditPartner c) r m')
    (on : m.disabled = false) (hpartner : c.source.IsPartner) :
    r = .refuse (.duplicate c.source c.key c.user) ↔ c.event ∈ m.tables.events := by
  refine ⟨fun h => ends.known_of_duplicate h trivial, fun known => ?_⟩
  cases ends with
  | invalid why => exact absurd why (by rw [StoreOp.invalid?, if_pos hpartner]; exact nofun)
  | disabled off => exact absurd off (ne_true_of_eq_false on)
  | refused _ why =>
    obtain ⟨-, rfl⟩ | ⟨fresh, -⟩ := why
    · rfl
    · exact absurd known fresh
  | @stopped p _ _ reached =>
    cases p with
    | afterIncome => exact absurd known reached.1
    | afterEvent => exact absurd known reached
    | afterDebit => exact reached.elim
  | kept _ _ _ did => exact absurd known did.2.1
  | outOfRange _ why => exact absurd (fun fresh => absurd known fresh) why

/-- A refused delivery remembers nothing. -/
theorem Writes.events_of_refused (ends : m.Writes (.creditPartner c) r m') {cause : Error}
    (refused : r = .error (.error cause)) :
    m'.tables.events = m.tables.events ∧ m'.disabled = m.disabled := by
  cases ends with
  | kept => cases refused
  | outOfRange => cases refused
  | _ => exact ⟨rfl, rfl⟩

/-- **A delivery is credited** if its event is new, there is a row of the user,
no fail point is in the way and the sums fit. -/
theorem Writes.credited (ends : m.Writes (.creditPartner c) r m') (on : m.disabled = false)
    (hpartner : c.source.IsPartner) (fresh : c.event ∉ m.tables.events) {u : User}
    (hu : m.tables.users.get? c.user = some u)
    (clear : m.armed ≠ some .afterEvent ∧ m.armed ≠ some .afterIncome)
    (room : m.tables.CreditFits u
      (m.tables.incomeOf c.source u c.amount c.referrerAmount c.now)) :
    r = .ok (m.tables.receiptOf c.source u c.amount c.referrerAmount c.now) := by
  cases ends with
  | invalid why => exact absurd why (by rw [StoreOp.invalid?, if_pos hpartner]; exact nofun)
  | disabled off => exact absurd off (ne_true_of_eq_false on)
  | refused _ why =>
    obtain ⟨known, -⟩ | ⟨-, hnone, -⟩ := why
    · exact absurd known fresh
    · rw [hu] at hnone
      cases hnone
  | @stopped p _ armed reached =>
    cases p with
    | afterIncome => exact absurd armed clear.2
    | afterEvent => exact absurd armed clear.1
    | afterDebit => exact reached.elim
  | kept _ _ _ did =>
    obtain ⟨-, -, v, hv, rfl, -⟩ := did
    rw [hu] at hv
    cases hv
    rfl
  | outOfRange _ why =>
    refine absurd (fun _ v hv => ?_) why
    rw [hu] at hv
    cases hv
    exact room

/-- A delivery that is answered with a receipt was new, and is remembered from
then on. -/
theorem Writes.remembered (ends : m.Writes (.creditPartner c) r m') {receipt : Receipt}
    (ok : r = .ok receipt) :
    m.disabled = false ∧ c.event ∉ m.tables.events
      ∧ m'.disabled = false ∧ m'.tables.events = c.event :: m.tables.events := by
  cases ends with
  | kept on _ _ did =>
    obtain ⟨-, fresh, u, -, -, rfl⟩ := did
    exact ⟨on, fresh, on, rfl⟩
  | _ => cases ok

end Call

/-! ## Runs -/

/-- The entry of a log is a delivery of an event that was answered with a
receipt. -/
def credits (e : PartnerEvent) : (Σ c : Command, c.Reply) → Bool
  | ⟨.request (.creditPartner c), .ok _⟩ => c.event = e
  | _ => false

/-- No command forgets an event. -/
theorem Moves.mem_events {m m' : Memory} (moves : m.Moves m') {e : PartnerEvent}
    (he : e ∈ m.tables.events) : e ∈ m'.tables.events := by
  cases moves with
  | same tables => rw [tables]; exact he
  | step _ _ step => exact step.mem_events he
  | fault _ _ events => exact events e he

section Runs

variable {m : Memory} (reach : m.Reachable) {e : PartnerEvent}

include reach

/-- A delivery that is answered with a receipt was new, and is remembered from
then on. -/
theorem Reachable.credits_perform {c : Command}
    (h : credits e ⟨c, (m.perform c).1⟩ = true) :
    m.disabled = false ∧ e ∉ m.tables.events ∧ e ∈ (m.perform c).2.tables.events := by
  cases c with
  | request op =>
    cases op with
    | creditPartner d =>
      have ends := reach.writes (show StoreOp.IsWrite (.creditPartner d) from trivial)
      change credits e ⟨.request (.creditPartner d), (m.answer (.creditPartner d)).1⟩ = true at h
      show _ ∧ _ ∧ e ∈ (m.answer (.creditPartner d)).2.tables.events
      generalize (m.answer (.creditPartner d)).1 = r, (m.answer (.creditPartner d)).2 = m'
        at ends h ⊢
      cases r with
      | error => cases h
      | ok receipt =>
        have hevent : d.event = e := of_decide_eq_true h
        obtain ⟨on, fresh, -, remembered⟩ := ends.remembered rfl
        rw [remembered, ← hevent]
        exact ⟨on, fresh, List.mem_cons_self⟩
    | _ => cases h
  | _ => cases h

/-- **An event is remembered** by the delivery that is answered with a receipt,
and by nothing else. -/
theorem Reachable.mem_events_perform {c : Command} (on : (m.perform c).2.disabled = false) :
    e ∈ (m.perform c).2.tables.events
      ↔ e ∈ m.tables.events ∨ credits e ⟨c, (m.perform c).1⟩ = true := by
  constructor
  · intro he
    cases c with
    | request op =>
      by_cases write : op.IsWrite
      · have ends := reach.writes write
        change e ∈ (m.answer op).2.tables.events at he
        change (m.answer op).2.disabled = false at on
        show _ ∨ credits e ⟨.request op, (m.answer op).1⟩ = true
        generalize (m.answer op).1 = r, (m.answer op).2 = m' at ends he on ⊢
        cases ends with
        | kept _ _ _ did =>
          obtain same | ⟨d, rfl, added⟩ := did.events
          · exact .inl (same ▸ he)
          · obtain rfl | he := List.mem_cons.1 (added ▸ he)
            · exact .inr (decide_eq_true rfl)
            · exact .inl he
        | outOfRange _ _ off => exact absurd off (ne_true_of_eq_false on)
        | _ => exact .inl he
      · have same : (m.answer op).2 = m := answer_of_not_write m write
        exact .inl (same ▸ he)
    | addPolicy p =>
      have same : (m.addPolicy p).2.tables.events = m.tables.events :=
        transact_write_keeps (P := (·.events = m.tables.events)) rfl rfl
      exact .inl (same ▸ he)
    | addBand b =>
      have same : (m.addBand b).2.tables.events = m.tables.events :=
        transact_write_keeps (P := (·.events = m.tables.events)) rfl rfl
      exact .inl (same ▸ he)
    | arm p => exact .inl he
  · rintro (known | h)
    · exact (reach.moves c).mem_events known
    · exact (reach.credits_perform h).2.2

/-- **At most one delivery of an event is answered with a receipt** in the rest
of a run, and none if the event is remembered or the store disabled. -/
theorem Reachable.countP_credits (run : List Command) :
    (m.log run).countP (credits e)
      ≤ if e ∈ m.tables.events ∨ m.disabled = true then 0 else 1 := by
  induction run generalizing m with
  | nil => exact Nat.zero_le _
  | cons c rest ih =>
    have hrest := ih (reach.perform c)
    show List.countP _ (⟨c, (m.perform c).1⟩ :: (m.perform c).2.log rest) ≤ _
    rw [List.countP_cons]
    by_cases h : credits e ⟨c, (m.perform c).1⟩ = true
    · -- this receipt settles the event, so there are none in the rest of the run
      obtain ⟨on, fresh, known⟩ := reach.credits_perform h
      rw [if_pos (.inl known)] at hrest
      rw [if_pos h, if_neg fun h => h.elim fresh (ne_true_of_eq_false on)]
      omega
    · rw [if_neg h]
      by_cases settled : e ∈ m.tables.events ∨ m.disabled = true
      · -- neither an event nor a fault is ever undone
        have settled' : e ∈ (m.perform c).2.tables.events
            ∨ (m.perform c).2.disabled = true :=
          settled.imp (reach.moves c).mem_events (reach.moves c).disabled
        rw [if_pos settled'] at hrest
        rw [if_pos settled]
        exact hrest
      · rw [if_neg settled]
        refine Nat.le_trans hrest ?_
        split <;> decide

/-- The events that are remembered are those that were known, and those of the
deliveries that were answered with a receipt. -/
theorem Reachable.mem_events_after (run : List Command)
    (on : (m.after run).disabled = false) :
    e ∈ (m.after run).tables.events
      ↔ e ∈ m.tables.events ∨ ∃ entry ∈ m.log run, credits e entry = true := by
  induction run generalizing m with
  | nil =>
    refine ⟨.inl, fun h => h.elim id ?_⟩
    rintro ⟨entry, hentry, -⟩
    cases hentry
  | cons c rest ih =>
    have on' := (reach.perform c).usable_of_after rest on
    refine (ih (reach.perform c) on).trans ?_
    rw [reach.mem_events_perform on', or_assoc]
    refine or_congr_right ?_
    show _ ↔ ∃ entry ∈ ⟨c, (m.perform c).1⟩ :: (m.perform c).2.log rest, _
    rw [List.exists_mem_cons_iff]

end Runs

end Memory

/-! ## Through the interface -/

/-- Nothing that happens to a service makes its store forget an event. -/
theorem Service.Meanwhile.mem_events {s s' : Service Memory} (h : s.Meanwhile s')
    (reach : s.store.Reachable) {e : PartnerEvent} (he : e ∈ s.store.tables.events) :
    e ∈ s'.store.tables.events := by
  induction h with
  | refl => exact he
  | tail earlier last ih =>
    obtain same | ⟨c, commanded⟩ := last
    · rw [same]
      exact ih
    · rw [commanded]
      exact ((Service.Meanwhile.reachable earlier reach).moves c).mem_events ih

/-- A delivery that did not finish for this fault had been credited before. -/
def Fault.IsDuplicate : Fault → Prop
  | .error cause => cause.IsDuplicate
  | .outOfRange => False

/-- **The outcome of a delivery that is acknowledged**: it was credited, or
refused as a duplicate. -/
def Acknowledged {α : Type} : Outcome α → Prop
  | .ok _ => True
  | .error fault => fault.IsDuplicate

/-- After a delivery that the store acknowledges its event is remembered. -/
theorem Memory.Reachable.mem_events_of_acknowledged {m : Memory} (reach : m.Reachable)
    {c : PartnerCredit} (h : Acknowledged (m.answer (.creditPartner c)).1) :
    c.event ∈ (m.answer (.creditPartner c)).2.tables.events := by
  have ends := reach.writes (show StoreOp.IsWrite (.creditPartner c) from trivial)
  generalize (m.answer (.creditPartner c)).1 = r, (m.answer (.creditPartner c)).2 = m'
    at ends h ⊢
  cases r with
  | ok receipt =>
    obtain ⟨-, -, -, remembered⟩ := ends.remembered rfl
    rw [remembered]
    exact List.mem_cons_self
  | error fault =>
    cases fault with
    | outOfRange => exact h.elim
    | error cause =>
      rw [(ends.events_of_refused rfl).1]
      exact ends.known_of_duplicate rfl h

/-- Asking the store to credit an event, and being told that it is settled, leaves
the event remembered. -/
theorem ServiceStep.mem_events_of_ask {c : PartnerCredit} {s s' : Service Memory}
    (reach : s.store.Reachable) {r : Outcome Receipt}
    (h : Program.Finishes (ask (.creditPartner c)).run s r s') (acknowledged : Acknowledged r) :
    c.event ∈ s'.store.tables.events := by
  obtain ⟨s₁, hs₁, replied, hs'⟩ := finishes_ask h
  have reach₁ : s₁.store.Reachable := Service.Meanwhile.reachable hs₁ reach
  rw [replied] at acknowledged
  exact Service.Meanwhile.mem_events hs' (reach₁.perform (.request (.creditPartner c)))
    (reach₁.mem_events_of_acknowledged acknowledged)

/-- **A delivery that the service acknowledges** leaves its event remembered,
whatever others do in the meantime. -/
theorem Crediting.mem_events_of_acknowledged {source : IncomeSource} {key : String}
    {user amount : Int} {s s' : Service Memory} (reach : s.store.Reachable)
    {r : Outcome Income}
    (h : Program.Finishes (creditPartner source key user amount).run s r s')
    (acknowledged : Acknowledged r) : ⟨source, key, user⟩ ∈ s'.store.tables.events := by
  obtain ⟨cause, fresh, refused⟩ | ⟨-, -, goes⟩ := creditPartner_cases source key user amount
  · rw [refused] at h
    have hr : r = .error (.error cause) := h.1
    rw [hr] at acknowledged
    exact absurd acknowledged fresh
  · rw [goes] at h
    -- the rate and the time come first, and nothing is refused there
    obtain ⟨_, _, first, -⟩ | ⟨policy, s₁, first, h⟩ := ServiceStep.finishes_bind h
    · obtain ⟨_, _, impossible, _⟩ := ServiceStep.finishes_perform first
      cases impossible
    obtain ⟨_, _, second, -⟩ | ⟨now, s₂, second, h⟩ := ServiceStep.finishes_bind h
    · obtain ⟨_, _, impossible, _⟩ := ServiceStep.finishes_perform second
      cases impossible
    have reach₂ : s₂.store.Reachable :=
      second.meanwhile.reachable (first.meanwhile.reachable reach)
    -- then the store is asked, and what is left cannot forget the event
    obtain ⟨fault, s₃, asked, rfl, hs'⟩ | ⟨receipt, s₃, asked, h⟩ :=
      ServiceStep.finishes_bind h
    · exact Service.Meanwhile.mem_events hs' (asked.meanwhile.reachable reach₂)
        (ServiceStep.mem_events_of_ask reach₂ asked acknowledged)
    · exact h.meanwhile.mem_events (asked.meanwhile.reachable reach₂)
        (ServiceStep.mem_events_of_ask reach₂ asked trivial)

namespace Api

/-- No rejection reads like an acknowledgement. -/
theorem Rejection.ne_acknowledgement (rejection : Rejection) :
    rejection.response ≠ acknowledgement := by
  cases rejection with
  | failure f => exact fun h => Content.noConfusion (congrArg Response.content h)
  | unusable status => exact fun h => Content.noConfusion (congrArg Response.content h)

/-- A source that is found is the one of that name. -/
theorem finishes_knownSource {name : String} {source : IncomeSource} {s s' : Service Memory}
    (h : Program.Finishes (knownSource name).run.run s (.ok (.ok source)) s') :
    IncomeSource.ofName? name = some source ∧ s.Meanwhile s' := by
  unfold knownSource at h
  cases named : IncomeSource.ofName? name with
  | none =>
    rw [named] at h
    cases h.1
  | some found =>
    rw [named] at h
    obtain ⟨same, hs'⟩ := h
    cases same
    exact ⟨rfl, hs'⟩

/-- **A notice that is acknowledged** is of an event that is remembered by then,
whatever others do in the meantime. -/
theorem mem_events_of_takeNotice {token : Option String} {name : String} {r : Request}
    {n : PartnerNotice} {s s' : Service Memory} (reach : s.store.Reachable)
    (h : Program.Finishes (takeNotice token name r n).response.run s (.ok acknowledgement) s') :
    ∃ source, IncomeSource.ofName? name = some source
      ∧ ⟨source, n.key, n.user⟩ ∈ s'.store.tables.events := by
  obtain ⟨s₁, taken, hs'⟩ | ⟨rejection, rejected⟩ := Handler.finishes_response h
  · unfold takeNotice at taken
    by_cases presented : ∃ t ∈ token, ¬ Presents r t
    · rw [if_pos presented] at taken
      cases taken.1
    · rw [if_neg presented] at taken
      obtain ⟨source, s₂, found, taken⟩ := Handler.finishes_bind taken
      obtain ⟨named, hs₂⟩ := finishes_knownSource found
      obtain ⟨o, s₃, served, taken⟩ := Handler.finishes_bind taken
      obtain ⟨s₄, watched, hs₃⟩ := Handler.finishes_serve served
      obtain ⟨s₅, credited, hs₄⟩ := ServiceStep.finishes_observe watched
      -- an outcome that is not acknowledged ends in a rejection
      have acknowledged : Acknowledged o := by
        cases o with
        | ok i => trivial
        | error fault =>
          cases fault with
          | outOfRange => cases taken.1
          | error cause =>
            by_contra other
            dsimp only at taken
            rw [if_neg (show ¬ cause.IsDuplicate from other)] at taken
            cases taken.1
      have reach₂ : s₂.store.Reachable := hs₂.reachable reach
      have later : s₅.Meanwhile s' :=
        hs₄.trans (hs₃.trans ((Program.Finishes.meanwhile taken).trans hs'))
      exact ⟨source, named, Service.Meanwhile.mem_events later
        (credited.meanwhile.reachable reach₂)
        (Crediting.mem_events_of_acknowledged reach₂ credited acknowledged)⟩
  · exact absurd rejected.symm rejection.ne_acknowledgement

end Api

/-! ## Exactly once -/

namespace Memory

/-- **What a store does with deliveries**, seen from one state of it. -/
structure SettlesDeliveries (m : Memory) : Prop where
  /-- Each of a partner's incomes of a user has a key of its own. -/
  distinct : ∀ source user, (m.tables.keysOf source user).Nodup
  counted : ∀ source user, source.IsPartner →
    (m.answer (.countIncomes user (some source))).1 = .ok ↑(m.tables.keysOf source user).length
  /-- Scheduled rewards leave no event behind. -/
  unscheduled : ∀ e ∈ m.tables.events, e.source ≠ .reward
  duplicate : ∀ c : PartnerCredit, c.source.IsPartner →
    ((m.answer (.creditPartner c)).1 = .refuse (.duplicate c.source c.key c.user)
      ↔ c.event ∈ m.tables.events)
  /-- A delivery that is refused for anything else is as good as never made. -/
  forgotten : ∀ (c : PartnerCredit) (cause : Error),
    (m.answer (.creditPartner c)).1 = .refuse cause → ¬ cause.IsDuplicate →
      c.event ∉ (m.answer (.creditPartner c)).2.tables.events
  /-- And an event that is not remembered can be credited. -/
  credited : ∀ (c : PartnerCredit) (u : User), c.source.IsPartner → c.event ∉ m.tables.events →
    m.tables.users.get? c.user = some u →
    m.armed ≠ some .afterEvent ∧ m.armed ≠ some .afterIncome →
    m.tables.CreditFits u (m.tables.incomeOf c.source u c.amount c.referrerAmount c.now) →
      (m.answer (.creditPartner c)).1
        = .ok (m.tables.receiptOf c.source u c.amount c.referrerAmount c.now)

/-- Every usable store that can be reached settles deliveries so. -/
theorem Reachable.settlesDeliveries {m : Memory} (reach : m.Reachable)
    (on : m.disabled = false) : m.SettlesDeliveries :=
  have once := reach.oncePerEvent on
  have ends (c : PartnerCredit) :=
    reach.writes (show StoreOp.IsWrite (.creditPartner c) from trivial)
  { distinct := once.nodup_keysOf
    counted := by
      intro source user hpartner
      rw [once.counted source user hpartner]
      exact read_of_usable on fun t => ((t.incomesOf user (some source)).length : Int)
    unscheduled := once.partner
    duplicate := fun c hpartner => (ends c).duplicate_iff on hpartner
    forgotten := by
      intro c cause refused other known
      rw [((ends c).events_of_refused refused).1] at known
      have hduplicate := ((ends c).duplicate_iff on (once.partner _ known)).2 known
      rw [refused] at hduplicate
      cases hduplicate
      exact other trivial
    credited := fun c u hpartner fresh hu clear room =>
      (ends c).credited on hpartner fresh hu clear room }

/-- A disabled store refuses every delivery of a partner. -/
theorem answer_creditPartner_of_disabled {m : Memory} (off : m.disabled = true)
    {c : PartnerCredit} (hpartner : c.source.IsPartner) :
    m.answer (.creditPartner c) = (.refuse disabledError, m) := by
  show (if c.source.IsPartner then _ else _) = _
  rw [if_pos hpartner, transact_of_disabled off]

/-- **Partners' events are credited exactly once.** After every run that leaves
the store usable there is one income for each event that is remembered, and
deliveries are settled accordingly. Over a whole run at most one delivery of an
event is answered with a receipt, and exactly one if it is remembered; once a
command was abandoned there are no more of them. And a partner is given an
acknowledgement only when the event is remembered, in whatever order the tasks
of the service take turns. -/
theorem partner_event_credited_once (run : List Command) :
    ((empty.after run).disabled = false → (empty.after run).SettlesDeliveries
        ∧ ∀ e, e ∈ (empty.after run).tables.events
          ↔ (empty.log run).countP (credits e) = 1)
      ∧ ((∃ entry ∈ empty.log run, entry.1.Abandoned entry.2) →
        ∀ c : PartnerCredit, c.source.IsPartner →
          ((empty.after run).answer (.creditPartner c)).1 = .refuse disabledError)
      ∧ (∀ e, (empty.log run).countP (credits e) ≤ 1)
      ∧ ∀ p : Pool, p.Reachable → ∀ token name r n,
        ⟨_, (Api.takeNotice token name r n).response.run, .done (.ok Api.acknowledgement)⟩
          ∈ p.tasks →
        ∃ source, IncomeSource.ofName? name = some source
          ∧ ⟨source, n.key, n.user⟩ ∈ p.service.store.tables.events := by
  have most : ∀ e, (empty.log run).countP (credits e) ≤ 1 := by
    intro e
    refine Nat.le_trans (Reachable.empty.countP_credits run) ?_
    split <;> decide
  refine ⟨fun on => ⟨(Reachable.empty.after run).settlesDeliveries on, fun e => ?_⟩,
    fun abandoned c hpartner => ?_, most, fun p reach token name r n finished => ?_⟩
  · -- remembered means that there was a receipt, and there is never a second one
    rw [Reachable.empty.mem_events_after run on, ← List.countP_pos_iff]
    have := most e
    constructor
    · rintro (impossible | positive)
      · cases impossible
      · omega
    · intro one
      right
      omega
  · have off := (Reachable.empty.disabled_after run).2 (.inr abandoned)
    rw [answer_creditPartner_of_disabled off hpartner]
  · obtain ⟨s₀, reach₀, h⟩ := reach.finishes finished
    exact Api.mem_events_of_takeNotice reach₀ h

/-- A delivery that a fail point stopped is credited when it comes again, and a
third one with another amount is a duplicate. Sums that leave their range end a
run. A partner who delivers through the interface is given the
acknowledgement. -/
theorem partner_event_credited_once_at_retry :
    let credit (key : String) (amount : Int) : PartnerCredit :=
      ⟨.offerwow, key, 1, amount, 0, ⟨0, 0⟩⟩
    let register : Command := .request (.createUser ⟨"a@x", "addr", none, 300⟩ ⟨0, 0⟩)
    let retried : List Command := [register, .arm .afterIncome,
      .request (.creditPartner (credit "k" 5)), .request (.creditPartner (credit "k" 5)),
      .request (.creditPartner (credit "k" 7))]
    let overflowing : List Command := [register,
      .request (.creditPartner (credit "k" Amount.greatest)),
      .request (.creditPartner (credit "l" 1))]
    let program := (Api.takeNotice none "offerwow" ⟨"POST", "/", [], "", false⟩
      ⟨"k", 1, 100⟩).response.run
    (empty.after retried).SettlesDeliveries
      ∧ (empty.log retried).countP (credits ⟨.offerwow, "k", 1⟩) = 1
      ∧ ((empty.after overflowing).answer (.creditPartner (credit "m" 1))).1
        = .refuse disabledError
      ∧ ∃ p : Pool, p.Reachable
        ∧ ⟨_, program, .done (.ok Api.acknowledgement)⟩ ∈ p.tasks
        ∧ ∃ source, IncomeSource.ofName? "offerwow" = some source
          ∧ ⟨source, "k", 1⟩ ∈ p.service.store.tables.events := by
  intro credit register retried overflowing program
  have usable := (partner_event_credited_once retried).1 rfl
  have abandoned : ∃ entry ∈ empty.log overflowing, entry.1.Abandoned entry.2 :=
    ⟨_, .tail _ (.tail _ (.head _)), rfl⟩
  have started : Pool.Reachable ⟨Service.new empty 10 ⟨0, 0⟩, []⟩ := .new _ rfl
  have finished := Pool.Reachable.run []
    ((started.after [register]).step (.start _ program))
  refine ⟨usable.1, (usable.2 _).1 (by decide),
    (partner_event_credited_once overflowing).2.1 abandoned (credit "m" 1) (by decide), ?_⟩
  exact ⟨_, finished, List.mem_cons_self, (partner_event_credited_once []).2.2.2 _ finished
    none "offerwow" ⟨"POST", "/", [], "", false⟩ ⟨"k", 1, 100⟩ List.mem_cons_self⟩

/-- In a store that was disabled by another delivery an event that is remembered
is refused, but not as a duplicate. -/
theorem duplicate_unanswered_when_disabled :
    ¬ ∀ (run : List Command) (c : PartnerCredit), c.source.IsPartner →
      (((empty.after run).answer (.creditPartner c)).1
          = .refuse (.duplicate c.source c.key c.user)
        ↔ c.event ∈ (empty.after run).tables.events) := by
  intro h
  let credit (key : String) (amount : Int) : PartnerCredit :=
    ⟨.offertoro, key, 1, amount, 0, ⟨0, 0⟩⟩
  let run : List Command :=
    [.request (.createUser ⟨"a@x", "addr", none, 300⟩ ⟨0, 0⟩),
      .request (.creditPartner (credit "k" Amount.greatest)),
      .request (.creditPartner (credit "l" 1))]
  have known : (credit "k" 1).event ∈ (empty.after run).tables.events := by decide
  have duplicate := (h run (credit "k" 1) (by decide)).2 known
  have refused : ((empty.after run).answer (.creditPartner (credit "k" 1))).1
      = .refuse disabledError := rfl
  rw [refused] at duplicate
  cases duplicate

end Memory

end RewardLedger
