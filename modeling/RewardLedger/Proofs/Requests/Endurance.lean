import Mathlib.Algebra.Order.BigOperators.Group.List
import RewardLedger.Proofs.Capacity
import RewardLedger.Proofs.History
import RewardLedger.Proofs.Records
import RewardLedger.Proofs.Requests.Answering

/-!
# What a store endures

A unit that is abandoned half way leaves tables that nobody can rely on, and the store
refuses everything from then on. Numbers that leave their range are the only way to
get there, and a client can bring one about: an amount has to be positive, but nobody
looks whether the balance can hold it before the store adds it up.

This is the whole of it. As long as no request **overruns** the store, which it does by
asking for a write whose sums do not fit, the store stays usable through any number of
requests, whatever they are; and the one that overruns it is not even answered. That takes
credits that come to more, all together, than one amount can hold.
-/

namespace RewardLedger

namespace Memory

/-! ## One request to the store -/

/-- **A request overruns a store** if the store has to compute a number for it that
leaves its range. -/
def Overrun (m : Memory) (op : StoreOp) : Prop :=
  m.disabled = false ∧ op.invalid? = none ∧ ¬ m.tables.HasRoom op

/-- **No fail point is in the way** of a store as long as it can be used. -/
structure Clear (m : Memory) : Prop where
  reach : m.Reachable
  unarmed : m.disabled = false → m.armed = none

end Memory

/-- A write that a check refuses computes no number. -/
theorem Tables.Refuses.hasRoom {t : Tables} {op : StoreOp} {cause : Error}
    (why : t.Refuses op cause) : t.HasRoom op := by
  cases op with
  | creditReward c =>
    obtain ⟨absent, -⟩ | ⟨v, hv, early, -⟩ := why
    · intro u hu
      rw [absent] at hu
      cases hu
    · intro u hu due
      rw [hv] at hu
      cases hu
      exact absurd early due
  | creditPartner c =>
    obtain ⟨known, -⟩ | ⟨-, absent, -⟩ := why
    · exact fun fresh => absurd known fresh
    · intro _ u hu
      rw [absent] at hu
      cases hu
  | createWithdrawal order =>
    exact fun u hu covered => absurd covered (Int.not_le.2 (why.1 u hu))
  | createUser | advanceWithdrawals => trivial
  | _ => exact why.elim

namespace Memory

namespace Clear

variable {m : Memory} (clear : m.Clear) (op : StoreOp)

include clear

/-- **A request is abandoned exactly if it overruns the store.** -/
theorem abandoned_iff : (m.answer op).1 = .error .outOfRange ↔ m.Overrun op := by
  by_cases write : op.IsWrite
  · cases invalid : op.invalid? with
    | some cause =>
      rw [m.answer_of_invalid invalid]
      exact iff_of_false nofun fun h => absurd (invalid.symm.trans h.2.1) nofun
    | none =>
      have ends := clear.reach.writes write
      generalize (m.answer op).1 = r, (m.answer op).2 = m' at ends ⊢
      cases ends with
      | invalid why => exact absurd (invalid.symm.trans why) nofun
      | disabled off => exact iff_of_false nofun fun h => ne_true_of_eq_false h.1 off
      | refused on why => exact iff_of_false nofun fun h => h.2.2 why.hasRoom
      | stopped on armed => exact absurd ((clear.unarmed on).symm.trans armed) nofun
      | kept _ _ room => exact iff_of_false nofun fun h => h.2.2 room
      | outOfRange on why => exact iff_of_true rfl ⟨on, invalid, why⟩
  · refine iff_of_false (m.answer_ne_outOfRange write) fun h => h.2.2 ?_
    cases op with
    | createUser | creditReward | creditPartner | createWithdrawal | advanceWithdrawals =>
      exact absurd trivial write
    | _ => trivial

/-- **It disables the store exactly then**, unless that was disabled before. -/
theorem disabled_answer_iff :
    (m.answer op).2.disabled = true ↔ m.disabled = true ∨ m.Overrun op :=
  (clear.reach.disabled_perform (.request op)).trans (or_congr_right (clear.abandoned_iff op))

/-- No request puts a fail point in the way. -/
theorem answer : (m.answer op).2.Clear := by
  refine ⟨clear.reach.perform (.request op), fun on => ?_⟩
  have before : m.disabled = false := clear.reach.usable_of_after [.request op] on
  by_cases write : op.IsWrite
  · have ends := clear.reach.writes write
    generalize (m.answer op).1 = r, (m.answer op).2 = m' at ends on ⊢
    cases ends with
    | stopped => rfl
    | outOfRange _ _ off => exact absurd off (ne_true_of_eq_false on)
    | _ => exact clear.unarmed before
  · rw [answer_of_not_write m write]
    exact clear.unarmed before

end Clear

end Memory

/-- **A store that is usable still knows whom it knew** before a request. -/
theorem Memory.Reachable.exists_user {m : Memory} (reach : m.Reachable) {op : StoreOp}
    (on : (m.answer op).2.disabled = false) {id : Int}
    (there : ∃ u, m.tables.users.get? id = some u) :
    ∃ u, (m.answer op).2.tables.users.get? id = some u := by
  obtain ⟨u, hu⟩ := there
  obtain ⟨u', hu', -⟩ := (reach.extends_after [.request op] on).users id u hu
  exact ⟨u', hu'⟩

/-! ## One request of a client -/

namespace Turn

variable (t : Turn)

/-- The turn asks the store for something that overruns it. -/
def Overruns : Prop := ∃ op, t.effect = .store op ∧ t.found.store.Overrun op

/-- The turn asks the store for nothing but what can be served. -/
def Serves : Prop := t.effect.AsksOnly t.found.store.tables.Serves

instance : Decidable t.Serves := inferInstanceAs (Decidable (t.effect.AsksOnly _))

/-- What the turn offers to users. -/
def offered : Int :=
  match t.effect with
  | .store op => op.offered
  | _ => 0

variable {t}

theorem offered_nonneg (serves : t.Serves) : 0 ≤ t.offered := by
  obtain ⟨task, s, e⟩ := t
  cases e with
  | store op => exact StoreOp.offered_nonneg (Tables.Serves.gives serves)
  | _ => exact Int.le_refl 0

/-- What any number of turns offer. -/
theorem sum_offered_nonneg {turns : List Turn} (serves : ∀ t ∈ turns, t.Serves) :
    0 ≤ (turns.map offered).sum :=
  List.sum_nonneg fun _ h =>
    have ⟨t, ht, same⟩ := List.mem_map.1 h
    same ▸ t.offered_nonneg (serves t ht)

end Turn

namespace Program

variable {α : Type} (p : Program Effect Effect.Reply α) {s : Service Memory}

/-- **What requests to the store keep, programs keep** that are served. -/
theorem store_run {P : Memory → Prop} (answer : ∀ m op, P m → P (m.answer op).2)
    (h : P s.store) : P (p.run (Service.handle Memory.answer) s).2.store := by
  induction p generalizing s with
  | done a => exact h
  | call e next ih =>
    have left : P (s.handle Memory.answer e).2.store := by
      rw [Effect.store_handle]
      cases e with
      | store op => exact answer _ op h
      | _ => exact h
    exact ih _ left

/-- **A program disables the store exactly if one of its turns overruns it.** -/
theorem disabled_run_iff (clear : s.store.Clear) (task : Nat) :
    (p.run (Service.handle Memory.answer) s).2.store.disabled = true
      ↔ s.store.disabled = true ∨ ∃ t ∈ p.turns task s, t.Overruns := by
  induction p generalizing s with
  | done a => simp [turns]
  | call e next ih =>
    have first : (s.handle Memory.answer e).2.store.Clear
        ∧ ((s.handle Memory.answer e).2.store.disabled = true
          ↔ s.store.disabled = true ∨ Turn.Overruns ⟨task, s, e⟩) := by
      rw [Effect.store_handle]
      cases e with
      | store op =>
        refine ⟨clear.answer op, (clear.disabled_answer_iff op).trans (or_congr_right ?_)⟩
        refine ⟨fun asked => ⟨op, rfl, asked⟩, ?_⟩
        rintro ⟨_, same, asked⟩
        cases same
        exact asked
      | _ =>
        refine ⟨clear, .inl, fun h => h.elim id ?_⟩
        rintro ⟨_, other, -⟩
        cases other
    rw [run_call, ih _ first.1, first.2, or_assoc]
    refine or_congr_right ?_
    show _ ↔ ∃ t ∈ (⟨task, s, e⟩ :: _ : List Turn), t.Overruns
    rw [List.exists_mem_cons_iff]

/-- Only a store that can be used is overrun. -/
theorem usable_of_overruns (clear : s.store.Clear) {task : Nat}
    (overrun : ∃ t ∈ p.turns task s, t.Overruns) : s.store.disabled = false := by
  induction p generalizing s with
  | done a =>
    obtain ⟨t, ht, -⟩ := overrun
    cases ht
  | call e next ih =>
    obtain ⟨t, ht, asked⟩ := overrun
    rcases List.mem_cons.1 ht with rfl | ht
    · obtain ⟨op, -, asked⟩ := asked
      exact asked.1
    · have left : (s.handle Memory.answer e).2.store.Clear
          ∧ ((s.handle Memory.answer e).2.store.disabled = false → s.store.disabled = false) := by
        rw [Effect.store_handle]
        cases e with
        | store op =>
          exact ⟨clear.answer op, clear.reach.usable_of_after [.request op]⟩
        | _ => exact ⟨clear, id⟩
      exact left.2 (ih _ left.1 ⟨t, ht, asked⟩)

/-- **A store holds what a program credits**, as long as there is room for all that it
offers. -/
theorem holds_run {task : Nat} {bound : Int} (holds : s.store.Holds bound)
    (serves : ∀ t ∈ p.turns task s, t.Serves)
    (fits : bound + ((p.turns task s).map Turn.offered).sum ≤ Amount.greatest) :
    (p.run (Service.handle Memory.answer) s).2.store.Holds
      (bound + ((p.turns task s).map Turn.offered).sum) := by
  induction p generalizing s bound with
  | done a => exact (Int.add_zero bound).symm ▸ holds
  | call e next ih =>
    obtain ⟨first, rest⟩ := List.forall_mem_cons.1 serves
    rw [turns, List.map_cons, List.sum_cons, ← Int.add_assoc] at fits ⊢
    have later := Turn.sum_offered_nonneg rest
    have left : (s.handle Memory.answer e).2.store.Holds
        (bound + Turn.offered ⟨task, s, e⟩) := by
      rw [Effect.store_handle]
      cases e with
      | store op =>
        exact holds.answer first (Int.le_trans (Int.le_add_of_nonneg_right later) fits)
      | _ => exact (Int.add_zero bound).symm ▸ holds
    exact ih _ left rest fits

end Program

namespace Api

/-- **A request, and the service that it found.** -/
structure Visit where
  request : Request
  found : Service Memory

namespace Visit

variable (server : Server) (v : Visit)

/-- What the client was answered. -/
def answer : Outcome Response := ((server.respond v.request).serve v.found).1

/-- The service that the request left. -/
def left : Service Memory := ((server.respond v.request).serve v.found).2

/-- The turns that the request took. -/
def turns : List Turn := (server.respond v.request).run.turns 0 v.found

/-- **The request overruns the store** with something that it asks for on its way. -/
def Overruns : Prop := ∃ t ∈ v.turns server, t.Overruns

/-- What the request offered to users. -/
def offered : Int := ((v.turns server).map Turn.offered).sum

variable {server v} (clear : v.found.store.Clear)

include clear

theorem clear_left : (v.left server).store.Clear :=
  Program.store_run _ (fun _ op clear => clear.answer op) clear

/-- **A request disables the store exactly if it overruns it.** -/
theorem disabled_left_iff : (v.left server).store.disabled = true
    ↔ v.found.store.disabled = true ∨ v.Overruns server :=
  Program.disabled_run_iff _ clear 0

/-- What a request did that was answered. -/
theorem answered {response : Response} (ok : v.answer server = .ok response) :
    Answered server v.request v.found response (v.left server) := by
  have ends := ends_respond server v.request clear.reach
  have served : (server.respond v.request).serve v.found = (.ok response, v.left server) :=
    Prod.ext ok rfl
  rw [served] at ends
  cases ends with
  | answered holds => exact holds

/-- **Nobody is answered who overruns a store.** -/
theorem unanswered (overruns : v.Overruns server) : v.answer server = .error .outOfRange := by
  have before := Program.usable_of_overruns _ clear overruns
  have off := (disabled_left_iff clear).2 (.inr overruns)
  have ends := ends_respond server v.request clear.reach
  cases answer : v.answer server with
  | ok response =>
    have same := (answered clear answer).disabled
    rw [before] at same
    exact absurd off (ne_true_of_eq_false same)
  | error fault =>
    have served : (server.respond v.request).serve v.found = (.error fault, v.left server) :=
      Prod.ext answer rfl
    rw [served] at ends
    cases ends with
    | abandoned => rfl

/-- **A request that was not carried out** leaves the store that it found. -/
theorem store_of_failed (on : v.found.store.disabled = false) {response : Response}
    (ok : v.answer server = .ok response) (told : ¬ response.Succeeded) :
    (v.left server).store = v.found.store := by
  obtain ⟨cause, kept⟩ := ((answered clear ok).kept told).store
  rw [kept]
  refine if_neg fun armed => ?_
  rw [clear.unarmed on] at armed
  cases armed

/-- Whoever had a row has one still, if the store is usable. -/
theorem exists_user (on : (v.left server).store.disabled = false) {id : Int}
    (there : ∃ u, v.found.store.tables.users.get? id = some u) :
    ∃ u, (v.left server).store.tables.users.get? id = some u := by
  let knows (m : Memory) : Prop :=
    m.Clear ∧ (m.disabled = false → ∃ u, m.tables.users.get? id = some u)
  have known : knows (v.left server).store := by
    refine Program.store_run _ (fun m op ⟨clear, known⟩ => ⟨clear.answer op, fun on => ?_⟩)
      (show knows v.found.store from ⟨clear, fun _ => there⟩)
    exact clear.reach.exists_user on (known (clear.reach.usable_of_after [.request op] on))
  exact known.2 on

end Visit

/-! ## Requests one after the other -/

/-- **Requests are served one after the other**, from one store to another. Whatever is
around the store may change between them. -/
inductive Session (server : Server) : Memory → List Visit → Memory → Prop
  | nil {m : Memory} : Session server m [] m
  | cons {m : Memory} {v : Visit} {log : List Visit} {m' : Memory} (next : v.found.store = m)
    (rest : Session server (v.left server).store log m') : Session server m (v :: log) m'

/-- **What a store endures** through a session. -/
structure Endures (server : Server) (m : Memory) (log : List Visit) (m' : Memory) : Prop where
  /-- Only a request that overruns the store disables it. -/
  disabled_iff : m'.disabled = true ↔ ∃ v ∈ log, v.Overruns server
  unanswered : ∀ v ∈ log, v.Overruns server → v.answer server = .error .outOfRange
  /-- Whoever is told that a request was not carried out left the store as it was. -/
  failed : ∀ v ∈ log, v.found.store.disabled = false → ∀ response,
    v.answer server = .ok response → ¬ response.Succeeded →
      (v.left server).store = v.found.store
  /-- Requests for what can be served do not overrun it unless they offer, with all that was
  credited before, more than an amount can hold. -/
  lasts : (∀ v ∈ log, ∀ t ∈ v.turns server, t.Serves) → m.tables.Giving →
    m.tables.credited + (log.map (Visit.offered server)).sum ≤ Amount.greatest →
      m'.disabled = false
  /-- Everybody who had a row at any time can still be looked up. -/
  known : m'.disabled = false → ∀ store ∈ m :: log.map (fun v => (v.left server).store), ∀ id u,
    store.tables.users.get? id = some u → ∃ u', (m'.answer (.user id)).1 = .ok u'

namespace Session

variable {server : Server} {m m' : Memory} {log : List Visit}
  (session : Session server m log m') (clear : m.Clear)

include session clear

/-- No fail point is in the way of any of the requests. -/
theorem clear_found : ∀ v ∈ log, v.found.store.Clear := by
  induction session with
  | nil => exact fun _ hv => absurd hv List.not_mem_nil
  | cons next rest ih =>
    subst next
    exact List.forall_mem_cons.2 ⟨clear, ih (Visit.clear_left clear)⟩

theorem disabled_iff :
    m'.disabled = true ↔ m.disabled = true ∨ ∃ v ∈ log, v.Overruns server := by
  induction session with
  | nil => simp
  | cons next rest ih =>
    subst next
    rw [ih (Visit.clear_left clear), Visit.disabled_left_iff clear, or_assoc,
      List.exists_mem_cons_iff]

/-- A store that is usable after a session was usable all the time, and knows whoever had a
row then. -/
theorem exists_user (on : m'.disabled = false) {id : Int} :
    ∀ store ∈ m :: log.map (fun v => (v.left server).store),
      (∃ u, store.tables.users.get? id = some u) → ∃ u, m'.tables.users.get? id = some u := by
  induction session with
  | nil =>
    intro store hstore there
    cases List.mem_singleton.1 hstore
    exact there
  | @cons m v log m' next rest ih =>
    subst next
    have later := ih (Visit.clear_left clear) on
    intro store hstore there
    rcases List.mem_cons.1 hstore with rfl | hstore
    · have between : (v.left server).store.disabled = false := by
        refine eq_false_of_ne_true fun off => ne_true_of_eq_false on ?_
        exact (rest.disabled_iff (Visit.clear_left clear)).2 (.inl off)
      exact later _ List.mem_cons_self (Visit.exists_user clear between there)
    · exact later store hstore there

omit clear in
/-- A store holds what a session credits. -/
theorem holds {bound : Int} (holds : m.Holds bound)
    (serves : ∀ v ∈ log, ∀ t ∈ v.turns server, t.Serves)
    (fits : bound + (log.map (Visit.offered server)).sum ≤ Amount.greatest) :
    m'.Holds (bound + (log.map (Visit.offered server)).sum) := by
  induction session generalizing bound with
  | nil => exact (Int.add_zero bound).symm ▸ holds
  | @cons m v log m' next rest ih =>
    subst next
    obtain ⟨first, others⟩ := List.forall_mem_cons.1 serves
    rw [List.map_cons, List.sum_cons, ← Int.add_assoc] at fits ⊢
    have later : 0 ≤ (log.map (Visit.offered server)).sum :=
      List.sum_nonneg fun _ h =>
        have ⟨w, hw, same⟩ := List.mem_map.1 h
        same ▸ Turn.sum_offered_nonneg (others w hw)
    have fit := Int.le_trans (Int.le_add_of_nonneg_right later) fits
    exact ih (Program.holds_run _ holds first fit) others fits

end Session

/-- **As long as no request overruns it a store endures them all.** Whatever clients ask
for, in any order: a request that is answered with another status than one of success
left the store as it was, the store stays usable, and everybody who was registered is
still found. It is disabled exactly if a request asks for a write whose sums leave
their range, and who asks for that is not answered. None does as long as what is offered
in the session and what was credited before come to an amount. -/
theorem store_endures_requests {server : Server} {m m' : Memory} {log : List Visit}
    (reach : m.Reachable) (on : m.disabled = false) (unarmed : m.armed = none)
    (session : Session server m log m') : Endures server m log m' := by
  have clear : m.Clear := ⟨reach, fun _ => unarmed⟩
  have found := session.clear_found clear
  refine ⟨?_, fun v hv => Visit.unanswered (found v hv), fun v hv before response =>
    Visit.store_of_failed (found v hv) before, fun serves giving fits => ?_, ?_⟩
  · rw [session.disabled_iff clear, on]
    exact or_iff_right Bool.false_ne_true
  · exact (session.holds ⟨reach, on, giving, Int.le_refl _⟩ serves fits).on
  · intro after store hstore id u hu
    obtain ⟨u', hu'⟩ := session.exists_user clear after store hstore ⟨u, hu⟩
    exact ⟨u', Memory.user_eq_ok_iff.2 ⟨after, hu'⟩⟩

/-- A notice of the greatest amount is credited, and the next one, of the least amount that
there is, overruns the store. -/
theorem store_endures_requests_till_overrun :
    let server : Server := ⟨.root, false, none⟩
    let post (target body : String) : Request :=
      ⟨"POST", target, [("Content-Type", "application/json")], body, false⟩
    let first : Visit := ⟨post "/users" "\x7b\"email\": \"a@x\", \"address\": \"addr\"\x7d",
      Service.new .empty 10 ⟨0, 0⟩⟩
    let second : Visit := ⟨post "/callbacks/offerwow"
      "\x7b\"external_key\": \"k\", \"user_id\": 1, \"amount\": 9223372036854775807\x7d",
      first.left server⟩
    let third : Visit := ⟨post "/callbacks/offerwow"
      "\x7b\"external_key\": \"l\", \"user_id\": 1, \"amount\": 1\x7d", second.left server⟩
    let before := (second.left server).store
    let after := (third.left server).store
    Endures server .empty [first, second] before ∧ before.disabled = false
      ∧ Endures server .empty [first, second, third] after
      ∧ ∃ v ∈ [first, second, third], v.Overruns server := by
  intro server post first second third before after
  have usable : Endures server .empty [first, second] before :=
    store_endures_requests .empty rfl rfl (.cons rfl (.cons rfl .nil))
  have overrun : Endures server .empty [first, second, third] after :=
    store_endures_requests .empty rfl rfl (.cons rfl (.cons rfl (.cons rfl .nil)))
  have on : before.disabled = false :=
    usable.lasts (by decide +kernel) Tables.giving_empty (by decide +kernel)
  exact ⟨usable, on, overrun, overrun.disabled_iff.1 (by decide +kernel)⟩

/-- **Requests can disable the store**: two notices of one user do, whose amounts come to more
than a balance can hold. -/
theorem requests_can_disable_store :
    ¬ ∀ (server : Server) (m m' : Memory) (log : List Visit), m.Reachable → m.disabled = false →
      m.armed = none → Session server m log m' → m'.disabled = false := by
  intro endures
  let server : Server := ⟨.root, false, none⟩
  let notice (body : String) : Request :=
    ⟨"POST", "/callbacks/offertoro", [("Content-Type", "application/json")], body, false⟩
  let m := Memory.empty.after [.request (.createUser ⟨"a@x", "addr", none, 300⟩ ⟨0, 0⟩)]
  let first : Visit := ⟨notice
    "\x7b\"external_key\": \"k\", \"user_id\": 1, \"amount\": 9223372036854775807\x7d",
    Service.new m 10 ⟨0, 0⟩⟩
  let second : Visit := ⟨notice
    "\x7b\"external_key\": \"l\", \"user_id\": 1, \"amount\": 1\x7d", first.left server⟩
  have on : (second.left server).store.disabled = false :=
    endures server m _ [first, second] (Memory.Reachable.empty.after _) rfl rfl
      (.cons rfl (.cons rfl .nil))
  have off : (second.left server).store.disabled = true := by decide +kernel
  exact absurd off (ne_true_of_eq_false on)

end Api

end RewardLedger
