import RewardLedger.Proofs.History
import RewardLedger.Proofs.People
import RewardLedger.Proofs.Requests.Asking

/-!
# Referrals that requests build up

A sign-up looks its referrer up first and is registered later. In between others may do
anything, and when it is registered the store takes the referrer as it is given. That
the referrals are a forest all the same rests on what the sign-up was told: whoever was
seen to be there still is, and has a smaller identifier than anybody who is yet to come.

So a program **vouches** for the referrers that it names, if each of them is one of whom
it knows (`Program.Vouches`), and it knows of whomever the store has shown to it on the
way. A sign-up vouches for its referrer, and every other request asks for no sign-up. As
nobody who is there ever goes, what a task knows stays true while it waits for its turn,
and every turn leaves the referrals a forest (`History.Reachable.founded`).

In a forest the referrer of a credit has a row of its own. Which user a request credits,
if it credits any, is settled by what it orders (`Api.Route.Pays.exists_user`).
-/

namespace RewardLedger

/-! ## Vouching -/

/-- **Whom a reply shows** to be there. -/
def Effect.Shows : (e : Effect) → e.Reply → Int → Prop
  | .store (.user _), reply, id => ∃ u, reply = .ok u ∧ u.id = id
  | _, _, _ => False

/-- **A program vouches for the referrers that it names**: they are all known to it, from
the beginning or by a reply. -/
def Program.Vouches {α : Type} : Program Effect Effect.Reply α → (Int → Prop) → Prop
  | .done _, _ => True
  | .call e next, known => e.AsksOnly (StoreOp.Vouched known)
    ∧ ∀ reply, (next reply).Vouches fun id => known id ∨ e.Shows reply id

namespace Program

variable {α β : Type} {p : Program Effect Effect.Reply α} {known known' : Int → Prop}

/-- Whoever knows more can vouch for more. -/
theorem Vouches.mono (h : p.Vouches known) (more : ∀ id, known id → known' id) :
    p.Vouches known' := by
  induction p generalizing known known' with
  | done a => trivial
  | call e next ih =>
    obtain ⟨vouched, rest⟩ := h
    refine ⟨?_, fun reply => ih reply (rest reply) fun id => .imp_left (more id)⟩
    cases e with
    | store op =>
      cases op with
      | createUser new now => exact fun r hr => more r (vouched r hr)
      | _ => trivial
    | _ => trivial

/-- A program that asks for no sign-up vouches for nobody. -/
theorem Performs.vouches (h : p.Performs (Effect.AsksOnly fun op => ¬ op.Registers)) :
    p.Vouches known := by
  induction p generalizing known with
  | done a => trivial
  | call e next ih =>
    refine ⟨?_, fun reply => ih reply (h.2 reply)⟩
    cases e with
    | store op => exact op.vouched_of_not_registers h.1 known
    | _ => trivial

/-- A program in two parts vouches if both parts do. -/
theorem Vouches.bind {f : α → Program Effect Effect.Reply β} (hp : p.Vouches known)
    (hf : ∀ a, (f a).Vouches known) : (p.bind f).Vouches known := by
  induction p generalizing known with
  | done a => exact hf a
  | call e next ih =>
    exact ⟨hp.1, fun reply => ih reply (hp.2 reply) fun a => (hf a).mono fun _ => .inl⟩

end Program

/-- So does one that may be refused. -/
theorem ServiceStep.vouches_bind {α β : Type} {x : ServiceStep α} {f : α → ServiceStep β}
    {known : Int → Prop} (hx : x.run.Vouches known) (hf : ∀ a, (f a).run.Vouches known) :
    (x >>= f).run.Vouches known := by
  refine Program.Vouches.bind (p := x.run) hx fun o => ?_
  cases o with
  | ok a => exact hf a
  | error fault => trivial

namespace Api

namespace Handler

variable {α β : Type} {known : Int → Prop}

/-- **A handler vouches for the referrers that it names.** -/
structure Vouches (known : Int → Prop) (h : Handler α) : Prop where
  program : h.run.run.Vouches known

theorem Vouches.bind {x : Handler α} {f : α → Handler β} (hx : x.Vouches known)
    (hf : ∀ a, (f a).Vouches known) : (x >>= f).Vouches known := by
  refine ⟨ServiceStep.vouches_bind (x := x.run) hx.program fun o => ?_⟩
  cases o with
  | ok a => exact (hf a).program
  | error why => trivial

/-- A handler that asks for no sign-up vouches for nobody. -/
theorem Performs.vouches {P : α → Prop} {h : Handler α}
    (never : h.Performs (Effect.AsksOnly fun op => ¬ op.Registers) P) : h.Vouches known :=
  ⟨never.program.performs.vouches⟩

/-- A handler that checks something first vouches for what follows. -/
theorem vouches_check {c : Prop} [Decidable c] (f : Failure) {next : PUnit → Handler β}
    (passed : (next ⟨⟩).Vouches known) :
    (if c then fail f >>= next else next ⟨⟩ : Handler β).Vouches known := by
  split
  · exact ⟨trivial⟩
  · exact passed

/-- **A referrer that is looked up** is known from then on, or it is dropped. -/
theorem vouches_knownReferrer_bind {named : Option Int} {f : Option Int → Handler β}
    (hf : ∀ referrer (known' : Int → Prop), (∀ r, referrer = some r → known' r) →
      (f referrer).Vouches known') : (knownReferrer named >>= f).Vouches known := by
  cases named with
  | none => exact hf none known nofun
  | some id =>
    refine ⟨⟨trivial, fun reply => ?_⟩⟩
    cases reply with
    | ok u => exact (hf (some u.id) _ fun r hr => .inr ⟨u, rfl, Option.some.inj hr⟩).program
    | error fault =>
      cases fault with
      | outOfRange => trivial
      | error cause =>
        cases cause with
        | notFound what => exact (hf none _ nofun).program
        | _ => trivial

/-- **A sign-up vouches for its referrer.** -/
theorem vouches_signup (form : Signup) : (signup form).Vouches known := by
  unfold signup
  refine vouches_check _ (vouches_check _ (vouches_check _ ?_))
  refine vouches_knownReferrer_bind fun referrer known' named => ?_
  have looked : (perform Effect.now).Vouches known' :=
    Performs.vouches (P := fun _ => True) (performs_perform trivial)
  refine looked.bind fun now => ⟨⟨named, fun reply => ?_⟩⟩
  obtain (_ | _) | _ := reply <;> trivial

/-- **Every request vouches for the referrers that it names.** -/
theorem vouches_handle (server : Server) {found : Found} {r : Request}
    (allowed : r.method ∈ found.route.methods) : (handle server found r).Vouches known := by
  have asks := performs_handle server allowed
  obtain ⟨route, captured⟩ := found
  by_cases signs : route = .users
  · subst signs
    have read : (body Signup.reader r).Vouches known := (performs_body _ r).vouches
    exact read.bind fun form => (vouches_signup form).bind fun u => ⟨trivial⟩
  · -- what the request orders is no sign-up
    refine Performs.vouches (asks.mono fun e writes => ?_)
    cases e with
    | store op =>
      cases op with
      | createUser =>
        cases writes trivial with
        | signup users => exact absurd users signs
      | _ => exact not_false
    | _ => trivial

end Handler

/-- **A server vouches for the referrers that it lets anybody name.** -/
theorem vouches_respond (server : Server) (r : Request) (known : Int → Prop) :
    (server.respond r).run.Vouches known := by
  obtain ⟨response, same⟩ | ⟨found, finish, -, allowed, same⟩ := server.respond_cases r
  · rw [same]
    trivial
  · rw [same]
    have handled : (handle server found r).Vouches known := Handler.vouches_handle server allowed
    refine ServiceStep.vouches_bind (ServiceStep.vouches_bind handled.program fun o => ?_)
      fun _ => trivial
    cases o <;> trivial

/-- **A request is served.** -/
inductive Call : {α : Type} → Program Effect Effect.Reply α → Prop
  | respond (server : Server) (r : Request) : Call (server.respond r).run

end Api

/-! ## Histories of requests -/

/-- **Requests take turns**, on a service that began with an empty store. Around them
anything may be done that signs nobody up. -/
def Setting.requests : Setting where
  Initial s := s.store = .empty
  Begins p := Api.Call p
  Around s s' := s'.store = s.store ∨ ∃ c : Memory.Command,
    c.AsksOnly (fun op => ¬ op.Registers) ∧ s'.store = (s.store.perform c).2
  reachable_of_initial := Service.reachable_of_empty
  disturbed_of_around := by
    rintro s s' (same | ⟨c, -, commanded⟩)
    · exact .inl same
    · exact .inr ⟨c, commanded⟩

namespace Memory

variable {m : Memory} (reach : m.Reachable)

include reach

/-- No command but a sign-up changes who is there. -/
theorem Reachable.people_perform {c : Command} (never : c.AsksOnly fun op => ¬ op.Registers) :
    (m.perform c).2.tables.people = m.tables.people := by
  cases c with
  | request op => exact reach.people_answer never
  | addPolicy p => exact transact_write_keeps (P := (·.people = _)) rfl rfl
  | addBand b => exact transact_write_keeps (P := (·.people = _)) rfl rfl
  | arm p => rfl

end Memory

namespace Service

variable {s : Service Memory} {e : Effect} (reach : s.store.Reachable)

include reach

/-- An effect that vouches keeps the referrals a forest. -/
theorem forest_handle (forest : s.store.tables.Forest)
    (vouched : e.AsksOnly (StoreOp.Vouched s.store.tables.Has)) :
    (s.handle Memory.answer e).2.store.tables.Forest := by
  rw [Effect.store_handle]
  cases e with
  | store op => exact reach.forest_answer forest vouched
  | _ => exact forest

/-- Whoever is there stays there. -/
theorem has_handle {id : Int} (there : s.store.tables.Has id) :
    (s.handle Memory.answer e).2.store.tables.Has id := by
  rw [Effect.store_handle]
  cases e with
  | store op => exact reach.has_answer there op
  | _ => exact there

omit reach in
/-- Whoever a reply shows is there. -/
theorem has_of_shows (keyed : s.store.tables.UsersKeyed) {id : Int}
    (shows : e.Shows (s.handle Memory.answer e).1 id) : s.store.tables.Has id := by
  cases e with
  | store op =>
    cases op with
    | user asked =>
      obtain ⟨u, replied, rfl⟩ := shows
      have hu := (Memory.user_eq_ok_iff.1 replied).2
      rw [keyed _ _ hu]
      exact ⟨u, hu⟩
    | _ => exact shows.elim
  | _ => exact shows.elim

end Service

/-- The request is for a credit of a user. -/
def StoreOp.Pays : StoreOp → Int → Prop
  | creditReward c, id => c.user = id
  | creditPartner c, id => c.user = id
  | _, _ => False

namespace Api

/-- The route is for credits: for scheduled rewards, or for the events of partners. -/
def Route.Pays : Route → Prop
  | rewards _ | callbacks _ => True
  | _ => False

variable {found : Found} {r : Request} {op op' : StoreOp} {user : Int}

/-- A route that is for credits orders nothing else. -/
theorem Orders.exists_pays (h : Orders found r op) (pays : found.route.Pays) :
    ∃ user, op.Pays user := by
  cases h with
  | reward | event => exact ⟨_, rfl⟩
  | signup route | payout route | batch route =>
    rw [route] at pays
    exact pays.elim

/-- Whatever a request orders, it is for the same user. -/
theorem Orders.pays (h : Orders found r op) (h' : Orders found r op') (pays : op.Pays user) :
    op'.Pays user := by
  cases h with
  | reward route named read =>
    cases h' with
    | reward route' named' read' =>
      cases route.symm.trans route'
      cases (named.symm.trans named' : some [_] = some [_])
      exact (Option.some.inj (read'.symm.trans read)).trans pays
    | signup other | event other | payout other | batch other => cases route.symm.trans other
  | event route named known read =>
    cases h' with
    | event route' named' known' read' =>
      cases read.symm.trans read'
      exact pays
    | signup other | reward other | payout other | batch other => cases route.symm.trans other
  | _ => exact pays.elim

/-- **A request for a credit is for one user.** -/
theorem Route.Pays.exists_user (pays : found.route.Pays) (r : Request) :
    ∃ user, ∀ op, Orders found r op → op.Pays user := by
  by_cases ordered : ∃ op, Orders found r op
  · obtain ⟨op, ordered⟩ := ordered
    obtain ⟨user, credited⟩ := ordered.exists_pays pays
    exact ⟨user, fun op' ordered' => ordered.pays ordered' credited⟩
  · exact ⟨0, fun op ordered' => absurd ⟨op, ordered'⟩ ordered⟩

end Api

/-- **A turn credited a user**, offered a share for the referrer, and recorded an
income. -/
inductive Turn.Credits : Turn → Int → Int → Income → Prop
  | reward {task : Nat} {found : Service Memory} {c : RewardCredit} {receipt : Receipt}
    (committed : (found.store.answer (.creditReward c)).1 = .ok receipt) :
    Credits ⟨task, found, .store (.creditReward c)⟩ c.user c.referrerAmount receipt.income
  | event {task : Nat} {found : Service Memory} {c : PartnerCredit} {receipt : Receipt}
    (committed : (found.store.answer (.creditPartner c)).1 = .ok receipt) :
    Credits ⟨task, found, .store (.creditPartner c)⟩ c.user c.referrerAmount receipt.income

/-- A credit pays upward if the referrals that it found are a forest. -/
theorem Turn.Credits.paysUpward {t : Turn} {user offered : Int} {i : Income}
    (credits : t.Credits user offered i) (reach : t.found.store.Reachable)
    (forest : t.found.store.tables.Forest) :
    t.found.store.tables.PaysUpward user offered i t.left.store.tables := by
  cases credits with
  | @reward task found c receipt committed =>
    have write : (StoreOp.creditReward c).IsWrite := trivial
    exact forest.paysUpward_creditReward (reach.commits write committed).2
  | @event task found c receipt committed =>
    have write : (StoreOp.creditPartner c).IsWrite := trivial
    exact forest.paysUpward_creditPartner (reach.commits write committed).2

/-- **A turn that writes nothing but a credit of a user** credited that user, or left the
rows alone, unless it was abandoned. -/
theorem Turn.credits_or_same {t : Turn} (reach : t.found.store.Reachable) {user : Int}
    (pays : t.effect.WritesOnly (·.Pays user)) :
    (∃ offered i, t.Credits user offered i) ∨ t.left.store.disabled = true
      ∨ t.left.store.tables.users = t.found.store.tables.users := by
  have refused {found : Service Memory} {op : StoreOp} {task : Nat}
      (reach : found.store.Reachable) (write : op.IsWrite) {fault : Fault}
      (replied : (found.store.answer op).1 = .error fault) :
      (Turn.mk task found (.store op)).left.store.disabled = true
        ∨ (Turn.mk task found (.store op)).left.store.tables.users
          = found.store.tables.users := by
    cases fault with
    | outOfRange => exact .inl ((reach.disabled_perform (.request op)).2 (.inr replied))
    | error cause => exact .inr (congrArg Tables.users (reach.tables_of_refused write replied))
  obtain ⟨task, found, e⟩ := t
  cases e with
  | store op =>
    by_cases write : op.IsWrite
    · cases op with
      | creditReward c =>
        cases (pays write : c.user = user)
        cases replied : (found.store.answer (.creditReward c)).1 with
        | ok receipt => exact .inl ⟨_, _, .reward replied⟩
        | error fault => exact .inr (refused reach write replied)
      | creditPartner c =>
        cases (pays write : c.user = user)
        cases replied : (found.store.answer (.creditPartner c)).1 with
        | ok receipt => exact .inl ⟨_, _, .event replied⟩
        | error fault => exact .inr (refused reach write replied)
      | _ => exact (pays write).elim
    · refine .inr (.inr ?_)
      show (found.store.answer op).2.tables.users = found.store.tables.users
      rw [Memory.answer_of_not_write _ write]
  | _ => exact .inr (.inr (congrArg (·.tables.users) (Effect.store_handle _ found)))

namespace History

/-- **The referrals of a history are founded**: they are a forest now and were one before
each turn, and every task vouches for the referrers that it will name, knowing of those
who are there. -/
structure Founded (h : History) : Prop where
  now : h.pool.service.store.tables.Forest
  before : ∀ t ∈ h.turns, t.found.store.tables.Forest
  vouches : ∀ task ∈ h.pool.tasks, task.rest.Vouches h.pool.service.store.tables.Has

/-- **The referrals of a history form a forest**, and credits pay along them. -/
structure FormsForest (h : History) : Prop where
  forest : h.pool.service.store.tables.Forest
  acyclic : ∀ id, ¬ Relation.TransGen h.pool.service.store.tables.Refers id id
  credits : ∀ t ∈ h.turns, ∀ user offered i, t.Credits user offered i →
    t.found.store.tables.PaysUpward user offered i t.left.store.tables
  /-- A request for a credit is for one user, and changes no row but by crediting that
  user, unless it is abandoned. -/
  requests : ∀ n server r rest found,
    h.pool.tasks[n]? = some ⟨Outcome Api.Response, (Api.Server.respond server r).run, rest⟩ →
    Api.findRoute? server.base server.metrics r.path = some found → found.route.Pays →
    ∃ user, (∀ op, Api.Orders found r op → op.Pays user) ∧ ∀ t ∈ h.turnsOf n,
      (∃ offered i, t.Credits user offered i) ∨ t.left.store.disabled = true
        ∨ t.left.store.tables.users = t.found.store.tables.users

section Reachable

variable {h : History} (reach : h.Reachable .requests)

include reach

/-- **The referrals are founded in every history of requests.** -/
theorem Reachable.founded : h.Founded := by
  induction reach with
  | @new s new =>
    have empty : s.store = .empty := new
    refine ⟨?_, fun t ht => absurd ht List.not_mem_nil, fun task ht => absurd ht List.not_mem_nil⟩
    show s.store.tables.Forest
    rw [empty]
    exact Tables.forest_empty
  | @step h _ reach step ih =>
    cases step with
    | start begins =>
      refine ⟨ih.now, ih.before, fun task ht => ?_⟩
      rcases List.mem_append.1 ht with ht | ht
      · exact ih.vouches task ht
      · cases List.mem_singleton.1 ht
        cases begins with
        | respond server r => exact Api.vouches_respond server r _
    | @act n α began e next calls =>
      obtain ⟨vouched, rest⟩ := ih.vouches _ (List.mem_of_getElem? calls)
      refine ⟨Service.forest_handle reach.store ih.now vouched, fun t ht => ?_, fun task ht => ?_⟩
      · rcases List.mem_append.1 ht with ht | ht
        · exact ih.before t ht
        · cases List.mem_singleton.1 ht
          exact ih.now
      · rcases List.mem_or_eq_of_mem_set ht with ht | rfl
        · -- those who wait know of nobody who is gone since
          exact (ih.vouches task ht).mono fun id => Service.has_handle reach.store
        · refine (rest _).mono fun id known => Service.has_handle reach.store ?_
          exact known.elim (fun there => there) (Service.has_of_shows ih.now.keyed)
    | @around s aside =>
      have same : s.store.tables.people = h.pool.service.store.tables.people := by
        obtain same | ⟨c, never, commanded⟩ := aside
        · rw [same]
        · rw [commanded]
          exact reach.store.people_perform never
      refine ⟨ih.now.of_people same, ih.before, fun task ht => ?_⟩
      exact (ih.vouches task ht).mono fun id => (Tables.has_iff_of_people same).2

/-- **Requests build up a forest.** In every history of requests, in whatever order they
took turns and whatever came of them: everybody who named a referrer has one who is there
and has a smaller identifier, so no chain of referrals comes back to where it began, not
even to the same user at once. And every reward or event of a partner that was credited
changed no row but its user's own and, if the user has a referrer, the row of that other
user, who was there and was paid the share that was offered, which is the one that the
income records. A request for a credit changes rows in no other way, and it credits nobody
but the one user whom it is for. -/
theorem referrals_form_forest : h.FormsForest := by
  have founded := reach.founded
  refine ⟨founded.now, founded.now.acyclic, fun t ht user offered i credits =>
    credits.paysUpward (reach.found ht) (founded.before t ht), ?_⟩
  intro n server r rest found hn route pays
  obtain ⟨user, orders⟩ := pays.exists_user r
  refine ⟨user, orders, fun t ht => ?_⟩
  -- whatever it was told, the request asked for no write but the one that it orders
  have asks := ((Api.performs_respond server r).follows (reach.follows hn).2).1 t ht
  refine Turn.credits_or_same (reach.found (List.mem_filter.1 ht).1) ?_
  cases he : t.effect with
  | store op =>
    intro write
    rw [he] at asks
    obtain ⟨found', route', ordered⟩ := asks write
    cases route.symm.trans route'
    exact orders op ordered
  | _ => trivial

end Reachable

/-- Of three sign-ups one names nobody, one names the first, and one names somebody who is
not there yet, and is registered without a referrer. An event is credited to the second,
and the first gets a share. -/
theorem referrals_form_forest_of_sign_ups :
    ∃ h : History, h.Reachable .requests
      ∧ h.pool.service.store.tables.users.values.map (fun u => (u.id, u.referrer, u.balance))
        = [(1, none, 25), (2, some 1, 50), (3, none, 0)]
      ∧ h.FormsForest := by
  let server : Api.Server := ⟨.root, false, none⟩
  let post (target body : String) : Api.Request :=
    ⟨"POST", target, [("Content-Type", "application/json")], body, false⟩
  -- half of every credit goes to the referrer
  let policy : RewardPolicy := ⟨0, ⟨0x3FE0000000000000⟩, .epoch⟩
  let s : Service Memory := { Service.new .empty 10 ⟨0, 0⟩ with cache.policy := policy }
  have started : History.Reachable .requests ⟨⟨s, []⟩, []⟩ := .new rfl
  have begun := ((started.step (.start (.respond server (post "/users"
      "\x7b\"email\": \"a@x\", \"address\": \"addr\"\x7d")))).step
    (.start (.respond server (post "/users"
      "\x7b\"email\": \"b@x\", \"address\": \"addr\", \"referer_id\": 1\x7d")))).step
    (.start (.respond server (post "/users"
      "\x7b\"email\": \"c@x\", \"address\": \"addr\", \"referer_id\": 7\x7d")))
  have registered := ((begun.run (n := 0) rfl).run (n := 1) rfl).run (n := 2) rfl
  have credited := (registered.step (.start (.respond server (post "/callbacks/offerwow"
    "\x7b\"external_key\": \"k\", \"user_id\": 2, \"amount\": 50\x7d")))).run (n := 3) rfl
  exact ⟨_, credited, by decide +kernel, referrals_form_forest credited⟩

end History

end RewardLedger
