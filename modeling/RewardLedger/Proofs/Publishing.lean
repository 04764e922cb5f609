import RewardLedger.Crediting
import RewardLedger.Proofs.History
import RewardLedger.Proofs.Solvency

/-!
# Every credit is published once

A call that credits commits to the store, then puts the income into the cache, and
then into the queue of the hub. Other calls come in between, so the three never
agree at one moment, and they are not in the same order either: what was committed
first may be told last.

What ties them together is the program of each call. So a turn is asked three
things, which rows it committed, what it remembered and what it queued, and a call
**tells** of its credits if, over all of its own turns, the three are the same. This
is shown for each of the two programs on its own, along any course of turns, and
carries over to the history, since every turn there belongs to a call.
-/

namespace RewardLedger

/-! ## What a turn does to the store, the cache and the hub -/

/-- What the feed is to say about an income, by the tables that it is recorded in. -/
def Tables.noticeOf (t : Tables) (i : Income) : IncomeNotice :=
  ⟨((t.users.get? i.user).map (·.address)).getD "", i.amount, i.source, i.createdAt⟩

/-- The payload that announces an income. -/
def IncomeNotice.payload (n : IncomeNotice) : String := (Frame.ofNotice n).text

/-- An effect that commits nothing, remembers nothing and queues nothing. -/
def Effect.Quiet : Effect → Prop
  | store op => ¬ op.IsWrite
  | cache (.remember _) => False
  | broadcast _ => False
  | _ => True

namespace Turn

variable {t : Turn}

/-- **The credits that the turn committed**, which are the rows that it added, as
the feed is to tell of them. -/
def credited (t : Turn) : List IncomeNotice :=
  (t.left.store.tables.incomes.drop t.found.store.tables.incomes.length).map
    t.found.store.tables.noticeOf

/-- **What the turn put into the latest incomes.** -/
def remembered (t : Turn) : List IncomeNotice :=
  match t.effect with
  | .cache (.remember n) => [n]
  | _ => []

/-- **The payloads that the turn put into the queue** of the hub. -/
def queued (t : Turn) : List String :=
  (t.left.hub.queue.drop t.found.hub.queue.length).filterMap (·.payload?)

/-- The service that the task found had a store that can be reached and a hub that
delivers. -/
structure Working (t : Turn) : Prop where
  store : t.found.store.Reachable
  hub : t.found.hub.stopped = false

/-- The turn told nobody anything, and there was nothing to tell. -/
structure Silent (t : Turn) : Prop where
  credited : t.credited = []
  remembered : t.remembered = []
  queued : t.queued = []

/-- A turn that leaves the incomes as they are commits no credit. -/
theorem credited_of_same
    (same : t.left.store.tables.incomes = t.found.store.tables.incomes) : t.credited = [] := by
  rw [credited, same, List.drop_length, List.map_nil]

/-- A turn that broadcasts nothing puts nothing into the queue. -/
theorem queued_of_same (same : t.left.hub.queue = t.found.hub.queue) : t.queued = [] := by
  rw [queued, same, List.drop_length, List.filterMap_nil]

/-- **A quiet effect makes for a silent turn.** -/
theorem silent_of_quiet (quiet : t.effect.Quiet) : t.Silent := by
  obtain ⟨task, found, e⟩ := t
  refine ⟨credited_of_same ?_, ?_, queued_of_same ?_⟩
  · show (found.handle Memory.answer e).2.store.tables.incomes = found.store.tables.incomes
    rw [Effect.store_handle]
    cases e with
    | store op => exact congrArg (·.tables.incomes) (Memory.answer_of_not_write _ quiet)
    | _ => rfl
  · cases e with
    | cache op =>
      cases op with
      | remember n => exact quiet.elim
      | _ => rfl
    | _ => rfl
  · show (found.handle Memory.answer e).2.hub.queue = found.hub.queue
    rw [Effect.queue_handle]
    cases e with
    | broadcast payload => exact quiet.elim
    | _ => rfl

variable (t) in
/-- **What a turn remembers** is the newest of the latest incomes. -/
theorem latest_left {past : List IncomeNotice}
    (known : t.found.cache.latest = past.reverse.take t.found.cache.capacity) :
    t.left.cache.latest = (past ++ t.remembered).reverse.take t.left.cache.capacity := by
  obtain ⟨task, found, e⟩ := t
  show (found.handle Memory.answer e).2.cache.latest
    = List.take (found.handle Memory.answer e).2.cache.capacity _
  rw [Effect.cache_handle]
  cases e with
  | cache op =>
    dsimp only at known ⊢
    rw [RateCache.latest_answer, RateCache.capacity_answer]
    cases op with
    | remember n =>
      -- forgetting the oldest now or earlier comes to the same
      show (n :: found.cache.latest).take _ = (past ++ [n]).reverse.take _
      rw [known, List.reverse_append]
      cases found.cache.capacity with
      | zero => rfl
      | succ room =>
        show n :: (List.take (room + 1) _).take room = n :: past.reverse.take room
        rw [List.take_take, Nat.min_eq_left (Nat.le_succ room)]
    | _ => rwa [show remembered _ = [] from rfl, List.append_nil]
  | _ => rwa [show remembered _ = [] from rfl, List.append_nil]

section Write

variable {task : Nat} {found : Service Memory} {op : StoreOp} (reach : found.store.Reachable)

include reach

/-- A write that is refused commits no credit. -/
theorem silent_of_refused (write : op.IsWrite) {cause : Error}
    (refused : (found.store.answer op).1 = .error (.error cause)) :
    Turn.Silent ⟨task, found, .store op⟩ := by
  refine ⟨credited_of_same ?_, rfl, queued_of_same rfl⟩
  show (found.store.answer op).2.tables.incomes = found.store.tables.incomes
  rw [reach.tables_of_refused write refused]

/-- **The receipt of a credit** is what the feed is to tell about it. -/
theorem credited_of_booked (on : found.store.disabled = false) {source : IncomeSource}
    {user amount offered : Int} {u : User} {now : Instant}
    (hu : found.store.tables.users.get? user = some u)
    (booked : (found.store.answer op).2.tables.incomes = found.store.tables.incomes
      ++ [found.store.tables.incomeOf source u amount offered now]) :
    Turn.credited ⟨task, found, .store op⟩
      = [IncomeNotice.ofReceipt (found.store.tables.receiptOf source u amount offered now)] := by
  have row : found.store.tables.users.get? u.id = some u := by
    rw [(reach.wellFormed on).users_keyed _ _ hu]
    exact hu
  show (((found.store.answer op).2.tables.incomes).drop _).map _ = _
  rw [booked, List.drop_left, List.map_singleton, Tables.noticeOf,
    show (found.store.tables.incomeOf source u amount offered now).user = u.id from rfl, row]
  rfl

/-- A reward that is credited is committed once. -/
theorem credited_of_reward {c : RewardCredit} {receipt : Receipt}
    (ok : (found.store.answer (.creditReward c)).1 = .ok receipt) :
    Turn.credited ⟨task, found, .store (.creditReward c)⟩ = [IncomeNotice.ofReceipt receipt] := by
  obtain ⟨on, u, hu, -, rfl, booked⟩ := reach.commits
    (show (StoreOp.creditReward c).IsWrite from trivial) ok
  exact credited_of_booked reach on hu (congrArg (·.incomes) booked)

/-- An event that is credited is committed once. -/
theorem credited_of_event {c : PartnerCredit} {receipt : Receipt}
    (ok : (found.store.answer (.creditPartner c)).1 = .ok receipt) :
    Turn.credited ⟨task, found, .store (.creditPartner c)⟩ = [IncomeNotice.ofReceipt receipt] := by
  obtain ⟨on, -, -, u, hu, rfl, booked⟩ := reach.commits
    (show (StoreOp.creditPartner c).IsWrite from trivial) ok
  exact credited_of_booked reach on hu (congrArg (·.incomes) booked)

end Write

end Turn

/-! ## Calls that tell of what they credit -/

/-- **A call told of its credits**: over all its turns, what it remembered and what
it queued is what it committed, and if it was refused there was nothing. -/
structure Told (turns : List Turn) (r : Outcome Income) : Prop where
  remembered : turns.flatMap (·.remembered) = turns.flatMap (·.credited)
  queued : turns.flatMap (·.queued) = (turns.flatMap (·.credited)).map (·.payload)
  refused : ∀ cause, r = .error (.error cause) → ∀ t ∈ turns, t.Silent

/-- Over all its turns, a call announced one income and credited nothing. -/
structure Announced (n : IncomeNotice) (turns : List Turn) : Prop where
  credited : turns.flatMap (·.credited) = []
  remembered : turns.flatMap (·.remembered) = [n]
  queued : turns.flatMap (·.queued) = [n.payload]

section Told

variable {before turns : List Turn} {r : Outcome Income} {n : IncomeNotice}

/-- Turns that are silent add nothing. -/
theorem flatMap_of_silent {α : Type} {f : Turn → List α} (silent : ∀ t ∈ before, f t = []) :
    (before ++ turns).flatMap f = turns.flatMap f := by
  rw [List.flatMap_append, List.flatMap_eq_nil_iff.2 silent, List.nil_append]

theorem Told.of_silent (silent : ∀ t ∈ turns, t.Silent) : Told turns r where
  remembered := by
    rw [List.flatMap_eq_nil_iff.2 fun t ht => (silent t ht).remembered,
      List.flatMap_eq_nil_iff.2 fun t ht => (silent t ht).credited]
  queued := by
    rw [List.flatMap_eq_nil_iff.2 fun t ht => (silent t ht).queued,
      List.flatMap_eq_nil_iff.2 fun t ht => (silent t ht).credited]
    rfl
  refused := fun _ _ => silent

theorem Told.after (told : Told turns r) (silent : ∀ t ∈ before, t.Silent) :
    Told (before ++ turns) r where
  remembered := by
    rw [flatMap_of_silent fun t ht => (silent t ht).remembered,
      flatMap_of_silent fun t ht => (silent t ht).credited, told.remembered]
  queued := by
    rw [flatMap_of_silent fun t ht => (silent t ht).queued,
      flatMap_of_silent fun t ht => (silent t ht).credited, told.queued]
  refused := fun cause h t ht =>
    (List.mem_append.1 ht).elim (silent t) (told.refused cause h t)

theorem Announced.after (announced : Announced n turns) (silent : ∀ t ∈ before, t.Silent) :
    Announced n (before ++ turns) where
  credited := by
    rw [flatMap_of_silent fun t ht => (silent t ht).credited, announced.credited]
  remembered := by
    rw [flatMap_of_silent fun t ht => (silent t ht).remembered, announced.remembered]
  queued := by
    rw [flatMap_of_silent fun t ht => (silent t ht).queued, announced.queued]

end Told

namespace ServiceStep

/-- **A program tells** of what it credits, along whatever turns it takes on a service
that works, unless it is abandoned. -/
def Tells (x : ServiceStep Income) : Prop :=
  ∀ turns r, (∀ t ∈ turns, t.Working) → x.run.Follows turns (.done r) →
    r ≠ .error .outOfRange → Told turns r

/-- **A program announces** an income and is not refused any more, along whatever turns
it takes on a service that works, unless it is abandoned. -/
def Announces (n : IncomeNotice) (x : ServiceStep Income) : Prop :=
  ∀ turns r, (∀ t ∈ turns, t.Working) → x.run.Follows turns (.done r) →
    r ≠ .error .outOfRange → Announced n turns ∧ ∃ i, r = .ok i

variable {α : Type} {n : IncomeNotice}

/-- What a program performs that is quiet is silent. -/
theorem silent_of_follows {x : ServiceStep α} {turns : List Turn} {o : Outcome α}
    (quiet : x.run.Performs Effect.Quiet) (h : x.run.Follows turns (.done o)) :
    ∀ t ∈ turns, t.Silent :=
  fun t ht => Turn.silent_of_quiet ((quiet.follows h).1 t ht)

/-- A refusal tells of nothing. -/
theorem tells_refuse (cause : Error) : (refuse cause).Tells := by
  intro turns r _ h _
  obtain ⟨rfl, -⟩ := Program.follows_done h
  exact .of_silent fun t ht => absurd ht List.not_mem_nil

/-- Whatever is quiet may come before. -/
theorem Tells.bind {x : ServiceStep α} {f : α → ServiceStep Income}
    (quiet : x.run.Performs Effect.Quiet) (tells : ∀ a, (f a).Tells) : (x >>= f).Tells := by
  intro turns r working h finite
  obtain ⟨fault, first, rfl⟩ | ⟨a, first, second, rfl, hfirst, hsecond⟩ := follows_bind h
  · exact .of_silent (silent_of_follows quiet first)
  · have told := tells a second r (fun t ht => working t (List.mem_append_right _ ht))
      hsecond finite
    exact told.after (silent_of_follows quiet hfirst)

/-- Whatever is quiet and cannot be refused may come before. -/
theorem Announces.bind {x : ServiceStep α} {f : α → ServiceStep Income}
    (quiet : x.run.Performs Effect.Quiet)
    (granted : ∀ turns fault, x.run.Follows turns (.done (.error fault)) → fault = .outOfRange)
    (announces : ∀ a, (f a).Announces n) : (x >>= f).Announces n := by
  intro turns r working h finite
  obtain ⟨fault, first, rfl⟩ | ⟨a, first, second, rfl, hfirst, hsecond⟩ := follows_bind h
  · rw [granted turns fault first] at finite
    exact absurd rfl finite
  · obtain ⟨announced, ended⟩ := announces a second r
      (fun t ht => working t (List.mem_append_right _ ht)) hsecond finite
    exact ⟨announced.after (silent_of_follows quiet hfirst), ended⟩

/-- **A credit that is announced once it is committed is told of.** -/
theorem tells_ask {op : StoreOp} (write : op.IsWrite) (notice : op.Answer → IncomeNotice)
    {f : op.Answer → ServiceStep Income}
    (commits : ∀ (task : Nat) (found : Service Memory) (a : op.Answer), found.store.Reachable →
      (found.store.answer op).1 = .ok a →
        Turn.credited ⟨task, found, .store op⟩ = [notice a])
    (announces : ∀ a, (f a).Announces (notice a)) : (ask op >>= f).Tells := by
  intro turns r working h finite
  obtain ⟨fault, first, rfl⟩ | ⟨a, first, second, rfl, hfirst, hsecond⟩ := follows_bind h
  · obtain ⟨task, found, rfl, refused⟩ := follows_ask first
    have reach := (working _ List.mem_cons_self).store
    cases fault with
    | outOfRange => exact absurd rfl finite
    | error cause =>
      exact .of_silent fun t ht =>
        List.mem_singleton.1 ht ▸ Turn.silent_of_refused reach write refused.symm
  · obtain ⟨task, found, rfl, committed⟩ := follows_ask hfirst
    have reach := (working _ List.mem_cons_self).store
    have credited := commits task found a reach committed.symm
    have queued : Turn.queued ⟨task, found, .store op⟩ = [] := Turn.queued_of_same rfl
    obtain ⟨announced, i, rfl⟩ := announces a second r
      (fun t ht => working t (List.mem_append_right _ ht)) hsecond finite
    -- one income was committed now, and is announced by what follows
    refine ⟨?_, ?_, nofun⟩
    · show [] ++ second.flatMap _ = Turn.credited _ ++ second.flatMap _
      rw [credited, announced.remembered, announced.credited]
      rfl
    · show Turn.queued _ ++ second.flatMap _ = (Turn.credited _ ++ second.flatMap _).map _
      rw [queued, credited, announced.queued, announced.credited]
      rfl

end ServiceStep

/-! ## The calls that credit -/

namespace Crediting

open ServiceStep

/-- **A call that credits.** -/
inductive Call : {α : Type} → Program Effect Effect.Reply α → Prop
  | draw (id : Int) (now : Instant) : Call (draw id now).run
  | creditPartner (source : IncomeSource) (key : String) (user amount : Int) :
    Call (creditPartner source key user amount).run

/-- Publishing takes two turns, one for the latest incomes and one for the queue. -/
theorem follows_publish {receipt : Receipt} {turns : List Turn} {r : Outcome Income}
    (h : (publish receipt >>= fun _ => pure receipt.income).run.Follows turns (.done r)) :
    r = .ok receipt.income ∧ ∃ (task task' : Nat) (found found' : Service Memory), turns
      = [⟨task, found, .cache (.remember (IncomeNotice.ofReceipt receipt))⟩,
        ⟨task', found', .broadcast (IncomeNotice.ofReceipt receipt).payload⟩] := by
  let n := IncomeNotice.ofReceipt receipt
  obtain ⟨task, found, rest, rfl, remembered⟩ := follows_perform_bind
    (e := .cache (.remember n)) (f := fun _ => perform (.broadcast n.payload) >>= fun _ =>
      pure receipt.income) h
  obtain ⟨task', found', rest, rfl, queued⟩ := follows_perform_bind remembered
  obtain ⟨rfl, same⟩ := Program.follows_done queued
  cases same
  exact ⟨rfl, task, task', found, found', rfl⟩

/-- Publishing a receipt announces it. -/
theorem announces_publish (receipt : Receipt) :
    (publish receipt >>= fun _ => pure receipt.income).Announces
      (IncomeNotice.ofReceipt receipt) := by
  intro turns r working h _
  let n := IncomeNotice.ofReceipt receipt
  obtain ⟨rfl, task, task', found, found', rfl⟩ := follows_publish h
  have hub : found'.hub.stopped = false :=
    (working _ (List.mem_cons_of_mem _ List.mem_cons_self)).hub
  have first : Turn.queued ⟨task, found, .cache (.remember n)⟩ = [] := Turn.queued_of_same rfl
  have second : Turn.queued ⟨task', found', .broadcast n.payload⟩ = [n.payload] := by
    show ((found'.hub.broadcast n.payload).queue.drop found'.hub.queue.length).filterMap _ = _
    rw [Hub.queue_broadcast hub, List.drop_left]
    rfl
  refine ⟨⟨?_, rfl, ?_⟩, _, rfl⟩
  · refine List.flatMap_eq_nil_iff.2 fun t ht => Turn.credited_of_same ?_
    obtain rfl | ht := List.mem_cons.1 ht
    · rfl
    · cases List.mem_singleton.1 ht
      rfl
  · show Turn.queued _ ++ (Turn.queued _ ++ []) = [n.payload]
    rw [first, second]
    rfl

/-- A number that is out of range does not refuse, it abandons. -/
theorem follows_ofRange {α : Type} {a? : Option α} {turns : List Turn} {fault : Fault}
    (h : (ofOutcome (.ofRange a?)).run.Follows turns (.done (.error fault))) :
    fault = .outOfRange := by
  obtain ⟨-, same⟩ := follows_ofOutcome h
  cases a? <;> cases same
  rfl

/-- What is announced may be added to the pool before. -/
theorem announces_addToPool {n : IncomeNotice} {now : Instant} {delta : Int}
    {f : PUnit → ServiceStep Income} (announces : (f ⟨⟩).Announces n) :
    (perform (.cache (.addToPool now delta)) >>= fun o => ofOutcome o >>= f).Announces n := by
  intro turns r working h finite
  obtain ⟨task, found, rest, rfl, added⟩ := follows_perform_bind h
  change (ofOutcome (found.cache.addToPool now delta).1 >>= f).run.Follows rest (.done r) at added
  rw [RateCache.addToPool_eq] at added
  cases hsum : Amount.add? (found.cache.poolAt now) delta with
  | none =>
    -- the sum is out of range, so the call is abandoned
    rw [hsum] at added
    obtain ⟨-, same⟩ := Program.follows_done added
    cases same
    exact absurd rfl finite
  | some total =>
    rw [hsum] at added
    obtain ⟨announced, ended⟩ := announces rest r
      (fun t ht => working t (List.mem_cons_of_mem _ ht)) added finite
    have silent : ∀ t ∈ [Turn.mk task found (.cache (.addToPool now delta))], t.Silent :=
      fun t ht => Turn.silent_of_quiet (by cases List.mem_singleton.1 ht; trivial)
    exact ⟨announced.after silent, ended⟩

/-- **A draw tells** of the reward that it credits. -/
theorem tells_draw (id : Int) (now : Instant) : (draw id now).Tells := by
  refine Tells.bind (performs_ask not_false) fun user => ?_
  refine Tells.bind (performs_requireDue id user now) fun _ => ?_
  refine Tells.bind (performs_perform trivial) fun policy => ?_
  refine Tells.bind (performs_drawAmount policy trivial (fun _ => trivial) fun _ => trivial)
    fun amount => ?_
  refine tells_ask ?_ IncomeNotice.ofReceipt
    (fun _ _ _ reach ok => Turn.credited_of_reward reach ok) fun receipt => ?_
  · trivial
  refine Announces.bind (performs_ofOutcome _) (fun _ _ => follows_ofRange) fun paid => ?_
  exact announces_addToPool (announces_publish receipt)

/-- **A delivery tells** of the event that it credits. -/
theorem tells_creditPartner (source : IncomeSource) (key : String) (user amount : Int) :
    (creditPartner source key user amount).Tells := by
  obtain ⟨cause, -, refused⟩ | ⟨-, -, goes⟩ := creditPartner_cases source key user amount
  · rw [refused]
    exact tells_refuse cause
  · rw [goes]
    refine Tells.bind (performs_perform trivial) fun policy => ?_
    refine Tells.bind (performs_perform trivial) fun now => ?_
    refine tells_ask ?_ IncomeNotice.ofReceipt
      (fun _ _ _ reach ok => Turn.credited_of_event reach ok) fun receipt => ?_
    · trivial
    · exact announces_publish receipt

/-- **Every call that credits tells of its credits**, unless it is abandoned. -/
theorem Call.told {program : Program Effect Effect.Reply (Outcome Income)} (call : Call program)
    {turns : List Turn} {r : Outcome Income} (working : ∀ t ∈ turns, t.Working)
    (follows : program.Follows turns (.done r)) (finite : r ≠ .error .outOfRange) :
    Told turns r := by
  cases call with
  | draw id now => exact tells_draw id now turns r working follows finite
  | creditPartner source key user amount =>
    exact tells_creditPartner source key user amount turns r working follows finite

/-- **A program publishes** the income that it returns, along whatever turns it takes: in the
end it puts it into the latest incomes, and then into the queue. -/
def Publishes (x : ServiceStep Income) : Prop :=
  ∀ turns income, x.run.Follows turns (.done (.ok income)) →
    ∃ (receipt : Receipt) (before : List Turn) (task task' : Nat) (found found' : Service Memory),
      receipt.income = income ∧ turns = before
        ++ [⟨task, found, .cache (.remember (IncomeNotice.ofReceipt receipt))⟩,
          ⟨task', found', .broadcast (IncomeNotice.ofReceipt receipt).payload⟩]

/-- Whatever comes before, the end stays as it is. -/
theorem Publishes.bind {α : Type} {x : ServiceStep α} {f : α → ServiceStep Income}
    (publishes : ∀ a, Publishes (f a)) : Publishes (x >>= f) := by
  intro turns income h
  obtain ⟨a, first, second, rfl, -, rest⟩ := follows_bind_ok h
  obtain ⟨receipt, before, task, task', found, found', same, rfl⟩ := publishes a second income rest
  exact ⟨receipt, first ++ before, task, task', found, found', same,
    (List.append_assoc ..).symm⟩

theorem publishes_publish (receipt : Receipt) :
    Publishes (publish receipt >>= fun _ => pure receipt.income) := by
  intro turns income h
  obtain ⟨same, task, task', found, found', rfl⟩ := follows_publish h
  cases same
  exact ⟨receipt, [], task, task', found, found', rfl, rfl⟩

/-- **Every call that credits publishes** the income that it returns. -/
theorem Call.publishes {program : Program Effect Effect.Reply (Outcome Income)}
    (call : Call program) {turns : List Turn} {income : Income}
    (follows : program.Follows turns (.done (.ok income))) :
    ∃ (receipt : Receipt) (before : List Turn) (task task' : Nat) (found found' : Service Memory),
      receipt.income = income ∧ turns = before
        ++ [⟨task, found, .cache (.remember (IncomeNotice.ofReceipt receipt))⟩,
          ⟨task', found', .broadcast (IncomeNotice.ofReceipt receipt).payload⟩] := by
  cases call with
  | draw id now =>
    refine Publishes.bind (x := ask _) (fun user => .bind fun _ => .bind fun policy => .bind
      fun amount => .bind fun receipt => .bind fun _ => .bind fun _ => .bind fun _ => ?_)
      turns income follows
    exact publishes_publish receipt
  | creditPartner source key user amount =>
    obtain ⟨cause, -, refused⟩ | ⟨-, -, goes⟩ := creditPartner_cases source key user amount
    · rw [refused] at follows
      cases (Program.follows_done follows).2
    · rw [goes] at follows
      refine Publishes.bind (fun policy => .bind fun now => .bind fun receipt => ?_)
        turns income follows
      exact publishes_publish receipt

end Crediting

/-! ## Histories of crediting -/

/-- **Calls that credit take turns**, on a service that has published nothing yet.
Around them the store may be given any command, the snapshot may be refreshed and the
queue delivered. Only the latest incomes are left alone, and the hub is not stopped. -/
def Setting.crediting : Setting where
  Initial s := s.store.Reachable ∧ s.cache.latest = [] ∧ s.hub.stopped = false
  Begins p := Crediting.Call p
  Around s s' := s.Disturbed s' ∧ s'.cache.latest = s.cache.latest
    ∧ s'.cache.capacity = s.cache.capacity ∧ s'.hub.stopped = s.hub.stopped
  reachable_of_initial := fun _ new => new.1
  disturbed_of_around := fun _ _ aside => aside.1

/-- The task returned with an outcome. -/
def Task.Returned (task : Task) (r : Outcome Income) : Prop :=
  ∃ began, task = ⟨Outcome Income, began, .done r⟩

namespace History

/-- The credits that were committed, in the order in which they were. -/
def credited (h : History) : List IncomeNotice := h.turns.flatMap (·.credited)

/-- What was put into the latest incomes, oldest first. -/
def remembered (h : History) : List IncomeNotice := h.turns.flatMap (·.remembered)

/-- The payloads that were put into the queue of the hub, oldest first. -/
def queued (h : History) : List String := h.turns.flatMap (·.queued)

/-- **Every credit is published once, and nothing else is.** -/
structure PublishesCredits (h : History) : Prop where
  queued : h.queued.Perm (h.credited.map (·.payload))
  remembered : h.remembered.Perm h.credited
  /-- A call that was refused had nothing to tell. -/
  refused : ∀ n task cause, h.pool.tasks[n]? = some task →
    task.Returned (.error (.error cause)) → ∀ t ∈ h.turnsOf n, t.Silent
  /-- The latest incomes are those that were published last. -/
  latest : h.pool.service.cache.latest
    = h.remembered.reverse.take h.pool.service.cache.capacity
  /-- Calls that come one after another publish in the order of their commits. -/
  inOrder : h.Sequential →
    h.remembered = h.credited ∧ h.queued = h.credited.map (·.payload)

section Reachable

variable {h : History} (reach : h.Reachable .crediting)

include reach

/-- Every task found a service that works. -/
theorem Reachable.working {t : Turn} (ht : t ∈ h.turns) : t.Working where
  store := reach.found ht
  hub := (reach.invariant (P := fun s => s.hub.stopped = false) (fun _ new => new.2.2)
    (fun s e working => (e.stopped_handle s).trans working)
    (fun _ _ working aside => aside.2.2.2.trans working)).2 t ht

/-- A call that returned told of its credits. -/
theorem Reachable.told {n : Nat} {task : Task} {r : Outcome Income}
    (hn : h.pool.tasks[n]? = some task) (returned : task.Returned r)
    (finite : r ≠ .error .outOfRange) : Told (h.turnsOf n) r := by
  obtain ⟨began, rfl⟩ := returned
  obtain ⟨begins, follows⟩ := reach.follows hn
  exact begins.told (fun t ht => reach.working (List.mem_filter.1 ht).1) follows finite

/-- **The latest incomes are what was remembered last**, as many as there is room
for. -/
theorem Reachable.latest : h.pool.service.cache.latest
    = h.remembered.reverse.take h.pool.service.cache.capacity := by
  induction reach with
  | new initial =>
    rw [initial.2.1]
    exact List.take_nil.symm
  | @step h _ reach step ih =>
    cases step with
    | start => exact ih
    | @act n α began e next calls =>
      let t : Turn := ⟨n, h.pool.service, e⟩
      have more : (h.turns ++ [t]).flatMap (·.remembered) = h.remembered ++ t.remembered := by
        rw [List.flatMap_append, List.flatMap_singleton]
        rfl
      show t.left.cache.latest
        = ((h.turns ++ [t]).flatMap (·.remembered)).reverse.take t.left.cache.capacity
      rw [more]
      exact t.latest_left ih
    | around aside =>
      obtain ⟨-, latest, capacity, -⟩ := aside
      show _ = h.remembered.reverse.take _
      rw [latest, capacity]
      exact ih

end Reachable

end History

end RewardLedger
