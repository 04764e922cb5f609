import RewardLedger.Proofs.Database.Row
import RewardLedger.Proofs.DayPool
import RewardLedger.Store.Script

/-!
# A refresh that fails

A refresh reads the snapshot from the store part by part, and puts each part into the
cache as soon as it was read. When a read fails the refresh is over, and whatever was
put before stays. The store may be any store here: which reads fail, and what the
others answer, is up to it.

A refresh is a list of parts (`refresh_eq_renew`), and one induction over that list says
where it stops (`Part.renew_ends`). The total of the day is read last and the latest
incomes are not read at all, so a refresh that fails keeps both. It keeps the whole
snapshot exactly if each part that was read before the failure was what the snapshot had
(`takeAll_eq_iff`): parts are independent of each other, so nothing that one of them
changes is changed back by another.
-/

namespace RewardLedger

open ServiceStep

/-! ## Services with any store -/

namespace ServiceStep

variable {σ α β : Type} (answer : σ → (op : StoreOp) → op.Reply × σ)

/-- A program is served to its end on a service with any store. -/
def serveOn (x : ServiceStep α) (s : Service σ) : Outcome α × Service σ :=
  x.run.run (Service.handle answer) s

/-- A program in two parts is served in two parts. -/
theorem serveOn_bind (x : ServiceStep α) (f : α → ServiceStep β) (s : Service σ) :
    (x >>= f).serveOn answer s = match x.serveOn answer s with
      | (.ok a, s') => (f a).serveOn answer s'
      | (.error fault, s') => (.error fault, s') := by
  have parts : (x >>= f).serveOn answer s = _ :=
    Program.run_bind (Service.handle answer) x.run _ s
  rw [parts]
  show _ = match x.run.run (Service.handle answer) s with
    | (.ok a, s') => (f a).serveOn answer s'
    | (.error fault, s') => (.error fault, s')
  rcases x.run.run (Service.handle answer) s with ⟨_ | _, _⟩ <;> rfl

/-- Asking the store comes to what the store answers. -/
theorem serveOn_ask (op : StoreOp) (s : Service σ) :
    (ask op).serveOn answer s
      = ((answer s.store op).1, { s with store := (answer s.store op).2 }) := by
  show (ofOutcome (answer s.store op).1).serveOn answer _ = _
  cases (answer s.store op).1 <;> rfl

end ServiceStep

namespace RateCache

/-! ## The parts of the snapshot -/

/-- **A part of the snapshot** that a refresh takes from the store. -/
inductive Part where
  | policy
  | bands (level : PoolLevel)
  | dayTotal
  deriving DecidableEq

namespace Part

/-- The parts, in the order in which a refresh takes them. -/
def order : List Part := [policy, bands .low, bands .high, dayTotal]

variable (now : Instant)

/-- What is asked for a part. -/
def read : Part → StoreOp
  | policy => .latestPolicy
  | bands level => .rewardBands level
  | dayTotal => .dayTotal now.day

/-- Put a part that was read into the cache. -/
def put : (part : Part) → (part.read now).Answer → ServiceStep PUnit
  | policy, found? => putPolicy found?
  | bands level, list => perform (.cache (.setBands level list))
  | dayTotal, total => perform (.cache (.setDayTotal total))

/-- **The snapshot with a part taken** from the store. Without a policy in the store the
one in the snapshot stays. -/
def take : (part : Part) → (part.read now).Answer → RateCache → RateCache
  | policy, found?, c => (found? : Option RewardPolicy).elim c c.setPolicy
  | bands level, list, c => c.setBands level list
  | dayTotal, total, c => c.setDayTotal total

/-- Take parts from the store, one after the other. -/
def renew : List Part → ServiceStep PUnit
  | [] => pure ⟨⟩
  | part :: rest => do
    part.put now (← ask (part.read now))
    renew rest

end Part

/-- **A refresh takes all parts.** -/
theorem refresh_eq_renew (now : Instant) : refresh now = Part.renew now Part.order := by
  simp only [refresh_eq, refreshBands, Part.order, Part.renew, bind_assoc]
  rfl

/-- A list of bands that is replaced twice. -/
theorem setBands_setBands (c : RateCache) (level : PoolLevel) (first second : List RewardBand) :
    (c.setBands level first).setBands level second = c.setBands level second := by
  simp only [setBands, mk.injEq, and_true, true_and]
  funext l
  split <;> simp [*]

/-- Lists of different levels may be replaced in any order. -/
theorem setBands_comm (c : RateCache) {level level' : PoolLevel} (other : level ≠ level')
    (first second : List RewardBand) :
    (c.setBands level first).setBands level' second
      = (c.setBands level' second).setBands level first := by
  simp only [setBands, mk.injEq, and_true, true_and]
  funext l
  by_cases h : l = level
  · simp [h, other]
  · simp [h]

namespace Part

/-! ## Taking parts -/

section Take

variable {now : Instant}

/-- A part with what was read for it. -/
abbrev Taken (now : Instant) : Type := Σ part : Part, (part.read now).Answer

/-- The snapshot with parts taken, one after the other. -/
def takeAll (taken : List (Taken now)) (c : RateCache) : RateCache :=
  taken.foldl (fun c t => t.1.take now t.2 c) c

/-- Taking the same part again changes nothing. -/
theorem take_take (part : Part) (a : (part.read now).Answer) (c : RateCache) :
    part.take now a (part.take now a c) = part.take now a c := by
  cases part with
  | policy => cases a <;> rfl
  | bands level => exact c.setBands_setBands level a a
  | dayTotal => rfl

/-- Different parts may be taken in any order. -/
theorem take_comm {p q : Part} (other : p ≠ q) (a : (p.read now).Answer)
    (b : (q.read now).Answer) (c : RateCache) :
    p.take now a (q.take now b c) = q.take now b (p.take now a c) := by
  cases p with
  | policy => cases q with
    | policy => exact absurd rfl other
    | bands level | dayTotal => cases a <;> rfl
  | dayTotal => cases q with
    | policy => cases b <;> rfl
    | bands level => rfl
    | dayTotal => exact absurd rfl other
  | bands level => cases q with
    | policy => cases b <;> rfl
    | dayTotal => rfl
    | bands level' =>
      have levels : level' ≠ level := fun same => other (by rw [same])
      exact c.setBands_comm levels b a

theorem takeAll_take {part : Part} {taken : List (Taken now)} (absent : part ∉ taken.map (·.1))
    (a : (part.read now).Answer) (c : RateCache) :
    takeAll taken (part.take now a c) = part.take now a (takeAll taken c) := by
  induction taken generalizing c with
  | nil => rfl
  | cons t rest ih =>
    rw [List.map_cons, List.mem_cons, not_or] at absent
    show takeAll rest (t.1.take now t.2 (part.take now a c)) = _
    rw [take_comm (Ne.symm absent.1), ih absent.2]
    rfl

/-- **Taking different parts changes nothing exactly if each of them changes nothing.** -/
theorem takeAll_eq_iff {taken : List (Taken now)} (nodup : (taken.map (·.1)).Nodup)
    (c : RateCache) : takeAll taken c = c ↔ ∀ t ∈ taken, t.1.take now t.2 c = c := by
  induction taken with
  | nil => simp [takeAll]
  | cons t rest ih =>
    obtain ⟨absent, nodup⟩ := List.nodup_cons.1 nodup
    have first : takeAll (t :: rest) c = t.1.take now t.2 (takeAll rest c) :=
      takeAll_take absent t.2 c
    rw [List.forall_mem_cons, ← ih nodup]
    constructor
    · intro same
      have kept : t.1.take now t.2 c = c := by
        -- what was taken last is there still
        rw [first] at same
        rw [← same, take_take]
      refine ⟨kept, ?_⟩
      show takeAll rest c = c
      have again : takeAll rest (t.1.take now t.2 c) = c := same
      rwa [kept] at again
    · rintro ⟨kept, others⟩
      rw [first, others, kept]

/-- Taking a part leaves the latest incomes alone. -/
@[simp] theorem latest_take (part : Part) (a : (part.read now).Answer) (c : RateCache) :
    (part.take now a c).latest = c.latest := by
  cases part with
  | policy => cases a <;> rfl
  | _ => rfl

/-- Taking another part leaves the total of the day alone. -/
theorem dayTotal_take {part : Part} (other : part ≠ dayTotal) (a : (part.read now).Answer)
    (c : RateCache) : (part.take now a c).dayTotal = c.dayTotal := by
  cases part with
  | policy => cases a <;> rfl
  | bands => rfl
  | dayTotal => exact absurd rfl other

theorem latest_takeAll (taken : List (Taken now)) (c : RateCache) :
    (takeAll taken c).latest = c.latest := by
  induction taken generalizing c with
  | nil => rfl
  | cons t rest ih => exact (ih _).trans (latest_take t.1 t.2 c)

theorem dayTotal_takeAll {taken : List (Taken now)} (absent : dayTotal ∉ taken.map (·.1))
    (c : RateCache) : (takeAll taken c).dayTotal = c.dayTotal := by
  induction taken generalizing c with
  | nil => rfl
  | cons t rest ih =>
    rw [List.map_cons, List.mem_cons, not_or] at absent
    exact (ih absent.2 _).trans (dayTotal_take (Ne.symm absent.1) t.2 c)

end Take

/-! ## Where a refresh stops -/

section Stops

variable {σ : Type} (answer : σ → (op : StoreOp) → op.Reply × σ) (now : Instant)

/-- **A store answers the reads of parts**, one after the other, and is left in a
state. -/
inductive Answers : σ → List (Taken now) → σ → Prop
  | nil {store : σ} : Answers store [] store
  | cons {store store' last : σ} {part : Part} {a : (part.read now).Answer}
    {taken : List (Taken now)} (replied : answer store (part.read now) = (.ok a, store'))
    (rest : Answers store' taken last) : Answers store (⟨part, a⟩ :: taken) last

/-- **What taking parts comes to**: all of them were taken, or all before the first
whose read failed. -/
inductive Ends (s : Service σ) (parts : List Part) : Outcome PUnit × Service σ → Prop
  | all {taken : List (Taken now)} {store : σ} (split : parts = taken.map (·.1))
    (answers : Answers answer now s.store taken store) :
    Ends s parts (.ok ⟨⟩, { s with store, cache := takeAll taken s.cache })
  | stopped {taken : List (Taken now)} {part : Part} {rest : List Part} {store store' : σ}
    {fault : Fault} (split : parts = taken.map (·.1) ++ part :: rest)
    (answers : Answers answer now s.store taken store)
    (failed : answer store (part.read now) = (.error fault, store')) :
    Ends s parts (.error fault, { s with store := store', cache := takeAll taken s.cache })

variable {answer now}

/-- What was put has been taken. -/
theorem serveOn_put (part : Part) (a : (part.read now).Answer) (s : Service σ) :
    (part.put now a).serveOn answer s
      = (.ok ⟨⟩, { s with cache := part.take now a s.cache }) := by
  cases part with
  | policy => cases a <;> rfl
  | _ => rfl

/-- **Parts are taken one after the other** until a read fails. -/
theorem renew_ends (parts : List Part) (s : Service σ) :
    Ends answer now s parts ((renew now parts).serveOn answer s) := by
  induction parts generalizing s with
  | nil => exact .all rfl .nil
  | cons part parts ih =>
    rw [renew, ServiceStep.serveOn_bind, serveOn_ask]
    cases replied : answer s.store (part.read now) with
    | mk o store =>
      cases o with
      | error fault =>
        have split : part :: parts = ([] : List (Taken now)).map (·.1) ++ part :: parts := rfl
        exact .stopped split .nil replied
      | ok a =>
        dsimp only
        rw [ServiceStep.serveOn_bind, serveOn_put]
        have ends := ih { s with store, cache := part.take now a s.cache }
        dsimp only at ends ⊢
        generalize (renew now parts).serveOn answer _ = r at ends ⊢
        cases ends with
        | @all taken _ split answers =>
          have split' : part :: parts = (⟨part, a⟩ :: taken : List (Taken now)).map (·.1) := by
            rw [split]
            rfl
          exact .all split' (.cons replied answers)
        | @stopped taken next rest _ _ _ split answers failed =>
          have split' : part :: parts
              = (⟨part, a⟩ :: taken : List (Taken now)).map (·.1) ++ next :: rest := by
            rw [split]
            rfl
          exact .stopped split' (.cons replied answers) failed

end Stops

end Part

/-! ## Failed refreshes -/

/-- **What a refresh that failed has kept.** -/
structure KeptBy {σ : Type} (answer : σ → (op : StoreOp) → op.Reply × σ) (s s' : Service σ)
    (now : Instant) (fault : Fault) : Prop where
  pool : ∀ t, s'.cache.poolAt t = s.cache.poolAt t
  latest : s'.cache.latest = s.cache.latest
  /-- The parts before the read that failed were taken, and nothing else. -/
  taken : ∃ (taken : List (Part.Taken now)) (part : Part) (rest : List Part) (store : σ),
    Part.order = taken.map (·.1) ++ part :: rest
      ∧ Part.Answers answer now s.store taken store
      ∧ answer store (part.read now) = (.error fault, s'.store)
      ∧ s'.cache = Part.takeAll taken s.cache
      ∧ (s'.cache = s.cache ↔ ∀ t ∈ taken, t.1.take now t.2 s.cache = s.cache)

/-- The total of the day is the last part. -/
theorem Part.dayTotal_not_mem {before rest : List Part} {part : Part}
    (parts : order = before ++ part :: rest) : dayTotal ∉ before := by
  have nodup : order.Nodup := by decide
  have last : order.getLast? = some dayTotal := rfl
  intro early
  rw [parts] at nodup last
  have late : dayTotal ∈ part :: rest :=
    List.mem_of_getLast? (by rwa [List.getLast?_append_of_ne_nil _ (List.cons_ne_nil _ _)] at last)
  exact (List.nodup_append.1 nodup).2.2 _ early _ late rfl

/-- **A refresh that fails** keeps the pool and the latest incomes, whatever the store
is. It keeps the snapshot exactly if what was read before the failure was in it. -/
theorem failed_refresh_keeps {σ : Type} {answer : σ → (op : StoreOp) → op.Reply × σ}
    {s s' : Service σ} {now : Instant} {fault : Fault}
    (failed : (refresh now).serveOn answer s = (.error fault, s')) :
    KeptBy answer s s' now fault := by
  have ends : Part.Ends answer now s Part.order ((Part.renew now Part.order).serveOn answer s) :=
    Part.renew_ends Part.order s
  rw [← refresh_eq_renew, failed] at ends
  cases ends with
  | @stopped taken part rest store store' _ parts answers replied =>
    have absent := Part.dayTotal_not_mem parts
    have nodup : (taken.map (·.1)).Nodup := by
      have all : Part.order.Nodup := by decide
      rw [parts] at all
      exact (List.nodup_append.1 all).1
    have kept := Part.dayTotal_takeAll absent s.cache
    refine ⟨fun t => ?_, Part.latest_takeAll taken s.cache, taken, part, rest, store, parts,
      answers, replied, rfl, Part.takeAll_eq_iff nodup s.cache⟩
    show (Part.takeAll taken s.cache).poolAt t = _
    rw [poolAt, kept]
    rfl

/-- A database that answers with a policy and refuses the next statement. -/
def interrupted (policy : RewardPolicy) : ScriptedDatabase :=
  ⟨[⟨none, .rows [Row.ofPolicy policy]⟩, ⟨none, .refused "57014" "canceled"⟩], [], true, false⟩

/-- The policy that was read is the one that the snapshot has, so all of it is kept. -/
theorem failed_refresh_keeps_of_same_policy :
    let s : Service ScriptedDatabase := Service.new (interrupted .initial) 10 ⟨0, 0⟩
    let r := (refresh ⟨0, 0⟩).serveOn ScriptedDatabase.answerRequest s
    let fault := .error (.unknown "get reward rates: error returned from database: canceled")
    r.1 = .error fault ∧ KeptBy ScriptedDatabase.answerRequest s r.2 ⟨0, 0⟩ fault
      ∧ r.2.cache.policy = s.cache.policy := by
  intro s r fault
  have failed : r.1 = .error fault := by decide +kernel
  have both : r = (.error fault, r.2) := by rw [← failed]
  exact ⟨failed, failed_refresh_keeps both, by decide +kernel⟩

/-- **A refresh that fails can leave a snapshot that is neither the old nor the new one.**
The policy that was read before the bands were refused is in the cache. -/
theorem failed_refresh_mixes :
    let policy : RewardPolicy := ⟨5, .zero, ⟨0, 0⟩⟩
    let s : Service ScriptedDatabase := Service.new (interrupted policy) 10 ⟨0, 0⟩
    let r := (refresh ⟨0, 0⟩).serveOn ScriptedDatabase.answerRequest s
    r.1.isOk = false ∧ r.2.cache.policy = policy ∧ s.cache.policy ≠ policy := by
  decide +kernel

/-- **A store in memory fails at once or not at all**, so a refresh from it that fails
keeps everything. -/
theorem failed_refresh_of_memory {s s' : Service Memory} {now : Instant} {fault : Fault}
    (failed : (refresh now).serve s = (.error fault, s')) : s' = s := by
  cases off : s.store.disabled with
  | true =>
    have refused : s.store.answer .latestPolicy = (.refuse Memory.disabledError, s.store) :=
      Prod.ext (Memory.read_of_disabled off (·.latestPolicy?)) rfl
    rw [refresh_eq, serve_bind_of_error (serve_ask_of_answer refused)] at failed
    cases failed
    rfl
  | false =>
    have put (found? : Option RewardPolicy) : (putPolicy found?).serve s
        = (.ok ⟨⟩, { s with cache := Part.take now .policy found? s.cache }) := by
      cases found? <;> rfl
    have total (cache : RateCache) : (ask (.dayTotal now.day)).serve { s with cache }
        = (.ok ⟨now.day, s.store.tables.totalOf now.day⟩, { s with cache }) :=
      serve_ask_of_answer (Memory.answer_dayTotal off now.day)
    rw [refresh_eq, serve_bind_of_ok (serve_ask_of_answer (Memory.answer_latestPolicy off)),
      serve_bind_of_ok (put _), serve_bind_of_ok (serve_refreshBands off _ .low),
      serve_bind_of_ok (serve_refreshBands off _ .high), serve_bind_of_ok (total _)] at failed
    cases failed

end RateCache

end RewardLedger
