import RewardLedger.Proofs.Database.Statement
import RewardLedger.Proofs.Relational.Unit

/-!
# Programs of statements on a database

How a program runs on a database that does what it is told: statement after
statement, a unit inside the brackets of its transaction. A check that is
carried out is judged on its reply (`run_check_working`), and a transaction
keeps what its unit did, or leaves no trace but the identifiers that were given
out (`run_transaction_ok`, `run_transaction_error`).
-/

namespace RewardLedger

open DatabaseStep

/-! ## What can be bound -/

namespace BoundValue

@[simp] theorem not_hasNul_null : ¬ null.HasNul := id

@[simp] theorem not_hasNul_int (n : Int) : ¬ (int n).HasNul := id

@[simp] theorem not_hasNul_ints (ns : List Int) : ¬ (ints ns).HasNul := id

@[simp] theorem not_hasNul_day (d : Day) : ¬ (day d).HasNul := id

@[simp] theorem hasNul_text (s : String) : (text s).HasNul ↔ Text.HasNul s := Iff.rfl

@[simp] theorem not_hasNul_ofInstant (t : Instant) : ¬ (ofInstant t).HasNul := id

@[simp] theorem not_hasNul_ofInstant? (t : Option Instant) : ¬ (ofInstant? t).HasNul := by
  cases t <;> exact id

@[simp] theorem not_hasNul_ofInt? (n : Option Int) : ¬ (ofInt? n).HasNul := by
  cases n <;> exact id

@[simp] theorem hasNul_ofText? (s : Option String) :
    (ofText? s).HasNul ↔ ∃ text ∈ s, Text.HasNul text := by
  cases s <;> simp [ofText?]

end BoundValue

theorem IncomeSource.not_hasNul_name (s : IncomeSource) : ¬ Text.HasNul s.name := by
  cases s <;> decide

theorem PoolLevel.not_hasNul_name (l : PoolLevel) : ¬ Text.HasNul l.name := by
  cases l <;> decide

namespace Database

variable {α β : Type}

/-! ## Programs -/

/-- A program goes on after its first part. -/
theorem run_bind_ok {d d' : Database} {x : DatabaseStep α} {f : α → DatabaseStep β} {a : α}
    (first : d.run x = (.ok a, d')) : d.run (x >>= f) = d'.run (f a) := by
  refine (Program.run_bind execute x.run _ d).trans ?_
  change Program.run execute x.run d = _ at first
  rw [first]
  rfl

/-- A program stops with its first part. -/
theorem run_bind_error {d d' : Database} {x : DatabaseStep α} {f : α → DatabaseStep β}
    {fault : Fault} (first : d.run x = (.error fault, d')) :
    d.run (x >>= f) = (.error fault, d') := by
  refine (Program.run_bind execute x.run _ d).trans ?_
  change Program.run execute x.run d = _ at first
  rw [first]
  rfl

/-! ## Statements -/

/-- A statement that is no bracket and can be bound does what its meaning is. -/
theorem execute_of_perform {d : Database} {s : Statement} {reply : DatabaseReply}
    {r : Relations} (ready : d.session ≠ .failed) (plain : ¬ s.IsBracket) (clean : ¬ s.HasNul)
    (does : d.current.perform (d.given.draw s) s = .ok (reply, r)) :
    execute s d = (reply, ({ d with given := d.given.draw s }).put r) := by
  have carried : execute s d = carry s d := by
    obtain ⟨relations, given, session⟩ := d
    cases session with
    | failed => exact absurd rfl ready
    | _ => cases s <;> first | rfl | exact absurd trivial plain
  have same : ({ d with given := d.given.draw s } : Database).current = d.current := rfl
  rw [carried, carry, if_neg clean]
  simp only [same, does]

variable {c r r' : Relations} {given : Counters} {s : Statement} {reply : DatabaseReply}

/-- A check inside a transaction. -/
theorem run_check_working {context : String} {judge : DatabaseReply → Outcome β}
    {outcome : Outcome β} (plain : ¬ s.IsBracket) (clean : ¬ s.HasNul)
    (does : r.perform (given.draw s) s = .ok (reply, r')) (carried : reply.failure? = none)
    (judged : judge reply = outcome) :
    run ⟨c, given, .working r⟩ (check context s judge)
      = (outcome, ⟨c, given.draw s, .working r'⟩) := by
  have executed : execute s ⟨c, given, .working r⟩ = (reply, ⟨c, given.draw s, .working r'⟩) :=
    execute_of_perform (by intro h; cases h) plain clean does
  unfold run
  rw [run_check, Program.run_call, executed, ← judged]
  show (verdict context judge reply, _) = _
  unfold verdict
  rw [succeed_of_success carried]
  rfl

/-- A query outside of a transaction. -/
theorem run_rows_bind {context : String} {rows : List Row} {f : List Row → DatabaseStep β}
    (plain : ¬ s.IsBracket) (clean : ¬ s.HasNul) (draws : given.draw s = given)
    (does : r.perform given s = .ok (.rows rows, r)) :
    run ⟨r, given, .idle⟩ (DatabaseStep.rows context s >>= f) = run ⟨r, given, .idle⟩ (f rows) := by
  have executed : execute s ⟨r, given, .idle⟩ = (.rows rows, ⟨r, given, .idle⟩) := by
    rw [execute_of_perform (by intro h; cases h) plain clean (draws.symm ▸ does), draws]
    rfl
  unfold DatabaseStep.rows
  rw [bind_assoc]
  unfold run
  rw [run_carryOut_bind, Program.run_call, executed]
  rfl

/-! ## Transactions -/

section Transaction

variable {body : DatabaseStep α}

/-- What a unit did is kept. -/
theorem run_transaction_ok {a : α} {given' : Counters}
    (unit : run ⟨c, given, .working c⟩ body = (.ok a, ⟨c, given', .working r⟩)) :
    run ⟨c, given, .idle⟩ (transaction body) = (.ok a, ⟨r, given', .idle⟩) := by
  unfold run at unit ⊢
  rw [run_transaction, Program.run_call]
  refine (Program.run_bind execute body.run _ _).trans ?_
  rw [show (execute .start ⟨c, given, .idle⟩).2 = ⟨c, given, .working c⟩ from rfl, unit]
  rfl

/-- A unit that is refused is undone. -/
theorem run_transaction_error {fault : Fault} {given' : Counters} {session : Session}
    (unit : run ⟨c, given, .working c⟩ body = (.error fault, ⟨c, given', session⟩)) :
    run ⟨c, given, .idle⟩ (transaction body) = (.error fault, ⟨c, given', .idle⟩) := by
  unfold run at unit ⊢
  rw [run_transaction, Program.run_call]
  refine (Program.run_bind execute body.run _ _).trans ?_
  rw [show (execute .start ⟨c, given, .idle⟩).2 = ⟨c, given, .working c⟩ from rfl, unit]
  cases session <;> rfl

end Transaction

/-! ## Credits -/

section Credit

variable {t : Tables} (h : r.Holds t) (c) (given)

include h

/-- The referrer that a user named is asked for. -/
theorem run_referrerOf (keyed : t.UsersKeyed) (id : Int) :
    run ⟨c, given, .working r⟩ (check "get referer" (.selectReferrer id) (referrerIn id))
      = (match t.users.get? id with
        | none => .refuse (.noRowForUser id)
        | some u => .ok u.referrer, ⟨c, given, .working r⟩) := by
  refine run_check_working (by rintro ⟨⟩) (by simp [Statement.HasNul, Statement.values]) rfl rfl ?_
  rw [h.filter_user keyed]
  cases t.users.get? id with
  | none => rfl
  | some u =>
    obtain ⟨_, _, _, _, _, _, _, referrer, _, _, _⟩ := u
    cases referrer <;> rfl

/-- The rows that are locked are those of the table. -/
theorem perform_lockUsers (keyed : t.UsersKeyed) (ids : List Int) :
    r.perform given (.lockUsers ids)
      = .ok (.rows ((t.users.values.filter (·.id ∈ ids)).map .ofUser), r) := by
  show Except.ok (r.reply _) = _
  rw [h.ascending_users keyed]
  rfl

end Credit

/-- Rows that were sent for items are read as those items. -/
theorem mapM_sent {m : Type → Type} [Monad m] [LawfulMonad m] {f : Row → m α} {g : α → Row}
    {items : List α} (reads : ∀ a ∈ items, f (g a) = pure a) :
    (items.map g).mapM f = pure items := by
  induction items with
  | nil => rfl
  | cons a rest ih =>
    rw [List.map_cons, List.mapM_cons, reads a List.mem_cons_self,
      ih fun b hb => reads b (List.mem_cons_of_mem _ hb), pure_bind, pure_bind]

section Locked

variable {t : Tables} (keyed : t.UsersKeyed)

include keyed

/-- The user is the one among the locked rows. -/
theorem locked_user {ids : List Int} {id : Int} (named : id ∈ ids) :
    ((t.users.values.filter (·.id ∈ ids)).filter (·.id = id)) = (t.users.get? id).toList := by
  rw [List.filter_filter, ← Table.filter_values keyed id]
  refine List.filter_congr fun u _ => ?_
  by_cases same : u.id = id
  · simp [same, named]
  · simp [same]

/-- A row is locked if it is named and there. -/
theorem any_locked {ids : List Int} {id : Int} (named : id ∈ ids) :
    (t.users.values.filter (·.id ∈ ids)).any (·.id = id) = (t.users.get? id).isSome := by
  have row : ∀ u, (u ∈ t.users.values.filter (·.id ∈ ids) ∧ decide (u.id = id) = true)
      ↔ t.users.get? id = some u := fun u => by
    rw [← Option.mem_toList, ← locked_user keyed named]
    exact (List.mem_filter (p := fun x : User => decide (x.id = id))).symm
  rw [Bool.eq_iff_iff, List.any_eq_true, Option.isSome_iff_exists]
  exact exists_congr row

/-- Who is credited is the user, if a scheduled reward is due. -/
theorem lockedIn_rows {ids : List Int} {u : User} (hu : t.users.get? u.id = some u)
    (named : u.id ∈ ids) (source : IncomeSource) (now : Instant) :
    let locked := t.users.values.filter (·.id ∈ ids)
    lockedIn source u.id now (.rows (locked.map .ofUser))
      = if source = .reward then
          match u.rewardDue? now with
          | none => .error .outOfRange
          | some false => .refuse (.rewardNotDue u.id)
          | some true => .ok (locked, u)
        else .ok (locked, u) := by
  intro locked
  have judged : lockedIn source u.id now (.rows (locked.map .ofUser))
      = payee source u.id now locked >>= fun u => .ok (locked, u) := by
    unfold lockedIn
    rw [show (DatabaseReply.rows (locked.map .ofUser)).rowList = locked.map .ofUser from rfl,
      mapM_sent fun u _ => Row.user?_ofUser u]
    rfl
  rw [judged]
  unfold payee
  rw [locked_user keyed named, hu]
  dsimp only [Option.toList_some, List.getLast?_singleton]
  split
  · cases u.rewardDue? now with
    | none => rfl
    | some due => cases due <;> rfl
  · rfl

/-- The share is paid if the referrer has a row. -/
theorem filter_locked (u : User) :
    (u.referrer.filter fun k => (t.users.values.filter (·.id ∈ u.id :: u.referrer.toList)).any
        (·.id = k)) = (t.referrerOf? u).map (·.id) := by
  unfold Tables.referrerOf?
  cases u.referrer with
  | none => rfl
  | some k =>
    have named : k ∈ u.id :: (some k).toList := by simp
    have locked := any_locked keyed named
    rw [Option.filter_some, locked]
    cases there : t.users.get? k with
    | none => simp [there]
    | some v => simp [there, keyed k v there]

end Locked

section Credit

variable {t : Tables} (h : r.Holds t) (c) (given)

include h

/-- A user without a row is not credited. -/
theorem run_credit_of_noRow (keyed : t.UsersKeyed) {id : Int} (absent : t.users.get? id = none)
    (source : IncomeSource) (amount offered : Int) (now : Instant) :
    run ⟨c, given, .working r⟩ (credit source id amount offered now)
      = (.refuse (.noRowForUser id), ⟨c, given, .working r⟩) := by
  rw [credit_eq]
  refine run_bind_error ((run_referrerOf c given h keyed id).trans ?_)
  rw [absent]
  rfl

variable (keyed : t.UsersKeyed) {u : User} (hu : t.users.get? u.id = some u)

include keyed hu

/-- The referrer of a user with a row is known. -/
theorem run_referrerOf_of_row :
    run ⟨c, given, .working r⟩ (check "get referer" (.selectReferrer u.id) (referrerIn u.id))
      = (.ok u.referrer, ⟨c, given, .working r⟩) := by
  rw [run_referrerOf c given h keyed, hu]

/-- The rows of the user and of the referrer are locked. -/
theorem run_lockUsers (source : IncomeSource) (now : Instant) :
    run ⟨c, given, .working r⟩
        (check "lock users" (.lockUsers (u.id :: u.referrer.toList)) (lockedIn source u.id now))
      = (let locked := t.users.values.filter (·.id ∈ u.id :: u.referrer.toList)
        if source = .reward then
          match u.rewardDue? now with
          | none => .error .outOfRange
          | some false => .refuse (.rewardNotDue u.id)
          | some true => .ok (locked, u)
        else .ok (locked, u), ⟨c, given, .working r⟩) := by
  rw [← lockedIn_rows keyed hu List.mem_cons_self source now]
  exact run_check_working (by rintro ⟨⟩) (by simp [Statement.HasNul, Statement.values])
    (perform_lockUsers _ h keyed _) rfl rfl

/-- With a reward that is due, or none, the credit goes on. -/
theorem run_lockUsers_of_due {source : IncomeSource} {now : Instant}
    (due : source = .reward → u.rewardDue? now = some true) :
    run ⟨c, given, .working r⟩
        (check "lock users" (.lockUsers (u.id :: u.referrer.toList)) (lockedIn source u.id now))
      = (.ok (t.users.values.filter (·.id ∈ u.id :: u.referrer.toList), u),
        ⟨c, given, .working r⟩) := by
  rw [run_lockUsers c given h keyed hu]
  by_cases reward : source = .reward
  · simp only [if_pos reward, due reward]
  · simp only [if_neg reward]

/-- A scheduled reward that is not due is not credited. -/
theorem run_credit_of_early {now : Instant} (early : u.rewardDue? now = some false)
    (amount offered : Int) :
    run ⟨c, given, .working r⟩ (credit .reward u.id amount offered now)
      = (.refuse (.rewardNotDue u.id), ⟨c, given, .working r⟩) := by
  rw [credit_eq, run_bind_ok (run_referrerOf_of_row c given h keyed hu)]
  refine run_bind_error ((run_lockUsers c given h keyed hu .reward now).trans ?_)
  rw [early]
  rfl

omit hu in
/-- The share is paid to the referrer, if there is one. -/
theorem run_creditReferrer {i : Income} {offered : Int} (referrer : i.referrer = u.referrer)
    (share : i.referrerAmount = if (t.referrerOf? u).isSome then offered else 0)
    (nonneg : 0 ≤ i.referrerAmount)
    (room : ∀ v, t.referrerOf? u = some v → Amount.Fits (v.balance + i.referrerAmount)
      ∧ Amount.Fits (v.totalFromReferees + i.referrerAmount)) :
    ∃ r', run ⟨c, given, .working r⟩ (creditReferrer u.referrer
          (t.users.values.filter (·.id ∈ u.id :: u.referrer.toList)) offered)
        = (.ok (t.referrerOf? u).isSome, ⟨c, given, .working r'⟩)
      ∧ r'.Holds { t with users := t.users.map (·.withShare i) } := by
  rw [creditReferrer_eq, filter_locked keyed]
  cases there : t.referrerOf? u with
  | none =>
    rw [there] at share
    rw [Tables.map_withShare_of_none share]
    exact ⟨r, rfl, h⟩
  | some v =>
    rw [there] at share
    obtain ⟨named, row⟩ := Tables.referrer_of_referrerOf? keyed there
    obtain ⟨balance, total⟩ := room v there
    obtain ⟨r', does, holds⟩ := h.creditReferrer (given.draw (.creditReferrer offered v.id)) keyed
      row (referrer.trans named) nonneg balance total
    refine ⟨r', ?_, holds⟩
    rw [show i.referrerAmount = offered from share] at does
    exact run_check_working (by rintro ⟨⟩) (by simp [Statement.HasNul, Statement.values]) does rfl
      rfl

end Credit

section Paid

variable {t : Tables} (h : r.Holds t) (c) (given)

include h

/-- The income is recorded under the next identifier. -/
theorem run_recordIncome (keyed : t.UsersKeyed) (numbered : t.IncomesNumbered) {i : Income}
    (next : i.id = t.counters.incomes + 1) (user : ∃ u, t.users.get? i.user = some u)
    (micro : i.createdAt.toMicroseconds = i.createdAt) :
    ∃ r', run ⟨c, t.counters, .working r⟩
          (recordIncome i.source i.user i.referrer i.amount i.referrerAmount i.createdAt)
        = (.ok i, ⟨c, { t.counters with incomes := i.id }, .working r'⟩)
      ∧ r'.Holds { t with
          incomes := t.incomes ++ [i]
          counters := { t.counters with incomes := i.id } } := by
  obtain ⟨r', does, holds⟩ := h.insertIncome { t.counters with incomes := t.counters.incomes + 1 }
    keyed numbered next next.symm user micro
  refine ⟨r', ?_, holds⟩
  rw [recordIncome_eq, next]
  exact run_check_working (by rintro ⟨⟩)
    (by simp [Statement.HasNul, Statement.values, IncomeSource.not_hasNul_name]) does rfl rfl

/-- The amount is paid to the user. -/
theorem run_creditUser (keyed : t.UsersKeyed) {u : User} (hu : t.users.get? u.id = some u)
    {i : Income} (user : i.user = u.id) (amount : 0 ≤ i.amount)
    (micro : i.createdAt.toMicroseconds = i.createdAt)
    (balance : Amount.Fits (u.withIncome i).balance)
    (total : Amount.Fits (u.withIncome i).totalIncome)
    (toReferrer : Amount.Fits (u.withIncome i).totalToReferrer) :
    ∃ r', run ⟨c, given, .working r⟩ (creditUser i) = (.ok ⟨⟩, ⟨c, given, .working r'⟩)
      ∧ r'.Holds { t with users := t.users.map (·.withIncome i) } := by
  obtain ⟨r', does, holds⟩ := h.creditUser given keyed hu user amount micro balance total toReferrer
  refine ⟨r', ?_, holds⟩
  rw [creditUser_eq]
  exact run_check_working (by rintro ⟨⟩) (by simp [Statement.HasNul, Statement.values]) does rfl
    rfl

/-- **A credit that is not refused** is booked. -/
theorem run_credit (wf : t.WellFormed) (numbered : t.IncomesNumbered) {u : User}
    (hu : t.users.get? u.id = some u) {source : IncomeSource} {amount offered : Int}
    {now : Instant} (due : source = .reward → u.rewardDue? now = some true)
    (amounts : 0 ≤ amount ∧ 0 ≤ offered) (micro : now.toMicroseconds = now)
    (room : t.CreditFits u (t.incomeOf source u amount offered now)) :
    let receipt := t.receiptOf source u amount offered now
    ∃ r', run ⟨c, t.counters, .working r⟩ (credit source u.id amount offered now)
        = (.ok receipt, ⟨c, (t.book receipt.income).counters, .working r'⟩)
      ∧ r'.Holds (t.book receipt.income) := by
  intro receipt
  let i := t.incomeOf source u amount offered now
  have keyed := wf.users_keyed
  obtain ⟨share, balance, total, toReferrer⟩ := room
  have nonneg : 0 ≤ i.referrerAmount := by
    show 0 ≤ if (t.referrerOf? u).isSome then offered else 0
    split
    · exact amounts.2
    · exact Int.le_refl 0
  have wf₁ := wf.mapUsers (f := (·.withShare i)) (fun _ => rfl) (fun _ => rfl)
  have hu₁ : (t.users.map (·.withShare i)).get? u.id = some (u.withShare i) := by
    rw [Table.get?_map, hu]
    rfl
  -- the share is paid to the referrer, the income recorded, and the amount paid to the user
  obtain ⟨r₁, shared, h₁⟩ := run_creditReferrer (i := i) c t.counters h keyed rfl rfl nonneg share
  obtain ⟨r₂, recorded, h₂⟩ := run_recordIncome (i := i) c h₁ wf₁.users_keyed
    ⟨numbered.ascend, numbered.le⟩ rfl ⟨_, hu₁⟩ micro
  obtain ⟨r₃, paid, h₃⟩ := run_creditUser (u := u.withShare i) (i := i) c
    { t.counters with incomes := i.id } h₂ wf₁.users_keyed hu₁ rfl amounts.1 micro balance total
    toReferrer
  refine ⟨r₃, ?_, ?_⟩
  · rw [credit_eq, run_bind_ok (run_referrerOf_of_row c t.counters h keyed hu),
      run_bind_ok (run_lockUsers_of_due c t.counters h keyed hu due), run_bind_ok shared]
    refine (run_bind_ok recorded).trans ?_
    rw [run_bind_ok paid]
    rfl
  · have posted : (t.users.map (·.withShare i)).map (·.withIncome i) = t.users.map (·.post i) :=
      Table.map_map _ _ _
    show r₃.Holds { t with
      users := t.users.map (·.post i)
      incomes := t.incomes ++ [i]
      counters := { t.counters with incomes := i.id } }
    rw [← posted]
    exact h₃

end Paid

end Database

end RewardLedger
