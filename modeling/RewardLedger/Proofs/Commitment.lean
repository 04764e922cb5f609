import RewardLedger.Proofs.Relational.Credit
import RewardLedger.Proofs.Store.Batch

/-!
# A relational store commits exactly when it succeeds

A write in a database is kept only if the store asks the database to keep it,
and the store must ask only for work that is complete. Whatever the database
replies, to whichever statement: an answer is given only after every statement
of the unit was sent once, in order and within one transaction, each reply was
acceptable, and the database confirmed that it keeps the work. A refusal means
that the store never asked for the work to be kept, unless what is refused is
that very request. And a reply that is not acceptable is the last that the unit
sees.
-/

namespace RewardLedger

open DatabaseStep

/-! ## What is sent, and what is accepted -/

namespace StoreOp

/-- A request that is a transaction. -/
def IsTransaction : StoreOp → Prop
  | creditReward _ | creditPartner _ | createWithdrawal _ => True
  | advanceWithdrawals ids .. => ids ≠ []
  | _ => False

/-- The credit that is asked for, if it is one, is due to a user. -/
def Due : StoreOp → User → Prop
  | creditReward c, u => u.rewardDue? c.now = some true
  | _, _ => True

/-- **The replies that a request accepts** from the statements of its unit. -/
def Accepts (op : StoreOp) (s : Statement) (reply : DatabaseReply) : Prop :=
  reply.failure? = none ∧
    match s with
    -- the user has a row, and the referrer in it can be read
    | .selectReferrer id => ∃ referrer, referrerIn id reply = .ok referrer
    -- all rows are users, the one to be credited is among them and a reward is due
    | .lockUsers ids => ∃ locked id u, reply.rowList.mapM Row.user? = some locked
      ∧ ids.head? = some id ∧ (locked.filter (·.id = id)).getLast? = some u ∧ op.Due u
    | .insertEvent .. => reply.affected ≠ 0
    | .insertIncome .. => ∃ row id, reply.rowList.head? = some row
      ∧ row.read Cell.int? "id" = some id
    | .creditUser .. | .debitUser .. => reply.affected = 1
    | .insertWithdrawal _ => ∃ row w, reply.rowList.head? = some row ∧ withdrawal row = pure w
    | .advanceWithdrawals _ _ _ ids _ => reply.affected = ids.length
    | _ => True

/-- The statements of a credit, in order. The share is paid only if the row of
the referrer is among those that were locked. -/
def creditStatements (source : IncomeSource) (id amount offered : Int) (now : Instant)
    (receipt : Receipt) (locked : List User) : List Statement :=
  let referrer := receipt.income.referrer
  let share := receipt.income.referrerAmount
  let paid := referrer.filter fun r => locked.any (·.id = r)
  [.selectReferrer id, .lockUsers (id :: referrer.toList)]
    ++ paid.toList.map (.creditReferrer offered)
    ++ [.insertIncome id referrer source amount share now,
      .creditUser amount share (if source = .reward then some now else none) id]

/-- **The statements of a unit**, in order, without those that begin and end the
transaction. -/
def statements : (op : StoreOp) → op.Answer → List User → List Statement
  | creditReward c, receipt, locked =>
    creditStatements .reward c.user c.amount c.referrerAmount c.now receipt locked
      ++ [.addToDay c.now.day (receipt.income.amount + receipt.income.referrerAmount)]
  | creditPartner c, receipt, locked =>
    c.source.eventTable?.toList.map (.insertEvent · c.event c.amount c.now)
      ++ creditStatements c.source c.user c.amount c.referrerAmount c.now receipt locked
  | createWithdrawal order, _, _ =>
    [.debitUser order.amount order.user, .insertWithdrawal order]
  | advanceWithdrawals ids current next transaction now, _, _ =>
    [.advanceWithdrawals next transaction now (distinctAscending ids) current]
  | _, _, _ => []

/-- **The unit was sent**: its statements are those of the exchanges, where the
rows that were locked are the ones that came back. -/
def Sent (op : StoreOp) (a : op.Answer) (log : List Exchange) : Prop :=
  ∃ locked, log.map Prod.fst = op.statements a locked
    ∧ ∀ ids reply, (.lockUsers ids, reply) ∈ log →
      reply.rowList.mapM Row.user? = some locked

/-- Nothing but a rollback comes later than a reply that is not acceptable. -/
def StopsBefore (op : StoreOp) (e later : Exchange) : Prop :=
  ¬ op.Accepts e.1 e.2 → later.1 = .rollback

end StoreOp

/-! ## The units -/

namespace DatabaseStep

/-- The program of a request is a transaction around a unit that is made of
checks. -/
structure IsUnit (op : StoreOp) (body : DatabaseStep op.Answer) : Prop where
  program : answer op = transaction body
  checks : body.Checks op.Accepts
  sent : ∀ log a, body.run.Exchanges log (.ok a) → op.Sent a log

section Credit

variable {op : StoreOp} {source : IncomeSource} {id amount offered : Int} {now : Instant}

/-- A credit is made of checks. -/
theorem checks_credit (due : ∀ u : User, (source = .reward → u.rewardDue? now = some true) →
      op.Due u) :
    (credit source id amount offered now).Checks op.Accepts := by
  rw [credit_eq]
  refine .check (fun h => h) (fun reply referrer passed => ?_) fun referrer => ?_
  · obtain ⟨carried, judged⟩ := verdict_eq_ok_iff.1 passed
    exact ⟨carried, referrer, judged⟩
  refine .check (fun h => h) (fun reply locked passed => ?_) fun locked => ?_
  · obtain ⟨carried, judged⟩ := verdict_eq_ok_iff.1 passed
    obtain ⟨all, among⟩ := lockedIn_eq_ok_iff.1 judged
    obtain ⟨last, scheduled⟩ := payee_eq_ok_iff.1 among
    exact ⟨carried, locked.1, id, locked.2, all, rfl, last, due _ scheduled⟩
  refine .bind ?_ fun credited => .bind ?_ fun income => .bind ?_ fun _ => .pure _
  · rw [creditReferrer_eq]
    cases referrer.filter fun r => locked.1.any (·.id = r) with
    | none => exact .pure false
    | some r => exact .single (fun h => h) fun reply _ carried _ => ⟨carried, trivial⟩
  · rw [recordIncome_eq]
    refine .single (fun h => h) fun reply income carried judged => ?_
    obtain ⟨row, first, judged⟩ := firstIn_eq_ok_iff.1 judged
    cases given : row.read Cell.int? "id" with
    | none =>
      rw [given] at judged
      cases judged
    | some identifier => exact ⟨carried, row, identifier, first, given⟩
  · rw [creditUser_eq]
    exact .single (fun h => h) fun reply _ carried judged =>
      ⟨carried, not_not.1 (refusing_eq_ok_iff.1 judged)⟩

/-- The share is offered by one statement, if the referrer's row is among the locked
ones. -/
theorem ShareCourse.sent {referrer : Option Int} {locked : List User} {offered : Int}
    {log : List Exchange} {credited : Bool}
    (share : ShareCourse referrer locked offered log credited) :
    log.map Prod.fst
      = (referrer.filter fun r => locked.any (·.id = r)).toList.map (.creditReferrer offered) := by
  cases share with
  | none absent =>
    have nobody : (referrer.filter fun r => locked.any (·.id = r)) = Option.none :=
      Option.filter_eq_none_iff.2 fun r named found => by
        obtain ⟨u, hu, same⟩ := List.any_eq_true.1 found
        exact absent r named u hu (of_decide_eq_true same)
    rw [nobody]
    rfl
  | asked named present =>
    rw [named, Option.filter_some_pos (by simpa using present)]
    rfl

/-- A credit that is finished sent its statements. -/
theorem sent_credit {log : List Exchange} {receipt : Receipt}
    (course : (credit source id amount offered now).run.Exchanges log (.ok receipt)) :
    ∃ locked,
      log.map Prod.fst = StoreOp.creditStatements source id amount offered now receipt locked
        ∧ ∀ ids reply, (.lockUsers ids, reply) ∈ log →
          reply.rowList.mapM Row.user? = some locked := by
  cases course_credit course with
  | @mk asked taken recorded touched referrer locked u shared credited identifier named rows
      share =>
    refine ⟨locked, ?_, fun ids reply among => ?_⟩
    · simp only [List.map_append, List.map_cons, List.map_nil, share.sent]
      rfl
    · have notShare : (.lockUsers ids, reply) ∉ shared := by
        cases share <;> simp
      obtain ⟨-, rfl⟩ : ids = id :: referrer.toList ∧ reply = taken := by
        simpa [notShare] using among
      exact rows

end Credit

/-- A scheduled reward is a unit: the credit, and the sum of the day. -/
theorem isUnit_creditReward (c : RewardCredit) : ∃ body, IsUnit (.creditReward c) body := by
  refine ⟨_, rfl, ?_, ?_⟩
  · have due : ∀ u : User, (IncomeSource.reward = .reward → u.rewardDue? c.now = some true) →
        (StoreOp.creditReward c).Due u := fun u scheduled => scheduled rfl
    refine (checks_credit due).bind fun receipt => (Checks.ofOutcome _).bind fun disbursed => ?_
    rw [carryOut_eq]
    refine .bind ?_ fun _ => .pure _
    exact .single (fun h => h) fun reply _ carried _ => ⟨carried, trivial⟩
  · intro log receipt course
    obtain ⟨_, _, _, rfl, credited, afterCredit⟩ := exchanges_bind_ok course
    obtain ⟨disbursed, _, _, rfl, fits, afterSum⟩ := exchanges_bind_ok afterCredit
    obtain ⟨_, _, _, rfl, added, rfl, ⟨⟩⟩ := exchanges_bind_ok afterSum
    rw [carryOut_eq] at added
    obtain ⟨reply, rfl, -, -⟩ := exchanges_check_ok added
    obtain ⟨sum, rfl⟩ := exchanges_ofOutcome_ok fits
    obtain ⟨locked, statements, rows⟩ := sent_credit credited
    refine ⟨locked, ?_, fun ids reply among => rows ids reply ?_⟩
    · rw [List.map_append, statements, disbursed_eq sum]
      rfl
    · simpa using among

/-- The event of a partner is a unit: the event, and the credit. -/
theorem isUnit_creditPartner (c : PartnerCredit) :
    (∃ body, IsUnit (.creditPartner c) body)
      ∨ ∃ fault, answer (.creditPartner c) = throw fault := by
  cases partner : c.source.eventTable? with
  | none =>
    right
    refine ⟨.error (.invalidSource c.source.name), ?_⟩
    show creditPartner c = _
    unfold creditPartner
    rw [partner]
    rfl
  | some relation =>
    left
    refine ⟨_, creditPartner_eq partner, ?_, ?_⟩
    · refine .check (fun h => h) (fun reply _ passed => ?_) fun _ =>
        checks_credit fun _ _ => trivial
      obtain ⟨carried, judged⟩ := verdict_eq_ok_iff.1 passed
      exact ⟨carried, refusing_eq_ok_iff.1 judged⟩
    · intro log receipt course
      obtain ⟨_, _, _, rfl, remembered, credited⟩ := exchanges_bind_ok course
      obtain ⟨reply, rfl, -, -⟩ := exchanges_check_ok remembered
      obtain ⟨locked, statements, rows⟩ := sent_credit credited
      refine ⟨locked, ?_, fun ids reply among => rows ids reply ?_⟩
      · show _ = c.source.eventTable?.toList.map _ ++ _
        rw [partner, List.map_append, statements]
        rfl
      · simpa using among

/-- A withdrawal is a unit: the debit, and the row. -/
theorem isUnit_createWithdrawal (order : NewWithdrawal) :
    ∃ body, IsUnit (.createWithdrawal order) body := by
  obtain ⟨judge, hjudge⟩ := Classical.axiomOfChoice silent_withdrawal
  have program : answer (.createWithdrawal order) = transaction (
      check "debit user" (.debitUser order.amount order.user)
        (refusing (· ≠ 1) fun _ => .insufficientBalance order.user order.amount) >>= fun _ =>
      check "insert withdrawal" (.insertWithdrawal order)
        (firstIn "insert withdrawal" judge)) := by
    rw [← firstRow_bind_eq, ← funext hjudge]
    exact createWithdrawal_eq order
  refine ⟨_, program, ?_, ?_⟩
  · refine .check (fun h => h) (fun reply _ passed => ?_) fun _ => .single (fun h => h) ?_
    · obtain ⟨carried, judged⟩ := verdict_eq_ok_iff.1 passed
      exact ⟨carried, not_not.1 (refusing_eq_ok_iff.1 judged)⟩
    · intro reply w carried judged
      obtain ⟨row, first, given⟩ := firstIn_eq_ok_iff.1 judged
      exact ⟨carried, row, w, first, by rw [hjudge, given]; rfl⟩
  · intro log w course
    obtain ⟨_, _, _, rfl, debited, inserted⟩ := exchanges_bind_ok course
    obtain ⟨r₁, rfl, -, -⟩ := exchanges_check_ok debited
    obtain ⟨r₂, rfl, -, -⟩ := exchanges_check_ok inserted
    exact ⟨[], rfl, by simp⟩

/-- The move of a batch is a unit of one statement. -/
theorem isUnit_advance {ids : List Int} (some : ids ≠ []) (current next : WithdrawalStatus)
    (transactionId : Option String) (now : Instant) :
    ∃ body, IsUnit (.advanceWithdrawals ids current next transactionId now) body := by
  have members : distinctAscending ids ≠ [] := fun none => some (by
    refine List.eq_nil_iff_forall_not_mem.2 fun id among => ?_
    have : id ∈ distinctAscending ids := mem_distinctAscending.2 among
    rw [none] at this
    cases this)
  refine ⟨_, advance_eq members current next transactionId now, ?_, ?_⟩
  · refine .check (fun h => h) (fun reply _ passed => ?_) fun _ => .pure _
    obtain ⟨carried, judged⟩ := verdict_eq_ok_iff.1 passed
    exact ⟨carried, not_not.1 (refusing_eq_ok_iff.1 judged)⟩
  · intro log n course
    obtain ⟨_, _, _, rfl, moved, rfl, ⟨⟩⟩ := exchanges_bind_ok course
    obtain ⟨reply, rfl, -, -⟩ := exchanges_check_ok moved
    exact ⟨[], rfl, by simp⟩

/-- A unit sends no commit. -/
theorem IsUnit.ne_commit {op : StoreOp} {body : DatabaseStep op.Answer} (unit : IsUnit op body)
    {inner : List Exchange} {r : op.Reply} (course : body.run.Exchanges inner r) :
    ∀ e ∈ inner, e.1 ≠ .commit := by
  intro e he same
  have inside := unit.checks.inside.exchanged course e he
  rw [same] at inside
  exact inside trivial

/-- Every request that is a transaction runs a unit, or is refused before
anything is sent. -/
theorem exists_isUnit {op : StoreOp} (h : op.IsTransaction) :
    (∃ body, IsUnit op body) ∨ ∃ fault, answer op = throw fault := by
  cases op with
  | creditReward c => exact .inl (isUnit_creditReward c)
  | creditPartner c => exact isUnit_creditPartner c
  | createWithdrawal order => exact .inl (isUnit_createWithdrawal order)
  | advanceWithdrawals ids current next transactionId now =>
    exact .inl (isUnit_advance h current next transactionId now)
  | _ => cases h

/-- An answer comes right after a commit that was confirmed. -/
theorem confirmed_of_ok {op : StoreOp} (h : op.IsTransaction) {log : List Exchange}
    {a : op.Answer} (course : (answer op).run.Exchanges log (.ok a)) :
    ∃ before kept, log = before ++ [(.commit, kept)] ∧ kept.failure? = none := by
  obtain ⟨body, unit⟩ | ⟨fault, refused⟩ := exists_isUnit h
  · rw [unit.program] at course
    cases exchanges_transaction course with
    | @kept begun kept inner _ _ _ confirmed =>
      exact ⟨(.start, begun) :: inner, kept, rfl, confirmed⟩
  · rw [refused] at course
    cases course.2

/-- Around the only commit of a course there is one way to split it. -/
theorem eq_of_append_commit {log rest before after : List Exchange} {r kept : DatabaseReply}
    (whole : log ++ (.commit, r) :: rest = before ++ (.commit, kept) :: after)
    (first : ∀ e ∈ before, e.1 ≠ .commit) (last : ∀ e ∈ after, e.1 ≠ .commit) :
    log = before := by
  rcases List.append_eq_append_iff.1 whole with ⟨more, rfl, h⟩ | ⟨more, rfl, h⟩
  · cases more with
    | nil => exact (List.append_nil log).symm
    | cons e others =>
      obtain ⟨rfl, -⟩ := List.cons.inj h
      exact absurd rfl (first _ (List.mem_append_right _ List.mem_cons_self))
  · cases more with
    | nil => exact List.append_nil before
    | cons e others =>
      obtain ⟨-, rfl⟩ := List.cons.inj h
      exact absurd rfl (last _ (List.mem_append_right _ List.mem_cons_self))

/-- **When a commit is about to be sent the unit is complete**: all of it was
sent, and every reply was acceptable. -/
theorem sent_of_leads_commit {op : StoreOp} (h : op.IsTransaction) {log : List Exchange}
    {next : DatabaseReply → Program Statement (fun _ => DatabaseReply) op.Reply}
    (leads : (answer op).run.Leads log (.call .commit next)) :
    ∃ begun inner a, log = (.start, begun) :: inner ∧ begun.failure? = none
      ∧ op.Sent a inner ∧ ∀ e ∈ inner, op.Accepts e.1 e.2 := by
  -- whatever comes of the commit, the whole is a course of the transaction
  obtain ⟨rest, r, ending⟩ := Program.exists_exchanges (next .lost)
  have course : (answer op).run.Exchanges (log ++ (.commit, .lost) :: rest) r :=
    leads.exchanges ⟨.lost, rest, rfl, ending⟩
  obtain ⟨body, unit⟩ | ⟨fault, refused⟩ := exists_isUnit h
  · rw [unit.program] at course
    have sends : (.commit, .lost) ∈ log ++ (.commit, .lost) :: rest :=
      List.mem_append_right _ List.mem_cons_self
    generalize whole : log ++ (.commit, .lost) :: rest = all at course sends
    have split {begun kept : DatabaseReply} {inner last : List Exchange} {a : op.Answer}
        (started : begun.failure? = none) (hinner : body.run.Exchanges inner (.ok a))
        (ends : log ++ (.commit, .lost) :: rest
          = ((.start, begun) :: inner) ++ (.commit, kept) :: last)
        (plain : ∀ e ∈ last, e.1 ≠ .commit) :
        ∃ begun inner a, log = (.start, begun) :: inner ∧ begun.failure? = none
          ∧ op.Sent a inner ∧ ∀ e ∈ inner, op.Accepts e.1 e.2 := by
      have first : ∀ e ∈ (.start, begun) :: inner, e.1 ≠ .commit := by
        simpa using unit.ne_commit hinner
      exact ⟨begun, inner, a, eq_of_append_commit ends first plain, started,
        unit.sent inner a hinner, (unit.checks.stops hinner).2 ⟨a, rfl⟩⟩
    cases exchanges_transaction course with
    | notBegun failed => simp at sends
    | @undone begun undone inner fault started hinner =>
      have among : (Statement.commit, DatabaseReply.lost) ∈ inner := by simpa using sends
      exact absurd rfl (unit.ne_commit hinner _ among)
    | kept started hinner confirmed =>
      exact split started hinner (by simpa using whole) (by simp)
    | unconfirmed started hinner failed =>
      exact split started hinner (by simpa using whole) (by simp)
  · rw [refused] at course
    exact absurd course.1 (by simp)

/-! ## The law -/

/-- A transaction that was begun stops where its unit stops, or after it. -/
theorem pairwise_stopsBefore {op : StoreOp} {begun : DatabaseReply}
    (started : begun.failure? = none) {inner last : List Exchange}
    (hinner : inner.Pairwise fun e _ => op.Accepts e.1 e.2)
    (hlast : last.Pairwise op.StopsBefore)
    (between : ∀ e ∈ inner, ∀ later ∈ last, op.StopsBefore e later) :
    ((.start, begun) :: inner ++ last).Pairwise op.StopsBefore := by
  have first : op.Accepts .start begun := ⟨started, trivial⟩
  refine List.pairwise_append.2 ⟨.cons (fun _ _ unmet => absurd first unmet) ?_, hlast, ?_⟩
  · exact hinner.imp fun met unmet => absurd met unmet
  · intro e he later hlater
    rcases List.mem_cons.1 he with rfl | he
    · exact fun unmet => absurd first unmet
    · exact between e he later hlater

/-- **A transaction is committed exactly when the request succeeds**, whatever
the database replies. The value is an answer only if the statements of the unit
were sent once and in order, after the transaction was begun and before it was
committed, and every reply was acceptable, that to the commit included. The
value is a refusal only if no commit was sent, or one was, at the end, and its
failure is what the refusal reports. After a reply that is not acceptable
nothing but a rollback is sent. -/
theorem commits_iff_succeeds {op : StoreOp} (h : op.IsTransaction) {log : List Exchange}
    {r : op.Reply} (course : (answer op).run.Exchanges log r) :
    (∀ a, r = .ok a → ∃ begun inner kept,
        log = (.start, begun) :: inner ++ [(.commit, kept)]
          ∧ op.Sent a inner ∧ ∀ e ∈ log, op.Accepts e.1 e.2)
      ∧ (∀ fault, r = .error fault →
        (∀ e ∈ log, e.1 ≠ .commit) ∨ ∃ before kept undone detail,
          log = before ++ [(.commit, kept), (.rollback, undone)]
            ∧ (∀ e ∈ before, e.1 ≠ .commit)
            ∧ kept.failure? = some detail
            ∧ fault = .error (.unknown ("commit: " ++ detail)))
      ∧ log.Pairwise op.StopsBefore := by
  obtain ⟨body, unit⟩ | ⟨fault, refused⟩ := exists_isUnit h
  · rw [unit.program] at course
    cases exchanges_transaction course with
    | notBegun failed =>
      refine ⟨?_, fun _ _ => .inl ?_, List.pairwise_singleton _ _⟩
      · rintro a ⟨⟩
      · simp
    | @undone begun undone inner fault started hinner =>
      refine ⟨?_, fun _ _ => .inl ?_, ?_⟩
      · rintro a ⟨⟩
      · simpa [or_imp, forall_and] using unit.ne_commit hinner
      · refine pairwise_stopsBefore started (unit.checks.stops hinner).1
          (List.pairwise_singleton _ _) fun e _ later hlater _ => ?_
        exact congrArg Prod.fst (List.mem_singleton.1 hlater)
    | @kept begun kept inner a started hinner confirmed =>
      have met := (unit.checks.stops hinner).2 ⟨a, rfl⟩
      refine ⟨?_, ?_, ?_⟩
      · rintro _ ⟨⟩
        refine ⟨begun, inner, kept, rfl, unit.sent inner a hinner, fun e he => ?_⟩
        rcases List.mem_append.1 he with he | he
        · rcases List.mem_cons.1 he with rfl | he
          · exact ⟨started, trivial⟩
          · exact met e he
        · rw [List.mem_singleton.1 he]
          exact ⟨confirmed, trivial⟩
      · rintro fault ⟨⟩
      · exact pairwise_stopsBefore started (unit.checks.stops hinner).1
          (List.pairwise_singleton _ _) fun e he _ _ unmet => absurd (met e he) unmet
    | @unconfirmed begun kept undone inner a detail started hinner failed =>
      have met := (unit.checks.stops hinner).2 ⟨a, rfl⟩
      refine ⟨?_, ?_, ?_⟩
      · rintro _ ⟨⟩
      · rintro _ ⟨⟩
        refine .inr ⟨(.start, begun) :: inner, kept, undone, detail, rfl, ?_, failed, rfl⟩
        simpa using unit.ne_commit hinner
      · refine pairwise_stopsBefore started (unit.checks.stops hinner).1 ?_
          fun e he _ _ unmet => absurd (met e he) unmet
        exact .cons (fun later hlater _ => congrArg Prod.fst (List.mem_singleton.1 hlater))
          (List.pairwise_singleton _ _)
  · rw [refused] at course
    obtain ⟨rfl, rfl⟩ := course
    refine ⟨?_, fun _ _ => .inl fun e he => absurd he List.not_mem_nil, .nil⟩
    rintro a ⟨⟩

/-- A reward is credited and shared, and the database confirms that it keeps it;
a withdrawal whose debit touches no row is undone. -/
theorem commits_iff_succeeds_of_shared_reward :
    let row (id : Int) (referrer : Cell) : Row :=
      ⟨[("id", .int id), ("email", .text "a@x"), ("address", .text "addr"), ("balance", .int 0),
        ("total_income", .int 0), ("total_income_from_referees", .int 0),
        ("referer_total_income", .int 0), ("referer_id", referrer),
        ("reward_interval_secs", .int 300), ("rewarded_at", .null),
        ("created_at", .instant ⟨0, 0⟩)]⟩
    let reward : StoreOp := .creditReward ⟨1, 50, 5, ⟨0, 0⟩⟩
    let receipt : Receipt := ⟨⟨9, 1, some 2, .reward, 50, 5, ⟨0, 0⟩⟩, "addr", true⟩
    let unit : List Exchange :=
      [(.selectReferrer 1, .rows [⟨[("referer_id", .int 2)]⟩]),
        (.lockUsers [1, 2], .rows [row 1 (.int 2), row 2 .null]),
        (.creditReferrer 5 2, .changed 1),
        (.insertIncome 1 (some 2) .reward 50 5 ⟨0, 0⟩, .rows [⟨[("id", .int 9)]⟩]),
        (.creditUser 50 5 (some ⟨0, 0⟩) 1, .changed 1),
        (.addToDay (Instant.day ⟨0, 0⟩) 55, .changed 1)]
    let order : StoreOp := .createWithdrawal ⟨1, "out", 60, ⟨0, 0⟩⟩
    let undone : List Exchange :=
      [(.start, .changed 0), (.debitUser 60 1, .changed 0), (.rollback, .changed 0)]
    (answer reward).run.Exchanges ((.start, .changed 0) :: unit ++ [(.commit, .changed 0)])
        (.ok receipt)
      ∧ (∃ begun inner kept,
        (.start, .changed 0) :: unit ++ [(.commit, .changed 0)]
            = (.start, begun) :: inner ++ [(.commit, kept)]
          ∧ reward.Sent receipt inner)
      ∧ (answer order).run.Exchanges undone (Outcome.refuse (.insufficientBalance 1 60))
      ∧ undone.Pairwise order.StopsBefore := by
  intro row reward receipt unit order undone
  have course : (answer reward).run.Exchanges
      ((.start, .changed 0) :: unit ++ [(.commit, .changed 0)]) (.ok receipt) :=
    ⟨_, _, rfl, _, _, rfl, _, _, rfl, _, _, rfl, _, _, rfl, _, _, rfl, _, _, rfl, _, _, rfl,
      rfl, rfl⟩
  have refused : (answer order).run.Exchanges undone (Outcome.refuse (.insufficientBalance 1 60)) :=
    ⟨_, _, rfl, _, _, rfl, _, _, rfl, rfl, rfl⟩
  have committed := (commits_iff_succeeds (show reward.IsTransaction from trivial) course).1
    receipt rfl
  obtain ⟨begun, inner, kept, brackets, sent, -⟩ := committed
  exact ⟨course, ⟨begun, inner, kept, brackets, sent⟩, refused,
    (commits_iff_succeeds (show order.IsTransaction from trivial) refused).2.2⟩

end DatabaseStep

end RewardLedger
