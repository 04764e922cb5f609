import RewardLedger.Proofs.Relational.Unit

/-!
# One credit, one set of amounts

The share of the referrer goes into three statements of a credit and into its receipt,
and for a scheduled reward into a fourth. Whether it is paid at all depends on three
replies: the one that names the referrer, the one with the rows that were locked, and
the one that counts the rows to which the share was added. The database may give any
replies, so nothing but the program can see to it that the statements agree.

What a finished credit sent, and what came back, is said once (`CreditCourse`). The
amounts are read off it.
-/

namespace RewardLedger

/-! ## What the replies tell -/

/-- The reply names a referrer. -/
def DatabaseReply.Names (reply : DatabaseReply) (r : Int) : Prop :=
  ∃ row c, reply.rowList.head? = some row ∧ row.cells.head? = some c ∧ c.2 = .int r

/-- **A referrer's row was locked**: the reply for the user names the referrer, and a row
of the referrer is in the reply to the lock. -/
def LocksReferrer (log : List Exchange) (user r : Int) : Prop :=
  ∃ asked taken locked, (.selectReferrer user, asked) ∈ log ∧ asked.Names r
    ∧ (.lockUsers [user, r], taken) ∈ log ∧ taken.rowList.mapM Row.user? = some locked
    ∧ ∃ u ∈ locked, u.id = r

/-- **The share was paid**: a referrer's row was locked, and the share was added to
exactly one row. -/
def PaysReferrer (log : List Exchange) (user share : Int) : Prop :=
  ∃ r touched, LocksReferrer log user r ∧ (.creditReferrer share r, touched) ∈ log
    ∧ touched.affected = 1

/-- A statement on which the share depends, or that pays it. -/
def Statement.OfShare : Statement → Prop
  | .selectReferrer _ | .lockUsers _ | .creditReferrer .. => True
  | _ => False

namespace DatabaseStep

theorem referrerIn_eq_some_iff {user r : Int} {reply : DatabaseReply} :
    referrerIn user reply = .ok (some r) ↔ reply.Names r := by
  unfold referrerIn
  constructor
  · intro told
    cases first : reply.rowList.head? with
    | none =>
      rw [first] at told
      cases told
    | some row =>
      rw [first] at told
      obtain ⟨c, cell, value⟩ := Option.bind_eq_some_iff.1 (legible_eq_ok_iff.1 told)
      refine ⟨row, c, first, cell, ?_⟩
      split at value
      · cases value
      · obtain ⟨n, int, ⟨⟩⟩ := Option.map_eq_some_iff.1 value
        unfold Cell.int? at int
        split at int
        · next given => rw [given, Option.some.inj int]
        · cases int
  · rintro ⟨row, c, first, cell, value⟩
    rw [first]
    refine legible_eq_ok_iff.2 ?_
    rw [cell, Option.bind_some, value]
    rfl

/-! ## The course of a credit -/

/-- **The ways in which the share of a referrer goes**, with whether it was paid. -/
inductive ShareCourse (referrer : Option Int) (locked : List User) (offered : Int) :
    List Exchange → Bool → Prop
  /-- No referrer is named, or its row is missing. -/
  | none (absent : ∀ r, referrer = some r → ∀ u ∈ locked, u.id ≠ r) :
    ShareCourse referrer locked offered [] false
  | asked {r : Int} {touched : DatabaseReply} (named : referrer = some r)
    (present : ∃ u ∈ locked, u.id = r) :
    ShareCourse referrer locked offered [(.creditReferrer offered r, touched)]
      (touched.affected == 1)

/-- **The course of a finished credit**, with its receipt. -/
inductive CreditCourse (source : IncomeSource) (id amount offered : Int) (now : Instant) :
    List Exchange → Receipt → Prop
  | mk {asked taken recorded touched : DatabaseReply} {referrer : Option Int}
    {locked : List User} {u : User} {shared : List Exchange} {credited : Bool}
    {identifier : Int} (named : referrerIn id asked = .ok referrer)
    (rows : taken.rowList.mapM Row.user? = some locked)
    (share : ShareCourse referrer locked offered shared credited) :
    CreditCourse source id amount offered now
      ([(.selectReferrer id, asked), (.lockUsers (id :: referrer.toList), taken)] ++ shared
        ++ [(.insertIncome id referrer source amount (if credited then offered else 0) now,
            recorded),
          (.creditUser amount (if credited then offered else 0)
            (if source = .reward then some now else Option.none) id, touched)])
      ⟨⟨identifier, id, referrer, source, amount, if credited then offered else 0, now⟩,
        u.address, credited⟩

/-- The share is offered by one statement, if the referrer's row was locked. -/
theorem course_creditReferrer {referrer : Option Int} {locked : List User} {offered : Int}
    {log : List Exchange} {credited : Bool}
    (course : (creditReferrer referrer locked offered).run.Exchanges log (.ok credited)) :
    ShareCourse referrer locked offered log credited := by
  rw [creditReferrer_eq] at course
  cases present : referrer.filter fun r => locked.any (·.id = r) with
  | none =>
    rw [present] at course
    obtain ⟨rfl, ⟨⟩⟩ := course
    refine .none fun r named u hu same => ?_
    rw [named, Option.filter_eq_none_iff] at present
    exact present r rfl (List.any_eq_true.2 ⟨u, hu, decide_eq_true same⟩)
  | some r =>
    rw [present] at course
    obtain ⟨named, among⟩ := Option.filter_eq_some_iff.1 present
    obtain ⟨reply, rfl, -, ⟨⟩⟩ := exchanges_check_ok course
    obtain ⟨u, hu, same⟩ := List.any_eq_true.1 among
    exact .asked named ⟨u, hu, of_decide_eq_true same⟩

/-- **Every finished credit goes like this.** -/
theorem course_credit {source : IncomeSource} {id amount offered : Int} {now : Instant}
    {log : List Exchange} {receipt : Receipt}
    (course : (credit source id amount offered now).run.Exchanges log (.ok receipt)) :
    CreditCourse source id amount offered now log receipt := by
  rw [credit_eq] at course
  obtain ⟨referrer, _, _, rfl, asked, afterAsking⟩ := exchanges_bind_ok course
  obtain ⟨r₁, rfl, -, named⟩ := exchanges_check_ok asked
  obtain ⟨⟨locked, u⟩, _, _, rfl, taken, afterTaking⟩ := exchanges_bind_ok afterAsking
  obtain ⟨r₂, rfl, -, judged⟩ := exchanges_check_ok taken
  obtain ⟨credited, shared, _, rfl, sharing, afterSharing⟩ := exchanges_bind_ok afterTaking
  obtain ⟨income, _, _, rfl, recorded, afterRecording⟩ := exchanges_bind_ok afterSharing
  rw [recordIncome_eq] at recorded
  obtain ⟨r₃, rfl, -, identified⟩ := exchanges_check_ok recorded
  obtain ⟨_, _, _, rfl, paid, rfl, ⟨⟩⟩ := exchanges_bind_ok afterRecording
  rw [creditUser_eq] at paid
  obtain ⟨r₄, rfl, -, -⟩ := exchanges_check_ok paid
  -- the income is the one that was to be recorded
  obtain ⟨row, -, identified⟩ := firstIn_eq_ok_iff.1 identified
  obtain ⟨identifier, -, ⟨⟩⟩ := bind_eq_ok_iff.1 identified
  have share : ShareCourse referrer locked offered shared credited :=
    course_creditReferrer sharing
  have whole : CreditCourse source id amount offered now
      ([(.selectReferrer id, r₁), (.lockUsers (id :: referrer.toList), r₂)] ++ shared
        ++ [(.insertIncome id referrer source amount (if credited then offered else 0) now, r₃),
          (.creditUser amount (if credited then offered else 0)
            (if source = .reward then some now else none) id, r₄)])
      ⟨⟨identifier, id, referrer, source, amount, if credited then offered else 0, now⟩,
        u.address, credited⟩ :=
    .mk named (lockedIn_eq_ok_iff.1 judged).1 share
  simpa using whole

theorem CreditCourse.amount_eq {source : IncomeSource} {id amount offered : Int} {now : Instant}
    {log : List Exchange} {receipt : Receipt}
    (course : CreditCourse source id amount offered now log receipt) :
    receipt.income.amount = amount := by
  cases course
  rfl

/-! ## What a course tells of the share -/

/-- **These exchanges of a log are all that concern the share.** -/
structure ShareIn (log : List Exchange) (id : Int) (asked taken : DatabaseReply)
    (referrer : Option Int) (shared : List Exchange) : Prop where
  asked_iff : ∀ reply, (.selectReferrer id, reply) ∈ log ↔ reply = asked
  taken_iff : ∀ ids reply, (.lockUsers ids, reply) ∈ log
    ↔ ids = id :: referrer.toList ∧ reply = taken
  shared_iff : ∀ share r reply, (.creditReferrer share r, reply) ∈ log
    ↔ (.creditReferrer share r, reply) ∈ shared

/-- Those of a credit are. -/
theorem ShareCourse.shareIn {id offered : Int} {asked taken : DatabaseReply}
    {referrer : Option Int} {locked : List User} {shared rest : List Exchange} {credited : Bool}
    (share : ShareCourse referrer locked offered shared credited)
    (aside : ∀ e ∈ rest, ¬ e.1.OfShare) :
    ShareIn ([(.selectReferrer id, asked), (.lockUsers (id :: referrer.toList), taken)]
      ++ shared ++ rest) id asked taken referrer shared := by
  have asks (reply : DatabaseReply) : (.selectReferrer id, reply) ∉ rest :=
    fun h => aside _ h trivial
  have locks (ids : List Int) (reply : DatabaseReply) : (.lockUsers ids, reply) ∉ rest :=
    fun h => aside _ h trivial
  have pays (share r : Int) (reply : DatabaseReply) : (.creditReferrer share r, reply) ∉ rest :=
    fun h => aside _ h trivial
  cases share with
  | none => constructor <;> simp [asks, locks, pays]
  | asked => constructor <;> simp [asks, locks, pays]

/-- Exchanges that do not concern the share may come before and after. -/
theorem ShareIn.around {log before after shared : List Exchange} {id : Int}
    {asked taken : DatabaseReply} {referrer : Option Int}
    (all : ShareIn log id asked taken referrer shared)
    (earlier : ∀ e ∈ before, ¬ e.1.OfShare) (later : ∀ e ∈ after, ¬ e.1.OfShare) :
    ShareIn (before ++ log ++ after) id asked taken referrer shared := by
  have inside (e : Exchange) (of : e.1.OfShare) : e ∈ before ++ log ++ after ↔ e ∈ log := by
    rw [List.mem_append, List.mem_append, or_iff_left fun h => later _ h of,
      or_iff_right fun h => earlier _ h of]
  exact
    { asked_iff := fun reply =>
        (inside (.selectReferrer id, reply) trivial).trans (all.asked_iff reply)
      taken_iff := fun ids reply =>
        (inside (.lockUsers ids, reply) trivial).trans (all.taken_iff ids reply)
      shared_iff := fun share r reply =>
        (inside (.creditReferrer share r, reply) trivial).trans (all.shared_iff share r reply) }

section Share

variable {log : List Exchange} {id offered : Int} {asked taken : DatabaseReply}
  {referrer : Option Int} {locked : List User} {shared : List Exchange} {credited : Bool}
  (named : referrerIn id asked = .ok referrer)
  (rows : taken.rowList.mapM Row.user? = some locked)
  (all : ShareIn log id asked taken referrer shared)
  (share : ShareCourse referrer locked offered shared credited)

include named rows all

/-- A referrer's row was locked if the user named the referrer and the row is there. -/
theorem ShareIn.locksReferrer_iff (r : Int) :
    LocksReferrer log id r ↔ referrer = some r ∧ ∃ u ∈ locked, u.id = r := by
  constructor
  · rintro ⟨x, y, users, hx, names, hy, read, present⟩
    cases (all.asked_iff x).1 hx
    cases named.symm.trans (referrerIn_eq_some_iff.2 names)
    obtain ⟨-, rfl⟩ := (all.taken_iff _ y).1 hy
    cases rows.symm.trans read
    exact ⟨rfl, present⟩
  · rintro ⟨rfl, present⟩
    exact ⟨asked, taken, locked, (all.asked_iff asked).2 rfl, referrerIn_eq_some_iff.1 named,
      (all.taken_iff _ taken).2 ⟨rfl, rfl⟩, rows, present⟩

include share

/-- **The share was paid if the program says so.** -/
theorem ShareIn.credited_iff : credited = true ↔ PaysReferrer log id offered := by
  have locks := all.locksReferrer_iff named rows
  cases share with
  | none absent =>
    refine ⟨nofun, ?_⟩
    rintro ⟨r, touched, locking, -⟩
    obtain ⟨named, u, hu, same⟩ := (locks r).1 locking
    exact absurd same (absent r named u hu)
  | @asked r touched named present =>
    rw [beq_iff_eq]
    constructor
    · intro one
      refine ⟨r, touched, (locks r).2 ⟨named, present⟩, ?_, one⟩
      exact (all.shared_iff offered r touched).2 List.mem_cons_self
    · rintro ⟨r', x, -, sent, one⟩
      cases List.mem_singleton.1 ((all.shared_iff offered r' x).1 sent)
      exact one

/-- **The share is offered to a referrer whose row was locked**, once, and to nobody
else. -/
theorem ShareIn.exists_offered :
    ∃ paid : Option Int, (∀ r, paid = some r ↔ LocksReferrer log id r)
      ∧ shared.map Prod.fst = paid.toList.map (.creditReferrer offered) := by
  have locks := all.locksReferrer_iff named rows
  cases share with
  | none absent =>
    refine ⟨none, fun r => ⟨nofun, fun locking => ?_⟩, rfl⟩
    obtain ⟨named, u, hu, same⟩ := (locks r).1 locking
    exact absurd same (absent r named u hu)
  | @asked r touched named present =>
    refine ⟨some r, fun r' => ?_, rfl⟩
    rw [locks r', named]
    exact ⟨fun same => ⟨same, Option.some.inj same ▸ present⟩, And.left⟩

end Share

/-! ## The amounts -/

/-- **A finished credit keeps to one set of amounts**, in all that it sent and in its
receipt. What comes before the credit itself is a parameter. -/
structure KeepsAmounts (source : IncomeSource) (user amount offered : Int) (now : Instant)
    (first : List Statement) (log : List Exchange) (receipt : Receipt) : Prop where
  credited_iff : receipt.referrerCredited = true ↔ PaysReferrer log user offered
  share_eq : receipt.income.referrerAmount = if receipt.referrerCredited then offered else 0
  amount_eq : receipt.income.amount = amount
  /-- All statements, each of them once. The share is offered to a referrer only if its
  row was locked; the day's total and the time of the reward are for rewards only. -/
  sent : ∃ asked : Option Int, (∀ r, asked = some r ↔ LocksReferrer log user r)
    ∧ log.map Prod.fst = [.start] ++ first
      ++ [.selectReferrer user, .lockUsers (user :: receipt.income.referrer.toList)]
      ++ asked.toList.map (.creditReferrer offered)
      ++ [.insertIncome user receipt.income.referrer source amount
            receipt.income.referrerAmount now,
          .creditUser amount receipt.income.referrerAmount
            (if source = .reward then some now else none) user]
      ++ (if source = .reward then
          [.addToDay now.day (amount + receipt.income.referrerAmount)] else [])
      ++ [.commit]

/-- A credit keeps to one set of amounts if nothing of the share is sent around it. -/
theorem CreditCourse.keepsAmounts {source : IncomeSource} {user amount offered : Int}
    {now : Instant} {inner : List Exchange} {receipt : Receipt}
    (course : CreditCourse source user amount offered now inner receipt)
    (before after : List Exchange)
    (earlier : ∀ e ∈ before, ¬ e.1.OfShare) (later : ∀ e ∈ after, ¬ e.1.OfShare)
    {first : List Statement} (begun : before.map Prod.fst = [.start] ++ first)
    (ended : after.map Prod.fst = (if source = .reward then
      [.addToDay now.day (amount + receipt.income.referrerAmount)] else []) ++ [.commit]) :
    KeepsAmounts source user amount offered now first (before ++ inner ++ after) receipt := by
  cases course with
  | @mk asked taken recorded touched referrer locked u shared credited identifier named rows
      share =>
    have aside : ∀ e ∈ [(Statement.insertIncome user referrer source amount
          (if credited then offered else 0) now, recorded),
        (Statement.creditUser amount (if credited then offered else 0)
          (if source = .reward then some now else none) user, touched)], ¬ e.1.OfShare := by
      simp [Statement.OfShare]
    have inner : ShareIn _ user asked taken referrer shared := share.shareIn aside
    have all := inner.around earlier later
    obtain ⟨paid, hpaid, statements⟩ := all.exists_offered named rows share
    exact
      { credited_iff := all.credited_iff named rows share
        share_eq := rfl
        amount_eq := rfl
        sent := ⟨paid, hpaid, by
          simp only [List.map_append, List.map_cons, List.map_nil, begun, ended, statements,
            List.append_assoc]⟩ }

/-- What is disbursed is the sum of the amounts of the receipt, if it fits. -/
theorem disbursed_eq {receipt : Receipt} {total : Int}
    (fits : Outcome.ofRange receipt.disbursed? = .ok total) :
    total = receipt.income.amount + receipt.income.referrerAmount := by
  cases sum : receipt.disbursed? with
  | none =>
    rw [sum] at fits
    cases fits
  | some d =>
    rw [sum] at fits
    cases fits
    exact (Amount.add?_eq_some_iff.1 sum).2.symm

/-- **A credit that is answered wrote one set of amounts**, whatever the database
replied on the way. The referrer counts as credited exactly if the replies say that the
share was paid, and the share is what was offered then, and nothing otherwise. That
share, and the amount that was ordered, stand in the record of the income, in the
user's row and in the receipt, and the sum of both in the total of the day, which is
written once for a reward and never for a partner's event. -/
theorem credit_keeps_amounts :
    (∀ (c : RewardCredit) (log : List Exchange) (receipt : Receipt),
        (answer (.creditReward c)).run.Exchanges log (.ok receipt) →
          KeepsAmounts .reward c.user c.amount c.referrerAmount c.now [] log receipt)
      ∧ ∀ (c : PartnerCredit) (log : List Exchange) (receipt : Receipt),
        (answer (.creditPartner c)).run.Exchanges log (.ok receipt) →
          c.source ≠ .reward ∧ ∃ relation, c.source.eventTable? = some relation
            ∧ KeepsAmounts c.source c.user c.amount c.referrerAmount c.now
              [.insertEvent relation c.event c.amount c.now] log receipt := by
  constructor
  · intro c log receipt course
    cases exchanges_transaction course with
    | @kept begun kept inner _ _ whole _ =>
      obtain ⟨_, creditLog, _, rfl, credited, afterCredit⟩ := exchanges_bind_ok whole
      obtain ⟨total, _, _, rfl, fits, afterSum⟩ := exchanges_bind_ok afterCredit
      obtain ⟨_, _, _, rfl, added, rfl, ⟨⟩⟩ := exchanges_bind_ok afterSum
      rw [carryOut_eq] at added
      obtain ⟨reply, rfl, -, -⟩ := exchanges_check_ok added
      obtain ⟨sum, rfl⟩ := exchanges_ofOutcome_ok fits
      have sent := (course_credit credited).keepsAmounts [(.start, begun)]
        [(.addToDay c.now.day total, reply), (.commit, kept)]
        (by simp [Statement.OfShare]) (by simp [Statement.OfShare]) rfl
        (by rw [disbursed_eq sum, (course_credit credited).amount_eq]; rfl)
      simpa using sent
  · intro c log receipt course
    cases partner : c.source.eventTable? with
    | none =>
      have refused : answer (.creditPartner c) = refuse (.invalidSource c.source.name) := by
        show creditPartner c = _
        unfold creditPartner
        rw [partner]
      rw [refused] at course
      cases course.2
    | some relation =>
      have source : c.source ≠ .reward := by
        intro same
        rw [same] at partner
        cases partner
      rw [show answer (.creditPartner c) = creditPartner c from rfl, creditPartner_eq partner]
        at course
      cases exchanges_transaction course with
      | @kept begun kept inner _ _ whole _ =>
        obtain ⟨_, _, creditLog, rfl, remembered, credited⟩ := exchanges_bind_ok whole
        obtain ⟨reply, rfl, -, -⟩ := exchanges_check_ok remembered
        have sent := (course_credit credited).keepsAmounts
          [(.start, begun), (.insertEvent relation c.event c.amount c.now, reply)]
          [(.commit, kept)] (by simp [Statement.OfShare]) (by simp [Statement.OfShare])
          rfl (by rw [if_neg source]; rfl)
        exact ⟨source, relation, rfl, by simpa using sent⟩

/-- A user who is its own referrer is credited a reward, and the share with it. The
referrer of a partner's event has a row when the rows are locked, and none is touched
when the share is added to it. -/
theorem credit_keeps_amounts_of_self_referral :
    let row (id referrer : Int) : Row :=
      ⟨[("id", .int id), ("email", .text "a@x"), ("address", .text "addr"), ("balance", .int 0),
        ("total_income", .int 0), ("total_income_from_referees", .int 0),
        ("referer_total_income", .int 0), ("referer_id", .int referrer),
        ("reward_interval_secs", .int 300), ("rewarded_at", .null),
        ("created_at", .instant ⟨0, 0⟩)]⟩
    let own : List Exchange :=
      [(.start, .changed 0), (.selectReferrer 1, .rows [⟨[("referer_id", .int 1)]⟩]),
        (.lockUsers [1, 1], .rows [row 1 1]), (.creditReferrer 5 1, .changed 1),
        (.insertIncome 1 (some 1) .reward 50 5 ⟨0, 0⟩, .rows [⟨[("id", .int 9)]⟩]),
        (.creditUser 50 5 (some ⟨0, 0⟩) 1, .changed 1),
        (.addToDay (Instant.day ⟨0, 0⟩) 55, .changed 1), (.commit, .changed 0)]
    let vanished : List Exchange :=
      [(.start, .changed 0),
        (.insertEvent "offerwow_callbacks" ⟨.offerwow, "k", 1⟩ 50 ⟨0, 0⟩, .changed 1),
        (.selectReferrer 1, .rows [⟨[("referer_id", .int 2)]⟩]),
        (.lockUsers [1, 2], .rows [row 1 2, row 2 1]), (.creditReferrer 5 2, .changed 0),
        (.insertIncome 1 (some 2) .offerwow 50 0 ⟨0, 0⟩, .rows [⟨[("id", .int 9)]⟩]),
        (.creditUser 50 0 none 1, .changed 1), (.commit, .changed 0)]
    (answer (.creditReward ⟨1, 50, 5, ⟨0, 0⟩⟩)).run.Exchanges own
        (.ok ⟨⟨9, 1, some 1, .reward, 50, 5, ⟨0, 0⟩⟩, "addr", true⟩)
      ∧ PaysReferrer own 1 5
      ∧ (answer (.creditPartner ⟨.offerwow, "k", 1, 50, 5, ⟨0, 0⟩⟩)).run.Exchanges vanished
        (.ok ⟨⟨9, 1, some 2, .offerwow, 50, 0, ⟨0, 0⟩⟩, "addr", false⟩)
      ∧ ¬ PaysReferrer vanished 1 5 := by
  intro row own vanished
  have rewarded : (answer (.creditReward ⟨1, 50, 5, ⟨0, 0⟩⟩)).run.Exchanges own
      (.ok ⟨⟨9, 1, some 1, .reward, 50, 5, ⟨0, 0⟩⟩, "addr", true⟩) :=
    ⟨_, _, rfl, _, _, rfl, _, _, rfl, _, _, rfl, _, _, rfl, _, _, rfl, _, _, rfl, _, _, rfl,
      rfl, rfl⟩
  have delivered : (answer (.creditPartner ⟨.offerwow, "k", 1, 50, 5, ⟨0, 0⟩⟩)).run.Exchanges
      vanished (.ok ⟨⟨9, 1, some 2, .offerwow, 50, 0, ⟨0, 0⟩⟩, "addr", false⟩) :=
    ⟨_, _, rfl, _, _, rfl, _, _, rfl, _, _, rfl, _, _, rfl, _, _, rfl, _, _, rfl, _, _, rfl,
      rfl, rfl⟩
  have first := credit_keeps_amounts.1 _ _ _ rewarded
  obtain ⟨-, _, -, second⟩ := credit_keeps_amounts.2 _ _ _ delivered
  refine ⟨rewarded, first.credited_iff.1 rfl, delivered, fun paid => ?_⟩
  cases second.credited_iff.2 paid

end DatabaseStep

end RewardLedger
