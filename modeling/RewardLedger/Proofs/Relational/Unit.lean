import RewardLedger.Proofs.Relational.Exchange

/-!
# The units of a relational store, as checks

Four requests are transactions: the two credits, a withdrawal and the move of a
batch. Their programs read a reply in several steps, looking for the first row,
for a column, for the row of one user among those that were locked. Here each of
them is put as a chain of checks, one for each statement, with all that is
required of a reply in one judgement (`credit_eq`, `checks_credit` and so on).

What a judgement requires is said once more without the program, as the
condition under which a request accepts a reply (`StoreOp.Accepts`).
-/

namespace RewardLedger

namespace DatabaseStep

variable {α β : Type}

/-! ## Judgements -/

/-- A value that could be read, or the refusal of a reply that could not. -/
def legible (context : String) : Option α → Outcome α
  | some a => .ok a
  | none => .refuse (unreadable context)

@[simp] theorem ofOutcome_legible (context : String) (value : Option α) :
    ofOutcome (legible context value) = readable context value := by
  cases value <;> rfl

/-- Rows that are read one after the other can all be read, or the first that
cannot is refused. -/
theorem mapM_readable (context : String) (f : Row → Option α) (rows : List Row) :
    rows.mapM (fun r => readable context (f r)) = readable context (rows.mapM f) := by
  induction rows with
  | nil => rfl
  | cons r rest ih =>
    rw [List.mapM_cons, List.mapM_cons, ih]
    cases f r with
    | none => rfl
    | some a => cases rest.mapM f <;> rfl

/-- The referrer in a reply to the question for it. -/
def referrerIn (user : Int) (reply : DatabaseReply) : Outcome (Option Int) :=
  match reply.rowList.head? with
  | none => .refuse (.noRowForUser user)
  | some row => legible "get referer" (row.cells.head?.bind fun c =>
      if c.2 = .null then some none else c.2.int?.map some)

/-- The users in the reply to a lock, and which of them is to be credited. -/
def lockedIn (source : IncomeSource) (id : Int) (now : Instant) (reply : DatabaseReply) :
    Outcome (List User × User) := do
  let locked ← legible "decode user" (reply.rowList.mapM Row.user?)
  return (locked, ← payee source id now locked)

/-- Judge the first row of a reply; there has to be one. -/
def firstIn (context : String) (judge : Row → Outcome α) (reply : DatabaseReply) :
    Outcome α :=
  legible context reply.rowList.head? >>= judge

/-- The refusal of some numbers of rows that were touched. -/
def refusing (p : Nat → Prop) [DecidablePred p] (cause : Nat → Error) (reply : DatabaseReply) :
    Outcome PUnit :=
  if p reply.affected then .refuse (cause reply.affected) else .ok ⟨⟩

theorem legible_eq_ok_iff {context : String} {value : Option α} {a : α} :
    legible context value = .ok a ↔ value = some a := by
  cases value with
  | none =>
    constructor <;> intro h <;> cases h
  | some b => exact Except.ok.injEq b a ▸ Option.some.injEq b a ▸ Iff.rfl

/-- A judgement in two parts passes what both pass. -/
theorem bind_eq_ok_iff {o : Outcome α} {f : α → Outcome β} {b : β} :
    (o >>= f) = .ok b ↔ ∃ a, o = .ok a ∧ f a = .ok b := by
  cases o with
  | error fault =>
    constructor
    · intro h
      cases h
    · rintro ⟨a, h, -⟩
      cases h
  | ok a =>
    constructor
    · intro h
      exact ⟨a, rfl, h⟩
    · rintro ⟨_, ⟨⟩, h⟩
      exact h

theorem firstIn_eq_ok_iff {context : String} {judge : Row → Outcome α} {reply : DatabaseReply}
    {a : α} :
    firstIn context judge reply = .ok a
      ↔ ∃ row, reply.rowList.head? = some row ∧ judge row = .ok a := by
  unfold firstIn
  simp only [bind_eq_ok_iff, legible_eq_ok_iff]

theorem refusing_eq_ok_iff {p : Nat → Prop} [DecidablePred p] {cause : Nat → Error}
    {reply : DatabaseReply} : refusing p cause reply = .ok ⟨⟩ ↔ ¬ p reply.affected := by
  unfold refusing
  by_cases met : p reply.affected
  · rw [if_pos met]
    exact iff_of_false (fun h => by cases h) (not_not_intro met)
  · rw [if_neg met]
    exact iff_of_true rfl met

/-! ## Statements that are judged -/

/-- A judgement in two parts. -/
theorem ofOutcome_bind (o : Outcome α) (f : α → Outcome β) :
    ofOutcome (o >>= f) = ofOutcome o >>= fun a => ofOutcome (f a) := by
  cases o <;> rfl

/-- A program that goes on with what can be read in the first row is a check. -/
theorem firstRow_bind_eq (context : String) (s : Statement) (judge : Row → Outcome β) :
    (firstRow context s >>= fun row => ofOutcome (judge row))
      = check context s (firstIn context judge) := by
  unfold firstRow rows
  rw [bind_assoc, bind_assoc, ← carryOut_bind_eq]
  refine congrArg (carryOut context s >>= ·) (funext fun reply => ?_)
  rw [pure_bind]
  unfold firstIn
  rw [ofOutcome_bind, ofOutcome_legible]

/-- A program that goes on with some numbers of touched rows only is a check. -/
theorem affected_bind_eq (context : String) (s : Statement) (p : Nat → Prop)
    [DecidablePred p] (cause : Nat → Error) (rest : PUnit → DatabaseStep β) :
    (affected context s >>= fun n => if p n then refuse (cause n) >>= rest else rest ⟨⟩)
      = check context s (refusing p cause) >>= rest := by
  unfold affected
  rw [bind_assoc, ← carryOut_bind_eq, bind_assoc]
  refine congrArg (carryOut context s >>= ·) (funext fun reply => ?_)
  rw [pure_bind]
  unfold refusing
  by_cases met : p reply.affected
  · rw [if_pos met, if_pos met]
    rfl
  · rw [if_neg met, if_neg met]
    rfl

/-! ## Withdrawals -/

/-- **Reading sends nothing**: a program is no more than an outcome. -/
def Silent (x : DatabaseStep α) : Prop := ∃ o, x = ofOutcome o

theorem silent_readable (context : String) (value : Option α) :
    Silent (readable context value) :=
  ⟨legible context value, (ofOutcome_legible context value).symm⟩

theorem Silent.bind {x : DatabaseStep α} {f : α → DatabaseStep β} (hx : Silent x)
    (hf : ∀ a, Silent (f a)) : Silent (x >>= f) := by
  obtain ⟨o, rfl⟩ := hx
  cases o with
  | error fault => exact ⟨.error fault, rfl⟩
  | ok a =>
    rw [ofOutcome_ok, pure_bind]
    exact hf a

/-- The row of a withdrawal is read without sending anything. -/
theorem silent_withdrawal (r : Row) : Silent (withdrawal r) := by
  unfold withdrawal
  refine (silent_readable _ _).bind fun code => (silent_readable _ _).bind fun id => ?_
  refine (silent_readable _ _).bind fun user => (silent_readable _ _).bind fun address => ?_
  refine (silent_readable _ _).bind fun amount => ?_
  cases WithdrawalStatus.ofCode? code with
  | none => exact ⟨.refuse (.unknownStatus code), rfl⟩
  | some status =>
    refine (silent_readable _ _).bind fun transaction => ?_
    refine (silent_readable _ _).bind fun createdAt => ?_
    exact (silent_readable _ _).bind fun updatedAt => ⟨.ok _, rfl⟩

/-- The balance is debited, and the row of the withdrawal is read. -/
theorem createWithdrawal_eq (order : NewWithdrawal) :
    createWithdrawal order = transaction (
      check "debit user" (.debitUser order.amount order.user)
        (refusing (· ≠ 1) fun _ => .insufficientBalance order.user order.amount) >>= fun _ =>
      firstRow "insert withdrawal" (.insertWithdrawal order) >>= withdrawal) := by
  unfold createWithdrawal
  rw [← affected_bind_eq]

/-- A batch with members is moved by one statement. -/
theorem advance_eq {ids : List Int} (members : distinctAscending ids ≠ [])
    (current next : WithdrawalStatus) (transactionId : Option String) (now : Instant) :
    advance ids current next transactionId now = transaction (
      check "advance withdrawals"
        (.advanceWithdrawals next transactionId now (distinctAscending ids) current)
        (refusing (· ≠ (distinctAscending ids).length)
          (.batchMismatch (distinctAscending ids).length)) >>= fun _ =>
      pure (distinctAscending ids).length) := by
  unfold advance
  rw [if_neg members, ← affected_bind_eq]

/-! ## Credits -/

theorem referrerOf_eq (id : Int) :
    referrerOf id = check "get referer" (.selectReferrer id) (referrerIn id) := by
  unfold referrerOf rows
  rw [bind_assoc, ← carryOut_bind_eq]
  refine congrArg (carryOut _ _ >>= ·) (funext fun reply => ?_)
  rw [pure_bind]
  unfold referrerIn
  cases reply.rowList.head? with
  | none => rfl
  | some row => exact (ofOutcome_legible _ _).symm

/-- The rows are locked and the user is found among them in one check. -/
theorem lockUsers_bind_eq (source : IncomeSource) (id : Int) (now : Instant)
    (referrer : Option Int) :
    (lockUsers id referrer >>= fun locked =>
        ofOutcome (payee source id now locked) >>= fun u => pure (locked, u))
      = check "lock users" (.lockUsers (id :: referrer.toList)) (lockedIn source id now) := by
  unfold lockUsers rows user
  rw [bind_assoc, bind_assoc, ← carryOut_bind_eq]
  refine congrArg (carryOut _ _ >>= ·) (funext fun reply => ?_)
  rw [pure_bind, mapM_readable]
  unfold lockedIn
  rw [ofOutcome_bind, ofOutcome_legible]
  refine congrArg (readable _ _ >>= ·) (funext fun locked => ?_)
  rw [ofOutcome_bind]
  rfl

/-- What passes when the rows are locked. -/
theorem lockedIn_eq_ok_iff {source : IncomeSource} {id : Int} {now : Instant}
    {reply : DatabaseReply} {locked : List User} {u : User} :
    lockedIn source id now reply = .ok (locked, u)
      ↔ reply.rowList.mapM Row.user? = some locked ∧ payee source id now locked = .ok u := by
  unfold lockedIn
  simp only [bind_eq_ok_iff, legible_eq_ok_iff]
  constructor
  · rintro ⟨_, hlocked, _, hpayee, ⟨⟩⟩
    exact ⟨hlocked, hpayee⟩
  · rintro ⟨hlocked, hpayee⟩
    exact ⟨locked, hlocked, u, hpayee, rfl⟩

/-- The statement that credits a share to the referrer, if its row is among the
locked ones. -/
theorem creditReferrer_eq (referrer : Option Int) (locked : List User) (share : Int) :
    creditReferrer referrer locked share =
      match referrer.filter fun r => locked.any (·.id = r) with
      | none => pure false
      | some r => check "credit referer" (.creditReferrer share r) fun reply =>
          .ok (reply.affected == 1) := by
  unfold creditReferrer
  cases referrer.filter fun r => locked.any (·.id = r) with
  | none => rfl
  | some r =>
    dsimp only
    unfold affected
    rw [bind_assoc, ← carryOut_bind_eq]
    rfl

theorem recordIncome_eq (source : IncomeSource) (user : Int) (referrer : Option Int)
    (amount share : Int) (now : Instant) :
    recordIncome source user referrer amount share now =
      check "insert income" (.insertIncome user referrer source amount share now)
        (firstIn "insert income" fun row => do
          let id ← legible "decode income" (row.read Cell.int? "id")
          return ⟨id, user, referrer, source, amount, share, now⟩) := by
  rw [← firstRow_bind_eq]
  refine congrArg (firstRow _ _ >>= ·) (funext fun row => ?_)
  rw [ofOutcome_bind, ofOutcome_legible]
  rfl

theorem creditUser_eq (i : Income) :
    creditUser i = check "credit user"
      (.creditUser i.amount i.referrerAmount
        (if i.source = .reward then some i.createdAt else none) i.user)
      (refusing (· ≠ 1) fun _ =>
        .missingRow ("user " ++ Text.ofInt i.user ++ " vanished during credit")) := by
  rw [← bind_pure (check _ _ _), ← affected_bind_eq]
  rfl

/-- **A credit is a chain of checks.** -/
theorem credit_eq (source : IncomeSource) (id amount offered : Int) (now : Instant) :
    credit source id amount offered now =
      check "get referer" (.selectReferrer id) (referrerIn id) >>= fun referrer =>
      check "lock users" (.lockUsers (id :: referrer.toList)) (lockedIn source id now) >>=
        fun locked =>
      creditReferrer referrer locked.1 offered >>= fun credited =>
      let share := if credited then offered else 0
      recordIncome source id referrer amount share now >>= fun income =>
      creditUser income >>= fun _ => pure ⟨income, locked.2.address, credited⟩ := by
  unfold credit
  rw [referrerOf_eq]
  refine congrArg (check _ _ _ >>= ·) (funext fun referrer => ?_)
  rw [← lockUsers_bind_eq, bind_assoc]
  refine congrArg (lockUsers id referrer >>= ·) (funext fun locked => ?_)
  rw [bind_assoc]
  refine congrArg (ofOutcome _ >>= ·) (funext fun u => ?_)
  rw [pure_bind]

/-- The event of a partner is inserted, and what follows is a credit. -/
theorem creditPartner_eq {c : PartnerCredit} {relation : String}
    (partner : c.source.eventTable? = some relation) :
    creditPartner c = transaction (
      check "insert callback" (.insertEvent relation c.event c.amount c.now)
        (refusing (· = 0) fun _ => .duplicate c.source c.key c.user) >>= fun _ =>
      credit c.source c.user c.amount c.referrerAmount c.now) := by
  unfold creditPartner
  rw [partner, ← affected_bind_eq]

/-- Who is credited is the last of the rows with the user's identifier, and a
scheduled reward to it is due. -/
theorem payee_eq_ok_iff {source : IncomeSource} {id : Int} {now : Instant}
    {locked : List User} {u : User} :
    payee source id now locked = .ok u ↔
      (locked.filter (·.id = id)).getLast? = some u
        ∧ (source = .reward → u.rewardDue? now = some true) := by
  unfold payee
  cases (locked.filter (·.id = id)).getLast? with
  | none =>
    constructor
    · intro h
      cases h
    · rintro ⟨h, -⟩
      cases h
  | some v =>
    by_cases scheduled : source = .reward
    · simp only [Option.some.injEq, scheduled, forall_const]
      cases hdue : v.rewardDue? now with
      | none =>
        constructor
        · intro h
          cases h
        · rintro ⟨rfl, due⟩
          cases hdue.symm.trans due
      | some due =>
        cases due with
        | false =>
          constructor
          · intro h
            cases h
          · rintro ⟨rfl, due⟩
            cases hdue.symm.trans due
        | true =>
          constructor
          · intro h
            cases h
            exact ⟨rfl, hdue⟩
          · rintro ⟨rfl, -⟩
            rfl
    · simp only [Option.some.injEq, scheduled, false_implies, and_true]
      exact Except.ok.injEq v u ▸ Iff.rfl

end DatabaseStep

end RewardLedger
