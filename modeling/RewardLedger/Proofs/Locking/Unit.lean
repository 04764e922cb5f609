import RewardLedger.Proofs.Locking.Order

/-!
# The locks of a unit

A unit is a chain of checks between the brackets of a transaction, so its locks
can be followed check by check. What is known on the way is little: before the
rows are locked a credit holds at most the key of an event, and from then on at
most that and rows of users. The rows that it goes on to write are among those
that came back when they were locked, so they are held; that is what keeps the
statement that credits a referrer below the user in order.
-/

namespace RewardLedger

namespace DatabaseStep

variable {α β : Type} {op : StoreOp} {held : List Lock} {log : List Exchange}

/-! ## Checks -/

/-- **The statements of a unit are in order**, and if it is not refused something
holds at its end. -/
def Takes (op : StoreOp) (Q : α → List Lock → List Exchange → Prop) (x : DatabaseStep α)
    (held : List Lock) (log : List Exchange) : Prop :=
  x.run.Takes op (fun o held log => ∀ a, o = .ok a → Q a held log) held log

theorem takes_pure {Q : α → List Lock → List Exchange → Prop} {a : α} (h : Q a held log) :
    (pure a : DatabaseStep α).Takes op Q held log := by
  rintro _ ⟨⟩
  exact h

/-- An outcome sends nothing. -/
theorem takes_ofOutcome {Q : α → List Lock → List Exchange → Prop} {o : Outcome α}
    (h : ∀ a, o = .ok a → Q a held log) : (ofOutcome o).Takes op Q held log := by
  cases o with
  | ok a => exact takes_pure (h a rfl)
  | error fault => exact fun _ impossible => nomatch impossible

/-- Two units one after the other. -/
theorem takes_bind {x : DatabaseStep α} {f : α → DatabaseStep β}
    {Q : β → List Lock → List Exchange → Prop}
    (h : x.Takes op (fun a held log => (f a).Takes op Q held log) held log) :
    (x >>= f).Takes op Q held log := by
  refine Program.takes_bind (p := x.run) (h.mono fun o held log ends => ?_)
  cases o with
  | ok a => exact ends a rfl
  | error fault => exact fun _ impossible => nomatch impossible

/-- What holds at the end may be weakened. -/
theorem Takes.mono {Q R : α → List Lock → List Exchange → Prop} {x : DatabaseStep α}
    (h : x.Takes op Q held log) (imp : ∀ a held log, Q a held log → R a held log) :
    x.Takes op R held log :=
  Program.Takes.mono h fun _ held log ends a ok => imp a held log (ends a ok)

/-- **A check** is in order if its statement is, and goes on with the locks that
were held, its own, and a reply that passed. -/
theorem takes_check {context : String} {s : Statement} {judge : DatabaseReply → Outcome α}
    {Q : α → List Lock → List Exchange → Prop} (inside : ¬ s.IsBracket)
    (inOrder : s.InOrder op held log)
    (passed : ∀ reply held' a, (∀ l ∈ held, l ∈ held') →
      (∀ l ∈ held', l ∈ held ∨ l ∈ s.locks) → s.Locked reply held' →
      reply.failure? = none → judge reply = .ok a → Q a held' (log ++ [(s, reply)])) :
    (check context s judge).Takes op Q held log := by
  have open_ (reply : DatabaseReply) : ¬ s.Releases reply := by
    rintro (rfl | ⟨rfl, -⟩)
    · exact inside trivial
    · exact inside trivial
  unfold Takes
  rw [run_check]
  refine ⟨inOrder, fun reply held' leaves a ok => ?_⟩
  obtain ⟨carried, judged⟩ := verdict_eq_ok_iff.1 ok
  exact passed reply held' a (leaves.kept (open_ reply)) leaves.own (leaves.locked (open_ reply))
    carried judged

/-- A statement without locks is in order, if it credits nobody. -/
theorem inOrder_of_no_locks {s : Statement} (none : s.locks = []) (credits : ∀ id, ¬ s.Credits id)
    (locks : ∀ ids, s ≠ .lockUsers ids) : s.InOrder op held log where
  ascending := none ▸ .nil
  above := by
    rw [none]
    intro l hl
    cases hl
  named id h := absurd h (credits id)
  single ids h := absurd h (locks ids)

/-- The brackets of a transaction are in order. -/
theorem inOrder_of_isBracket {s : Statement} (bracket : s.IsBracket) : s.InOrder op held log := by
  cases s with
  | start | commit | rollback => exact inOrder_of_no_locks rfl (fun _ => id) nofun
  | _ => exact bracket.elim

/-- A statement with one lock is in order if the lock is held, or comes after all
that are held. -/
theorem inOrder_of_one_lock {s : Statement} {l : Lock} (one : s.locks = [l])
    (above : l ∈ held ∨ ∀ h ∈ held, h.Precedes l)
    (named : ∀ id, s.Credits id →
      .user id ∈ held ∧ ∃ ids reply, (.lockUsers ids, reply) ∈ log ∧ id ∈ ids)
    (locks : ∀ ids, s ≠ .lockUsers ids) : s.InOrder op held log where
  ascending := one ▸ List.pairwise_singleton _ l
  above := by
    rw [one]
    intro l' hl
    cases List.mem_singleton.1 hl
    exact above
  named := named
  single ids h := absurd h (locks ids)

/-! ## Transactions -/

/-- **A transaction** is in order if its work is, and holds nothing when it has
ended, however it ends. -/
theorem takes_transaction {body : DatabaseStep α}
    (h : ∀ begun, body.Takes op (fun _ _ _ => True) [] [(.start, begun)]) :
    (transaction body).run.Takes op (fun _ held _ => held = []) [] [] := by
  have rolledBack {held : List Lock} {log : List Exchange} {o : Outcome α} :
      (Program.call .rollback fun _ => .done o :
        Program Statement (fun _ => DatabaseReply) (Outcome α)).Takes op
        (fun _ held _ => held = []) held log :=
    ⟨inOrder_of_isBracket trivial, fun _ _ leaves => leaves.released (.inl rfl)⟩
  rw [run_transaction]
  refine ⟨inOrder_of_isBracket trivial, fun begun held' leaves => ?_⟩
  have nothing : held' = [] := by
    refine List.eq_nil_iff_forall_not_mem.2 fun l hl => ?_
    obtain hl | hl := leaves.own l hl <;> cases hl
  subst nothing
  dsimp only
  split
  · exact rfl
  · refine Program.takes_bind (Program.Takes.mono (h begun) fun o held log _ => ?_)
    cases o with
    | error fault => exact rolledBack
    | ok a =>
      refine ⟨inOrder_of_isBracket trivial, fun kept held' leaves => ?_⟩
      dsimp only
      split
      · next confirmed => exact leaves.released (.inr ⟨rfl, confirmed⟩)
      · exact rolledBack

/-! ## Credits -/

/-- Rows that could be read are users that came back. -/
theorem exists_row_of_mapM {rows : List Row} {users : List User}
    (read : rows.mapM Row.user? = some users) {u : User} (hu : u ∈ users) :
    ∃ row ∈ rows, row.user? = some u := by
  induction rows generalizing users with
  | nil =>
    cases read
    cases hu
  | cons row rest ih =>
    rw [List.mapM_cons] at read
    obtain ⟨v, hv, others⟩ := Option.bind_eq_some_iff.1 read
    obtain ⟨vs, hvs, same⟩ := Option.bind_eq_some_iff.1 others
    cases same
    rcases List.mem_cons.1 hu with rfl | hu
    · exact ⟨row, List.mem_cons_self, hv⟩
    · obtain ⟨row', hrow, huser⟩ := ih hvs hu
      exact ⟨row', List.mem_cons_of_mem row hrow, huser⟩

/-- Before its rows are locked, a credit holds no more than keys of events. -/
def OnlyEvents (held : List Lock) : Prop := ∀ l ∈ held, l.rank = 0

/-- A credit holds no day until it counts into one. -/
def NoDays (held : List Lock) : Prop := ∀ l ∈ held, l.rank ≤ 1

/-- The statement that locks rows names a user. -/
def Names (log : List Exchange) (id : Int) : Prop :=
  ∃ ids reply, (.lockUsers ids, reply) ∈ log ∧ id ∈ ids

/-- **A row of a user can be credited** that is held and was named. -/
def Ready (held : List Lock) (log : List Exchange) (id : Int) : Prop :=
  .user id ∈ held ∧ Names log id

/-- A row that can be credited can still be after another statement. -/
theorem Ready.later {id : Int} (h : Ready held log id) {held' : List Lock}
    (kept : ∀ l ∈ held, l ∈ held') (x : Exchange) : Ready held' (log ++ [x]) id := by
  obtain ⟨locked, ids, reply, sent, named⟩ := h
  exact ⟨kept _ locked, ids, reply, List.mem_append_left _ sent, named⟩

/-- Crediting a row that is ready is in order, and takes no lock. -/
theorem takes_check_credits {context : String} {s : Statement}
    {judge : DatabaseReply → Outcome α} {Q : α → List Lock → List Exchange → Prop} {id : Int}
    (one : s.locks = [.user id]) (credits : ∀ k, s.Credits k → k = id)
    (locks : ∀ ids, s ≠ .lockUsers ids) (inside : ¬ s.IsBracket)
    (ready : Ready held log id) (days : NoDays held)
    (passed : ∀ reply held' a, (∀ l ∈ held, l ∈ held') → NoDays held' →
      judge reply = .ok a → Q a held' (log ++ [(s, reply)])) :
    (check context s judge).Takes op Q held log := by
  refine takes_check inside (inOrder_of_one_lock one (.inl ready.1) ?_ locks) ?_
  · intro k hk
    cases credits k hk
    exact ready
  · intro reply held' a kept own _ _ judged
    refine passed reply held' a kept (fun l hl => ?_) judged
    obtain hl | hl := own l hl
    · exact days l hl
    · rw [one] at hl
      cases List.mem_singleton.1 hl
      exact Nat.le_refl 1

/-- The rows of the user and of the referrer are ready once they came back from
the statement that locked them. -/
theorem ready_of_lockedIn {source : IncomeSource} {user : Int} {referrer : Option Int}
    {now : Instant} {reply : DatabaseReply} {locked : List User × User}
    (judged : lockedIn source user now reply = .ok locked)
    (sent : (.lockUsers (user :: referrer.toList), reply) ∈ log)
    (carried : reply.failure? = none)
    (rows : (Statement.lockUsers (user :: referrer.toList)).Locked reply held) :
    Ready held log user
      ∧ ∀ r, referrer.filter (fun r => locked.1.any (·.id = r)) = some r → Ready held log r := by
  obtain ⟨read, paid⟩ := lockedIn_eq_ok_iff.1 judged
  have ready (u : User) (hu : u ∈ locked.1) (named : u.id ∈ user :: referrer.toList) :
      Ready held log u.id := by
    obtain ⟨row, hrow, huser⟩ := exists_row_of_mapM read hu
    exact ⟨rows _ rfl carried row hrow u huser named, _, _, sent, named⟩
  constructor
  · have own := List.mem_of_getLast? (payee_eq_ok_iff.1 paid).1
    obtain ⟨there, same⟩ := List.mem_filter.1 own
    have same : locked.2.id = user := of_decide_eq_true same
    exact same ▸ ready locked.2 there (same ▸ List.mem_cons_self)
  · intro r hr
    obtain ⟨named, found⟩ := Option.filter_eq_some_iff.1 hr
    obtain ⟨u, there, same⟩ := List.any_eq_true.1 found
    have same : u.id = r := of_decide_eq_true same
    refine same ▸ ready u there (same ▸ List.mem_cons_of_mem _ ?_)
    exact Option.mem_toList.2 named

/-- **The statement that locks rows is in order** when no other was sent before, and
when it follows the one that found the referrer. -/
theorem inOrder_lockUsers {user : Int} {referrer : Option Int} {found : DatabaseReply}
    (payee : op.payee? = some user) (events : OnlyEvents held)
    (first : ∀ x ∈ log, ∀ ids, x.1 ≠ .lockUsers ids)
    (judged : referrerIn user found = .ok referrer) :
    (Statement.lockUsers (user :: referrer.toList)).InOrder op held
      (log ++ [(.selectReferrer user, found)]) where
  ascending := List.pairwise_map.2 ((pairwise_distinctAscending _).imp Lock.precedes_user)
  above := by
    intro l hl
    obtain ⟨k, -, rfl⟩ := List.mem_map.1 hl
    exact .inr fun h hh => .inl ((events h hh).symm ▸ Nat.zero_lt_one)
  named := nofun
  single := by
    rintro ids ⟨⟩
    refine ⟨fun x hx => ?_, user, referrer, found, payee, ?_, judged, rfl⟩
    · rcases List.mem_append.1 hx with hx | hx
      · exact first x hx
      · cases List.mem_singleton.1 hx
        exact nofun
    · exact List.mem_append_right _ List.mem_cons_self

/-- A referrer is credited only if the row is ready. -/
theorem takes_creditReferrer {user offered : Int} {referrer : Option Int} {users : List User}
    (own : Ready held log user) (days : NoDays held)
    (shared : ∀ r, referrer.filter (fun r => users.any (·.id = r)) = some r → Ready held log r) :
    (creditReferrer referrer users offered).Takes op
      (fun _ held log => Ready held log user ∧ NoDays held) held log := by
  rw [creditReferrer_eq]
  cases hr : referrer.filter fun r => users.any (·.id = r) with
  | none => exact takes_pure ⟨own, days⟩
  | some r =>
    refine takes_check_credits rfl (fun k hk => hk.symm) nofun id (shared r hr) days ?_
    exact fun reply held' _ kept days _ => ⟨own.later kept _, days⟩

/-- The income is of the user whose row is ready. -/
theorem takes_recordIncome {source : IncomeSource} {user amount share : Int}
    {referrer : Option Int} {now : Instant} (own : Ready held log user) (days : NoDays held) :
    (recordIncome source user referrer amount share now).Takes op
      (fun income held log => Ready held log income.user ∧ NoDays held) held log := by
  rw [recordIncome_eq]
  refine takes_check_credits rfl (fun k hk => hk.symm) nofun id own days ?_
  intro inserted held' income kept days' judged
  have paid : income.user = user := by
    obtain ⟨row, -, read⟩ := firstIn_eq_ok_iff.1 judged
    obtain ⟨number, -, recorded⟩ := bind_eq_ok_iff.1 read
    cases recorded
    rfl
  rw [paid]
  exact ⟨own.later kept _, days'⟩

/-- **A credit takes its locks in order**: the rows of the user and the referrer
by one statement, which it sends for the first time, and no others. -/
theorem takes_credit {source : IncomeSource} {user amount offered : Int} {now : Instant}
    (payee : op.payee? = some user) (events : OnlyEvents held)
    (first : ∀ x ∈ log, ∀ ids, x.1 ≠ .lockUsers ids) :
    (credit source user amount offered now).Takes op (fun _ held _ => NoDays held) held log := by
  rw [credit_eq]
  -- the referrer is looked up without a lock
  refine takes_bind (takes_check id (inOrder_of_no_locks rfl (fun _ => id) nofun) ?_)
  intro found held₁ referrer _ own _ _ judged
  have events₁ : OnlyEvents held₁ := fun l hl => (own l hl).elim (events l) nofun
  -- the rows are locked in ascending order, after the event
  refine takes_bind (takes_check id (inOrder_lockUsers payee events₁ first judged) ?_)
  intro back held₂ locked _ own₂ rows carried judged₂
  have days₂ : NoDays held₂ := by
    intro l hl
    obtain hl | hl := own₂ l hl
    · exact (events₁ l hl).symm ▸ Nat.zero_le 1
    · obtain ⟨k, -, rfl⟩ := List.mem_map.1 hl
      exact Nat.le_refl 1
  obtain ⟨own, shared⟩ := ready_of_lockedIn judged₂
    (List.mem_append_right _ List.mem_cons_self) carried rows
  -- whatever is written from here on is written to rows that are held
  refine takes_bind ((takes_creditReferrer own days₂ shared).mono ?_)
  rintro credited held₃ log₃ ⟨own₃, days₃⟩
  refine takes_bind ((takes_recordIncome own₃ days₃).mono ?_)
  rintro income held₄ log₄ ⟨own₄, days₄⟩
  refine takes_bind ?_
  rw [creditUser_eq]
  refine takes_check_credits rfl (fun k hk => hk.symm) nofun id own₄ days₄ ?_
  exact fun _ held₅ _ _ days₅ _ => takes_pure days₅

/-! ## Units -/

/-- A scheduled reward counts into its day after everything else. -/
theorem takes_creditReward (c : RewardCredit) :
    (creditReward c).run.Takes (.creditReward c) (fun _ held _ => held = []) [] [] := by
  refine takes_transaction fun begun => takes_bind ?_
  refine Takes.mono (takes_credit rfl nofun ?_) fun receipt held log days => ?_
  · intro x hx ids
    cases List.mem_singleton.1 hx
    exact nofun
  refine takes_bind (takes_ofOutcome fun disbursed _ => takes_bind ?_)
  rw [carryOut_eq]
  refine takes_check id (inOrder_of_one_lock rfl (.inr fun h hh => .inl ?_) nofun nofun) ?_
  · exact Nat.lt_succ_of_le (days h hh)
  · exact fun _ _ _ _ _ _ _ _ => takes_pure trivial

/-- The event of a partner is inserted before anything else. -/
theorem takes_creditPartner (c : PartnerCredit) :
    (creditPartner c).run.Takes (.creditPartner c) (fun _ held _ => held = []) [] [] := by
  cases partner : c.source.eventTable? with
  | none =>
    unfold creditPartner
    rw [partner]
    exact rfl
  | some relation =>
    rw [creditPartner_eq partner]
    refine takes_transaction fun begun => takes_bind (takes_check id
      (inOrder_of_one_lock rfl (.inr nofun) nofun nofun) ?_)
    intro inserted held _ _ own _ _ _
    refine Takes.mono (takes_credit rfl (fun l hl => ?_) ?_) fun _ _ _ _ => trivial
    · obtain hl | hl := own l hl
      · cases hl
      · cases List.mem_singleton.1 hl
        rfl
    · intro x hx ids
      rcases List.mem_cons.1 hx with rfl | hx
      · exact nofun
      · cases List.mem_singleton.1 hx
        exact nofun

/-- A withdrawal locks the row of its user only. -/
theorem takes_createWithdrawal (order : NewWithdrawal) :
    (createWithdrawal order).run.Takes (.createWithdrawal order) (fun _ held _ => held = []) [] []
    := by
  obtain ⟨judge, hjudge⟩ := Classical.axiomOfChoice silent_withdrawal
  rw [createWithdrawal_eq, funext hjudge, firstRow_bind_eq]
  refine takes_transaction fun begun => takes_bind (takes_check id
    (inOrder_of_one_lock rfl (.inr nofun) nofun nofun) ?_)
  intro debited held _ _ own _ _ _
  -- the new row refers to the row of the user, if that is locked
  refine takes_check id (inOrder_of_one_lock rfl ?_ nofun nofun) fun _ _ _ _ _ _ _ _ => trivial
  by_cases locked : Lock.user order.user ∈ held
  · exact .inl locked
  · refine .inr fun l hl => ?_
    obtain hl' | hl' := own l hl
    · cases hl'
    · cases List.mem_singleton.1 hl'
      exact absurd hl locked

end DatabaseStep

/-- **The units that write to the balances of users**: the two credits and a
withdrawal. -/
def StoreOp.MovesMoney : StoreOp → Prop
  | .creditReward _ | .creditPartner _ | .createWithdrawal _ => True
  | _ => False

/-- **Every unit takes its locks in order**, whatever the database replies, and
holds none when it has ended. -/
theorem StoreOp.takes_answer {op : StoreOp} (moves : op.MovesMoney) :
    (DatabaseStep.answer op).run.Takes op (fun _ held _ => held = []) [] [] := by
  cases op with
  | creditReward c => exact DatabaseStep.takes_creditReward c
  | creditPartner c => exact DatabaseStep.takes_creditPartner c
  | createWithdrawal order => exact DatabaseStep.takes_createWithdrawal order
  | _ => exact moves.elim

end RewardLedger
