import RewardLedger.Proofs.Database.Answer

/-!
# What a write comes to in a database

A write that commits on the tables of a store in memory commits in a database
that holds what they hold, with the same answer, and the database holds what is
left (`run_of_commits`). A write that is refused there is refused for the same
cause and undone, before an identifier was given out (`run_of_refuses`).
-/

namespace RewardLedger

open DatabaseStep

namespace Database

variable {r : Relations} {t : Tables} (h : r.Holds t) (wf : t.WellFormed)

/-! ## Writes that are kept -/

section Kept

include h

/-- An event that is new is inserted. -/
theorem run_insertEvent {c : PartnerCredit} (portable : (StoreOp.creditPartner c).Portable)
    {relation : String} (partner : c.source.eventTable? = some relation)
    (fresh : c.event ∉ t.events) :
    ∃ r', run ⟨r, t.counters, .working r⟩ (check "insert callback"
        (.insertEvent relation c.event c.amount c.now)
          (refusing (· = 0) fun _ => .duplicate c.source c.key c.user))
        = (.ok ⟨⟩, ⟨r, t.counters, .working r'⟩)
      ∧ r'.Holds (t.remember c.event) := by
  obtain ⟨-, -, -, key⟩ := portable
  obtain ⟨r', does, holds⟩ := h.insertEvent t.counters partner fresh c.amount c.now
  refine ⟨r', ?_, holds⟩
  exact run_check_working (by rintro ⟨⟩)
    (by simpa [Statement.HasNul, Statement.values, PartnerCredit.event] using key) does rfl rfl

variable (numbered : t.IncomesNumbered)

include wf numbered

/-- A reward that is due is credited and counted into its day. -/
theorem run_creditReward {c : RewardCredit} (portable : (StoreOp.creditReward c).Portable)
    {u : User} (hu : t.users.get? c.user = some u) (due : u.rewardDue? c.now = some true)
    (room : t.HasRoom (.creditReward c)) :
    let receipt := t.receiptOf .reward u c.amount c.referrerAmount c.now
    ∃ r', run ⟨r, t.counters, .idle⟩ (creditReward c)
        = (.ok receipt, ⟨r', (t.book receipt.income).counters, .idle⟩)
      ∧ r'.Holds ((t.book receipt.income).countDay receipt.income) := by
  intro receipt
  obtain ⟨amount, share, micro⟩ := portable
  have id : u.id = c.user := wf.users_keyed _ _ hu
  have notEarly : u.rewardDue? c.now ≠ some false := by
    rw [due]
    decide
  obtain ⟨-, credit, paid, total⟩ := room u hu notEarly
  obtain ⟨r₁, credited, h₁⟩ := run_credit r h wf numbered (id ▸ hu) (fun _ => due)
    ⟨amount, share⟩ micro.toMicroseconds credit
  have disbursed : receipt.disbursed?
      = some (receipt.income.amount + receipt.income.referrerAmount) :=
    Amount.add?_eq_some_iff.2 ⟨paid, rfl⟩
  obtain ⟨r₂, does, h₂⟩ := h₁.addToDay (t.book receipt.income).counters total
  have counted : run ⟨r, (t.book receipt.income).counters, .working r₁⟩
      (carryOut "update total reward"
        (.addToDay c.now.day (receipt.income.amount + receipt.income.referrerAmount)))
        = (.ok (.changed 1), ⟨r, (t.book receipt.income).counters, .working r₂⟩) := by
    rw [carryOut_eq]
    exact run_check_working (by rintro ⟨⟩) (by simp [Statement.HasNul, Statement.values]) does rfl
      rfl
  refine ⟨r₂, run_transaction_ok ?_, h₂⟩
  rw [← id, run_bind_ok credited, disbursed]
  exact (run_bind_ok rfl).trans (run_bind_ok counted)

/-- An event that is new is remembered and credited. -/
theorem run_creditPartner {c : PartnerCredit} (portable : (StoreOp.creditPartner c).Portable)
    {relation : String} (partner : c.source.eventTable? = some relation)
    (fresh : c.event ∉ t.events) {u : User} (hu : t.users.get? c.user = some u)
    (room : t.HasRoom (.creditPartner c)) :
    let receipt := t.receiptOf c.source u c.amount c.referrerAmount c.now
    ∃ r', run ⟨r, t.counters, .idle⟩ (creditPartner c)
        = (.ok receipt, ⟨r', (t.book receipt.income).counters, .idle⟩)
      ∧ r'.Holds ((t.remember c.event).book receipt.income) := by
  intro receipt
  obtain ⟨r₁, inserted, h₁⟩ := run_insertEvent h portable partner fresh
  obtain ⟨amount, share, micro, -⟩ := portable
  have id : u.id = c.user := wf.users_keyed _ _ hu
  have notReward : c.source = .reward → u.rewardDue? c.now = some true := fun reward => by
    rw [reward] at partner
    cases partner
  have wf₁ : (t.remember c.event).WellFormed := { wf with }
  obtain ⟨r₂, credited, h₂⟩ := run_credit r h₁ wf₁ ⟨numbered.ascend, numbered.le⟩ (id ▸ hu)
    notReward ⟨amount, share⟩ micro.toMicroseconds (room fresh u hu)
  refine ⟨r₂, ?_, h₂⟩
  rw [creditPartner_eq partner]
  refine run_transaction_ok ((run_bind_ok inserted).trans ?_)
  rw [← id]
  exact credited

omit numbered in
/-- A balance that covers the amount is debited, and the withdrawal created. -/
theorem run_createWithdrawal {order : NewWithdrawal}
    (portable : (StoreOp.createWithdrawal order).Portable) {u : User}
    (hu : t.users.get? order.user = some u) (covered : order.amount ≤ u.balance)
    (room : t.HasRoom (.createWithdrawal order)) :
    let w := order.row (t.counters.withdrawals + 1)
    ∃ r', run ⟨r, t.counters, .idle⟩ (createWithdrawal order)
        = (.ok w, ⟨r', (t.payOut w).counters, .idle⟩)
      ∧ r'.Holds (t.payOut w) := by
  intro w
  obtain ⟨amount, micro, address⟩ := portable
  have id : u.id = order.user := wf.users_keyed _ _ hu
  obtain ⟨r₁, does₁, h₁⟩ := h.debitUser t.counters wf.users_keyed (id ▸ hu) (w := w) id.symm covered
    (room u hu covered)
  have debited : run ⟨r, t.counters, .working r⟩ (check "debit user"
      (.debitUser order.amount order.user)
        (refusing (· ≠ 1) fun _ => .insufficientBalance order.user order.amount))
        = (.ok ⟨⟩, ⟨r, t.counters, .working r₁⟩) :=
    run_check_working (by rintro ⟨⟩) (by simp [Statement.HasNul, Statement.values]) does₁ rfl rfl
  have wf₁ := wf.mapUsers (f := (·.debit w)) (fun _ => rfl) (fun _ => rfl)
  have hu₁ : (t.users.map (·.debit w)).get? order.user = some (u.debit w) := by
    rw [Table.get?_map, hu]
    rfl
  obtain ⟨r₂, does₂, h₂⟩ := h₁.insertWithdrawal (t.payOut w).counters wf₁ amount rfl ⟨_, hu₁⟩
    micro.toMicroseconds
  have inserted : run ⟨r, t.counters, .working r₁⟩
      (carryOut "insert withdrawal" (.insertWithdrawal order))
        = (.ok (.rows [.ofWithdrawal w]), ⟨r, (t.payOut w).counters, .working r₂⟩) := by
    rw [carryOut_eq]
    exact run_check_working (by rintro ⟨⟩)
      (by simpa [Statement.HasNul, Statement.values] using address) does₂ rfl rfl
  refine ⟨r₂, ?_, h₂⟩
  rw [createWithdrawal_eq]
  refine run_transaction_ok ((run_bind_ok debited).trans ?_)
  unfold firstRow DatabaseStep.rows
  rw [bind_assoc, bind_assoc, run_bind_ok inserted]
  show run _ (withdrawal (.ofWithdrawal w)) = _
  rw [withdrawal_ofWithdrawal]
  rfl

omit numbered in
/-- A batch whose members are all in the status is moved. -/
theorem run_advance {ids : List Int} {current next : WithdrawalStatus}
    {transaction : Option String} {now : Instant}
    (portable : (StoreOp.advanceWithdrawals ids current next transaction now).Portable)
    (all : (t.inStatus current (distinctAscending ids)).length = (distinctAscending ids).length) :
    let batch := distinctAscending ids
    ∃ r', run ⟨r, t.counters, .idle⟩ (advance ids current next transaction now)
        = (.ok batch.length, ⟨r', t.counters, .idle⟩)
      ∧ r'.Holds (t.advance batch current next transaction now) := by
  intro batch
  obtain ⟨micro, text⟩ := portable
  by_cases none : batch = []
  · refine ⟨r, ?_, ?_⟩
    · unfold advance
      rw [if_pos none, none]
      rfl
    · rw [none, Tables.advance_nil]
      exact h
  · obtain ⟨r', does, h'⟩ := h.advanceWithdrawals t.counters wf.withdrawals_keyed
      (nodup_distinctAscending ids) current next transaction micro.toMicroseconds
    refine ⟨r', ?_, h'⟩
    rw [advance_eq none]
    rw [all] at does
    have moved : run ⟨r, t.counters, .working r⟩ (check "advance withdrawals"
        (.advanceWithdrawals next transaction now batch current)
          (refusing (· ≠ batch.length) (.batchMismatch batch.length)))
          = (.ok ⟨⟩, ⟨r, t.counters, .working r'⟩) :=
      run_check_working (by rintro ⟨⟩) (by simpa [Statement.HasNul, Statement.values] using text)
        does rfl (refusing_eq_ok_iff.2 (not_not_intro rfl))
    refine run_transaction_ok ((run_bind_ok moved).trans ?_)
    rfl

end Kept

/-! ## Writes that are refused -/

section Refused

include h wf

/-- A reward to nobody, or one that is not due, is undone. -/
theorem run_creditReward_of_refused {c : RewardCredit} {cause : Error}
    (why : t.Refuses (.creditReward c) cause) :
    run ⟨r, t.counters, .idle⟩ (creditReward c) = (.refuse cause, ⟨r, t.counters, .idle⟩) := by
  have refused : run ⟨r, t.counters, .working r⟩
      (credit .reward c.user c.amount c.referrerAmount c.now)
        = (.refuse cause, ⟨r, t.counters, .working r⟩) := by
    rcases why with ⟨absent, rfl⟩ | ⟨u, hu, early, rfl⟩
    · exact run_credit_of_noRow r t.counters h wf.users_keyed absent _ _ _ _
    · have id : u.id = c.user := wf.users_keyed _ _ hu
      rw [← id]
      exact run_credit_of_early r t.counters h wf.users_keyed (id ▸ hu) early _ _
  exact run_transaction_error (run_bind_error refused)

/-- A duplicate is undone, and so is an event of nobody. -/
theorem run_creditPartner_of_refused {c : PartnerCredit} {cause : Error}
    (portable : (StoreOp.creditPartner c).Portable) {relation : String}
    (partner : c.source.eventTable? = some relation)
    (why : t.Refuses (.creditPartner c) cause) :
    run ⟨r, t.counters, .idle⟩ (creditPartner c) = (.refuse cause, ⟨r, t.counters, .idle⟩) := by
  rw [creditPartner_eq partner]
  rcases why with ⟨known, rfl⟩ | ⟨fresh, absent, rfl⟩
  · obtain ⟨-, -, -, key⟩ := portable
    have does := h.insertEvent_of_known t.counters partner known c.amount c.now
    have passed : run ⟨r, t.counters, .working r⟩ (check "insert callback"
        (.insertEvent relation c.event c.amount c.now)
          (refusing (· = 0) fun _ => .duplicate c.source c.key c.user))
          = (.refuse (.duplicate c.source c.key c.user), ⟨r, t.counters, .working r⟩) :=
      run_check_working (by rintro ⟨⟩)
        (by simpa [Statement.HasNul, Statement.values, PartnerCredit.event] using key) does rfl rfl
    exact run_transaction_error (run_bind_error passed)
  · obtain ⟨r₁, inserted, h₁⟩ := run_insertEvent h portable partner fresh
    have refused := run_credit_of_noRow r t.counters h₁ wf.users_keyed absent c.source c.amount
      c.referrerAmount c.now
    exact run_transaction_error ((run_bind_ok inserted).trans refused)

/-- A withdrawal that is not covered is undone. -/
theorem run_createWithdrawal_of_refused {order : NewWithdrawal} {cause : Error}
    (why : t.Refuses (.createWithdrawal order) cause) :
    run ⟨r, t.counters, .idle⟩ (createWithdrawal order)
      = (.refuse cause, ⟨r, t.counters, .idle⟩) := by
  obtain ⟨uncovered, rfl⟩ := why
  have does := h.debitUser_of_uncovered t.counters wf.users_keyed uncovered
  have refused : run ⟨r, t.counters, .working r⟩ (check "debit user"
      (.debitUser order.amount order.user)
        (refusing (· ≠ 1) fun _ => .insufficientBalance order.user order.amount))
        = (.refuse (.insufficientBalance order.user order.amount), ⟨r, t.counters, .working r⟩) :=
    run_check_working (by rintro ⟨⟩) (by simp [Statement.HasNul, Statement.values]) does rfl rfl
  rw [createWithdrawal_eq]
  exact run_transaction_error (run_bind_error refused)

/-- A batch with a member that is not in the status is undone. -/
theorem run_advance_of_refused {ids : List Int} {current next : WithdrawalStatus}
    {transaction : Option String} {now : Instant} {cause : Error}
    (portable : (StoreOp.advanceWithdrawals ids current next transaction now).Portable)
    (why : t.Refuses (.advanceWithdrawals ids current next transaction now) cause) :
    run ⟨r, t.counters, .idle⟩ (advance ids current next transaction now)
      = (.refuse cause, ⟨r, t.counters, .idle⟩) := by
  obtain ⟨micro, text⟩ := portable
  obtain ⟨other, rfl⟩ := why
  have members : distinctAscending ids ≠ [] := fun none => other (by rw [none]; rfl)
  obtain ⟨r', does, -⟩ := h.advanceWithdrawals t.counters wf.withdrawals_keyed
    (nodup_distinctAscending ids) current next transaction micro.toMicroseconds
  have refused : run ⟨r, t.counters, .working r⟩ (check "advance withdrawals"
      (.advanceWithdrawals next transaction now (distinctAscending ids) current)
        (refusing (· ≠ (distinctAscending ids).length)
          (.batchMismatch (distinctAscending ids).length)))
        = (.refuse (.batchMismatch (distinctAscending ids).length
            (t.inStatus current (distinctAscending ids)).length),
          ⟨r, t.counters, .working r'⟩) := by
    refine run_check_working (by rintro ⟨⟩)
      (by simpa [Statement.HasNul, Statement.values] using text) does rfl ?_
    unfold refusing
    exact if_pos other
  rw [advance_eq members]
  exact run_transaction_error (run_bind_error refused)

end Refused

/-! ## All writes -/

include h wf

/-- **A write that commits on the tables commits in the database**, with the
same answer. -/
theorem run_of_commits (numbered : t.IncomesNumbered) {op : StoreOp} (portable : op.Portable)
    (room : t.HasRoom op) {a : op.Answer} {t' : Tables} (did : t.Commits op a t') :
    ∃ r', run ⟨r, t.counters, .idle⟩ (DatabaseStep.answer op)
        = (.ok a, ⟨r', t'.counters, .idle⟩)
      ∧ r'.Holds t' := by
  cases op with
  | creditReward c =>
    obtain ⟨u, hu, due, rfl, rfl⟩ := did
    exact run_creditReward h wf numbered portable hu due room
  | creditPartner c =>
    obtain ⟨partner, fresh, u, hu, rfl, rfl⟩ := did
    obtain ⟨relation, named⟩ :=
      Option.isSome_iff_exists.1 (c.source.eventTable?_isSome.2 partner)
    exact run_creditPartner h wf numbered portable named fresh hu room
  | createWithdrawal order =>
    obtain ⟨u, hu, covered, rfl, rfl⟩ := did
    exact run_createWithdrawal h wf portable hu covered room
  | advanceWithdrawals ids current next transaction now =>
    obtain ⟨all, rfl, rfl⟩ := did
    exact run_advance h wf portable all
  | createUser => exact portable.elim
  | _ => exact did.elim

/-- **A write that is refused on the tables is refused by the database**, for the
same cause, and changes nothing. -/
theorem run_of_refuses {op : StoreOp} (portable : op.Portable) (valid : op.invalid? = none)
    {cause : Error} (why : t.Refuses op cause) :
    run ⟨r, t.counters, .idle⟩ (DatabaseStep.answer op)
      = (.refuse cause, ⟨r, t.counters, .idle⟩) := by
  cases op with
  | creditReward c => exact run_creditReward_of_refused h wf why
  | creditPartner c =>
    have partner : c.source.IsPartner := by
      by_contra none
      cases (if_neg none).symm.trans valid
    obtain ⟨relation, named⟩ :=
      Option.isSome_iff_exists.1 (c.source.eventTable?_isSome.2 partner)
    exact run_creditPartner_of_refused h wf portable named why
  | createWithdrawal order => exact run_createWithdrawal_of_refused h wf why
  | advanceWithdrawals ids current next transaction now =>
    exact run_advance_of_refused h wf portable why
  | createUser => exact portable.elim
  | _ => exact why.elim

omit h wf in
/-- An event of a source that is no partner is refused before anything is sent. -/
theorem run_of_invalid {op : StoreOp} {cause : Error} (why : op.invalid? = some cause)
    (d : Database) : d.run (DatabaseStep.answer op) = (.refuse cause, d) := by
  obtain ⟨c, rfl, stranger, rfl⟩ := StoreOp.invalid?_eq_some why
  have none : c.source.eventTable? = none := by
    rw [← Option.not_isSome_iff_eq_none, c.source.eventTable?_isSome]
    exact stranger
  show d.run (creditPartner c) = _
  unfold creditPartner
  rw [none]
  rfl

end Database

end RewardLedger
