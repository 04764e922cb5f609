import RewardLedger.Proofs.Database.Run

/-!
# What a database answers

A relational store on a database that holds what tables hold answers a query
with what the tables answer, and a write with what the write comes to on the
tables: it is kept where it commits there (`run_of_commits`), and undone where
it is refused there (`run_of_refuses`). Only requests are meant whose values a
database can hold (`StoreOp.Portable`).
-/

namespace RewardLedger

open DatabaseStep

/-! ## Values that a database can hold -/

/-- A whole number of microseconds, and no leap second. -/
def Instant.IsMicro (t : Instant) : Prop := t.nanos < nanosPerSecond ∧ t.nanos % 1000 = 0

instance (t : Instant) : Decidable t.IsMicro := inferInstanceAs (Decidable (_ ∧ _))

/-- A whole number of microseconds is kept as it is. -/
theorem Instant.IsMicro.toMicroseconds {t : Instant} (h : t.IsMicro) : t.toMicroseconds = t := by
  obtain ⟨seconds, nanos⟩ := t
  obtain ⟨below, whole⟩ := h
  change nanos < 1000000000 at below
  change nanos % 1000 = 0 at whole
  obtain ⟨k, rfl⟩ := Nat.dvd_of_mod_eq_zero whole
  have total : (seconds - 946684800) * 1000000000 + ((1000 * k : Nat) : Int)
      = 1000 * ((seconds - 946684800) * 1000000 + k) := by
    omega
  unfold Instant.toMicroseconds
  dsimp only
  rw [total, Int.mul_tdiv_cancel_left _ (by decide)]
  have second : ((seconds - 946684800) * 1000000 + (k : Int)) / 1000000
      = seconds - 946684800 := by omega
  have fraction : ((seconds - 946684800) * 1000000 + (k : Int)) % 1000000 = k := by omega
  rw [second, fraction]
  congr 1 <;> omega

/-- **A request that a database takes as it is**: its amounts pass the checks of
the schema, its texts can be bound and its instants kept. It reads, credits,
creates a withdrawal or moves some. Of an instant only the fraction is asked for: how
early or late it is does not matter, as no range of days is among what
`Relations.perform` refuses. -/
def StoreOp.Portable : StoreOp → Prop
  | .creditReward c => 0 ≤ c.amount ∧ 0 ≤ c.referrerAmount ∧ c.now.IsMicro
  | .creditPartner c =>
    0 ≤ c.amount ∧ 0 ≤ c.referrerAmount ∧ c.now.IsMicro ∧ ¬ Text.HasNul c.key
  | .createWithdrawal order =>
    0 < order.amount ∧ order.now.IsMicro ∧ ¬ Text.HasNul order.address
  | .advanceWithdrawals _ _ _ transaction now =>
    now.IsMicro ∧ ∀ text ∈ transaction, ¬ Text.HasNul text
  | .createUser .. | .checkHealth | .close => False
  | _ => True

instance : DecidablePred StoreOp.Portable
  | .creditReward _ => inferInstanceAs (Decidable (_ ∧ _ ∧ _))
  | .creditPartner _ => inferInstanceAs (Decidable (_ ∧ _ ∧ _ ∧ _))
  | .createWithdrawal _ => inferInstanceAs (Decidable (_ ∧ _ ∧ _))
  | .advanceWithdrawals _ _ _ transaction _ =>
    inferInstanceAs (Decidable (_ ∧ ∀ text ∈ transaction, ¬ Text.HasNul text))
  | .createUser .. | .checkHealth | .close => instDecidableFalse
  | .user _ | .referees .. | .withdrawableUsers _ | .latestPolicy | .rewardBands _ | .dayTotal _
  | .incomes .. | .countIncomes .. | .withdrawals .. | .withdrawalsByStatus .. =>
    instDecidableTrue

namespace Database

variable {α : Type} {r : Relations} {t : Tables}

/-! ## Queries -/

/-- A query is answered with what is read in its rows. -/
theorem run_query {given : Counters} {context : String} {s : Statement} {rows : List Row}
    {f : List Row → DatabaseStep α} {a : α} (plain : ¬ s.IsBracket) (clean : ¬ s.HasNul)
    (draws : given.draw s = given) (does : r.perform given s = .ok (.rows rows, r))
    (reads : f rows = pure a) :
    run ⟨r, given, .idle⟩ (DatabaseStep.rows context s >>= f) = (.ok a, ⟨r, given, .idle⟩) := by
  rw [run_rows_bind plain clean draws does, reads]
  rfl

/-- A page is a limit and an offset, neither below zero. -/
theorem limited_eq_page (limit offset : Int) (items : List α) :
    Relations.limited (max limit 0) (max offset 0) items
      = .ok (Tables.page limit offset items) := by
  unfold Relations.limited
  rw [Carried.refuseIf_of_not (by omega), Carried.refuseIf_of_not (by omega)]
  have hlimit : (max limit 0).toNat = limit.toNat := by omega
  have hoffset : (max offset 0).toNat = offset.toNat := by omega
  show Except.ok _ = _
  rw [hlimit, hoffset]
  rfl

section Queries

variable (h : r.Holds t) (wf : t.WellFormed) (numbered : t.IncomesNumbered)

include h

/-- A user is found, or said not to be there. -/
theorem run_getUser (keyed : t.UsersKeyed) (id : Int) :
    run ⟨r, t.counters, .idle⟩ (getUser id)
      = (match t.users.get? id with
        | none => .refuse (.noSuchUser id)
        | some u => .ok u, ⟨r, t.counters, .idle⟩) := by
  unfold getUser
  have does : r.perform t.counters (.selectUser id)
      = .ok (.rows ((t.users.get? id).toList.map .ofUser), r) := by
    show Except.ok (r.reply _) = _
    rw [h.filter_user keyed]
    rfl
  rw [run_rows_bind (by rintro ⟨⟩) (by simp [Statement.HasNul, Statement.values]) rfl does]
  cases t.users.get? id with
  | none => rfl
  | some u =>
    show run _ (user (.ofUser u)) = _
    rw [user_ofUser]
    rfl

/-- The latest policy is found, if there is one. -/
theorem run_latestPolicy :
    run ⟨r, t.counters, .idle⟩ latestPolicy = (.ok t.latestPolicy?, ⟨r, t.counters, .idle⟩) := by
  unfold latestPolicy
  have does : r.perform t.counters .selectPolicy
      = .ok (.rows (t.latestPolicy?.toList.map .ofPolicy), r) := by
    rw [← h.policies.latest, List.map_map]
    rfl
  refine run_query (by rintro ⟨⟩) (by simp [Statement.HasNul, Statement.values]) rfl does ?_
  cases t.latestPolicy? <;> rfl

/-- The bands of a list come in the order in which they were added. -/
theorem run_rewardBands (level : PoolLevel) :
    run ⟨r, t.counters, .idle⟩ (rewardBands level)
      = (.ok (t.bandsOf level), ⟨r, t.counters, .idle⟩) := by
  unfold rewardBands
  have does : r.perform t.counters (.selectBands level)
      = .ok (.rows ((t.bandsOf level).map .ofBand), r) := by
    unfold Tables.bandsOf
    rw [← h.bands.ascending fun b => b.level = level, List.map_map]
    rfl
  refine run_query (by rintro ⟨⟩)
    (by simp [Statement.HasNul, Statement.values, PoolLevel.not_hasNul_name]) rfl does ?_
  refine mapM_sent fun b hb => ?_
  rw [Row.band?_ofBand (of_decide_eq_true (List.mem_filter.1 hb).2)]
  rfl

/-- The total of a day is found, and is zero if there is none. -/
theorem run_dayTotal (day : Day) :
    run ⟨r, t.counters, .idle⟩ (dayTotal day)
      = (.ok ⟨day, t.totalOf day⟩, ⟨r, t.counters, .idle⟩) := by
  unfold dayTotal
  refine run_query (by rintro ⟨⟩) (by simp [Statement.HasNul, Statement.values]) rfl rfl ?_
  unfold Tables.totalOf
  rw [← h.head?_dayTotals day, List.head?_map]
  cases (r.dayTotals.filter (·.day = day)).head? <;> rfl

/-- The incomes of a user are counted. -/
theorem run_countIncomes (id : Int) (source : Option IncomeSource) :
    run ⟨r, t.counters, .idle⟩ (DatabaseStep.answer (.countIncomes id source))
      = (.ok (t.incomesOf id source).length, ⟨r, t.counters, .idle⟩) := by
  show run _ (firstRow "count incomes" (.countIncomes id source) >>= _) = _
  unfold firstRow
  rw [bind_assoc]
  refine run_query (by rintro ⟨⟩) ?_ rfl rfl ?_
  · cases source <;>
      simp [Statement.HasNul, Statement.values, BoundValue.ofText?, IncomeSource.not_hasNul_name]
  · rw [List.countP_eq_length_filter, (h.filter_incomes id source).length_eq]
    rfl

/-- A page of referees is read in the order of their identifiers. -/
theorem run_referees (keyed : t.UsersKeyed) (referrer limit offset : Int) :
    run ⟨r, t.counters, .idle⟩ (DatabaseStep.answer (.referees referrer limit offset))
      = (.ok (Tables.page limit offset (t.refereesOf referrer)), ⟨r, t.counters, .idle⟩) := by
  refine run_query (by rintro ⟨⟩) (by simp [Statement.HasNul, Statement.values]) rfl ?_
    (mapM_sent fun u _ => user_ofUser u)
  show (Relations.limited _ _ _ >>= _) = _
  rw [h.ascending_users keyed, limited_eq_page]
  rfl

/-- So are the users whose balance can be withdrawn. -/
theorem run_withdrawableUsers (keyed : t.UsersKeyed) (minBalance : Int) :
    run ⟨r, t.counters, .idle⟩ (DatabaseStep.answer (.withdrawableUsers minBalance))
      = (.ok (t.withdrawable minBalance), ⟨r, t.counters, .idle⟩) := by
  refine run_query (by rintro ⟨⟩) (by simp [Statement.HasNul, Statement.values]) rfl ?_
    (mapM_sent fun u _ => user_ofUser u)
  show Except.ok (r.reply _) = _
  rw [h.ascending_users keyed]
  rfl

/-- A page of incomes is read from the last one on. -/
theorem run_incomes (numbered : t.IncomesNumbered) (id : Int) (source : Option IncomeSource)
    (limit offset : Int) :
    run ⟨r, t.counters, .idle⟩ (DatabaseStep.answer (.incomes id source limit offset))
      = (.ok (Tables.page limit offset (t.incomesOf id source).reverse),
        ⟨r, t.counters, .idle⟩) := by
  refine run_query (by rintro ⟨⟩) ?_ rfl ?_ (mapM_sent fun i _ => income_ofIncome i)
  · cases source <;>
      simp [Statement.HasNul, Statement.values, BoundValue.ofText?, IncomeSource.not_hasNul_name]
  · show (Relations.limited _ _ _ >>= _) = _
    rw [Relations.descending_eq (h.filter_incomes id source) (numbered.ascend.filter _),
      limited_eq_page]
    rfl

/-- So is a page of withdrawals. -/
theorem run_withdrawals (keyed : t.WithdrawalsKeyed) (id limit offset : Int) :
    run ⟨r, t.counters, .idle⟩ (DatabaseStep.answer (.withdrawals id limit offset))
      = (.ok (Tables.page limit offset (t.withdrawalsOf id).reverse), ⟨r, t.counters, .idle⟩) := by
  refine run_query (by rintro ⟨⟩) (by simp [Statement.HasNul, Statement.values]) rfl ?_
    (mapM_sent fun w _ => withdrawal_ofWithdrawal w)
  show (Relations.limited _ _ _ >>= _) = _
  rw [h.descending_withdrawals keyed, limited_eq_page]
  rfl

/-- The withdrawals in a status are read from the first one on. -/
theorem run_withdrawalsByStatus (keyed : t.WithdrawalsKeyed) (status : WithdrawalStatus)
    (limit : Int) :
    run ⟨r, t.counters, .idle⟩ (DatabaseStep.answer (.withdrawalsByStatus status limit))
      = (.ok (Tables.page limit 0 (t.withdrawalsIn status)), ⟨r, t.counters, .idle⟩) := by
  refine run_query (by rintro ⟨⟩) (by simp [Statement.HasNul, Statement.values]) rfl ?_
    (mapM_sent fun w _ => withdrawal_ofWithdrawal w)
  show (Relations.limited _ (max 0 0) _ >>= _) = _
  rw [h.ascending_withdrawals keyed, limited_eq_page]
  rfl

include wf numbered

/-- **A query is answered from the rows as from the tables**, and changes
nothing. -/
theorem run_of_read {m : Memory} (on : m.disabled = false) (tables : m.tables = t) {op : StoreOp}
    (portable : op.Portable) (read : ¬ op.IsWrite) :
    run ⟨r, t.counters, .idle⟩ (DatabaseStep.answer op)
      = ((m.answer op).1, ⟨r, t.counters, .idle⟩) := by
  subst tables
  have users := wf.users_keyed
  have withdrawals := wf.withdrawals_keyed
  have asked : ∀ {α : Type} (query : Tables → α), m.read query = .ok (query m.tables) :=
    Memory.read_of_usable on
  cases op with
  | user id =>
    refine (run_getUser h users id).trans ?_
    show _ = (m.user id, _)
    unfold Memory.user
    rw [asked]
    cases m.tables.users.get? id <;> rfl
  | referees referrer limit offset =>
    dsimp only [Memory.answer]
    rw [asked]
    exact run_referees h users referrer limit offset
  | withdrawableUsers minBalance =>
    dsimp only [Memory.answer]
    rw [asked]
    exact run_withdrawableUsers h users minBalance
  | latestPolicy =>
    dsimp only [Memory.answer]
    rw [asked]
    exact run_latestPolicy h
  | rewardBands level =>
    dsimp only [Memory.answer]
    rw [asked]
    exact run_rewardBands h level
  | dayTotal day =>
    dsimp only [Memory.answer]
    rw [asked]
    exact run_dayTotal h day
  | incomes id source limit offset =>
    dsimp only [Memory.answer]
    rw [asked]
    exact run_incomes h numbered id source limit offset
  | countIncomes id source =>
    dsimp only [Memory.answer]
    rw [asked]
    exact run_countIncomes h id source
  | withdrawals id limit offset =>
    dsimp only [Memory.answer]
    rw [asked]
    exact run_withdrawals h withdrawals id limit offset
  | withdrawalsByStatus status limit =>
    dsimp only [Memory.answer]
    rw [asked]
    exact run_withdrawalsByStatus h withdrawals status limit
  | creditReward | creditPartner | createWithdrawal | advanceWithdrawals =>
    exact absurd trivial read
  | createUser | checkHealth | close => exact portable.elim

end Queries

end Database

end RewardLedger
