import RewardLedger.Proofs.Store.Run

/-!
# The books balance

A user's row holds sums that could be computed from the other tables: what the
user's incomes paid to the user and to the referrer, what the incomes of
referees paid to the user, and what is left of it after the withdrawals. The
total of a day is the sum of the scheduled rewards of that day, and the time of
the last reward is that of the last reward recorded. A credit writes to all of
these places at once, and every place has to agree with the incomes after every
run.

The sums run over the incomes, so what matters is what recording one more
income does to them (`Tables.sumOf_book`). A share goes to a referrer only if
the referrer has a row. A referrer who registers later therefore starts with
nothing, although there are incomes that name it; that their shares are zero
has to be part of the invariant (`Tables.Balanced`).
-/

namespace RewardLedger

namespace Tables

/-! ## Sums over the incomes and the withdrawals -/

/-- The sum of a column over the incomes that satisfy a condition. -/
def sumOf (t : Tables) (p : Income → Prop) [DecidablePred p] (column : Income → Int) : Int :=
  ((t.incomes.filter fun i => p i).map column).sum

/-- The sum of the withdrawals of a user, of any status. -/
def withdrawnBy (t : Tables) (user : Int) : Int :=
  ((t.withdrawalsOf user).map (·.amount)).sum

/-- The scheduled reward of a user that was recorded last. -/
def lastRewardOf? (t : Tables) (user : Int) : Option Income :=
  (t.incomesOf user (some .reward)).getLast?

section Sums

variable {t : Tables} {p : Income → Prop} [DecidablePred p] {column : Income → Int}

/-- **One more income** adds its column to a sum if it satisfies the
condition. -/
theorem sumOf_book (i : Income) :
    (t.book i).sumOf p column = t.sumOf p column + if p i then column i else 0 := by
  show (((t.incomes ++ [i]).filter fun i => p i).map column).sum = _
  rw [filter_concat]
  unfold sumOf
  split
  · rw [List.map_append, List.sum_append, List.map_singleton, List.sum_singleton]
  · rw [Int.add_zero]

/-- A sum over no incomes at all. -/
theorem sumOf_eq_zero (h : ∀ i ∈ t.incomes, ¬ p i) : t.sumOf p column = 0 := by
  have hnil : t.incomes.filter (fun i => p i) = [] :=
    List.filter_eq_nil_iff.2 fun i hi => by rw [decide_eq_true_eq]; exact h i hi
  unfold sumOf
  rw [hnil]
  rfl

/-- One more income is the last reward of its user if it is a reward. -/
theorem lastRewardOf?_book (i : Income) (user : Int) :
    (t.book i).lastRewardOf? user
      = if i.user = user ∧ i.source = .reward then some i else t.lastRewardOf? user := by
  unfold lastRewardOf?
  rw [incomesOf_book]
  split
  · rw [List.getLast?_concat]
  · rfl

/-- One more withdrawal adds its amount to what its user withdrew. -/
theorem withdrawnBy_payOut (wf : t.WellFormed) {w : Withdrawal}
    (hid : w.id = t.counters.withdrawals + 1) (user : Int) :
    (t.payOut w).withdrawnBy user = t.withdrawnBy user + w.amountFrom user := by
  have hlast : (t.withdrawals.insert w.id w).values = t.withdrawals.values ++ [w] := by
    refine Table.values_insert_of_lt w fun k x hx => ?_
    have := wf.withdrawal_le k x hx
    omega
  show (((t.withdrawals.insert w.id w).values.filter fun x => x.user = user).map
    (·.amount)).sum = _
  rw [hlast, filter_concat]
  unfold withdrawnBy withdrawalsOf Withdrawal.amountFrom
  split
  · rw [List.map_append, List.sum_append, List.map_singleton, List.sum_singleton]
  · rw [Int.add_zero]

/-- Moving withdrawals to another status changes no amounts. -/
theorem withdrawnBy_advance (batch : List Int) (current next : WithdrawalStatus)
    (transaction : Option String) (now : Instant) (user : Int) :
    (t.advance batch current next transaction now).withdrawnBy user = t.withdrawnBy user := by
  unfold withdrawnBy withdrawalsOf advance
  rw [Table.values_map, List.filter_map, List.map_map]
  simp only [Function.comp_def, Withdrawal.user_advancedIn, Withdrawal.amount_advancedIn]

end Sums

/-! ## The invariant -/

/-- **The row of a user agrees with the other tables.** -/
structure Balances (t : Tables) (u : User) : Prop where
  totalIncome : u.totalIncome = t.sumOf (·.user = u.id) (·.amount)
  totalToReferrer : u.totalToReferrer = t.sumOf (·.user = u.id) (·.referrerAmount)
  totalFromReferees :
    u.totalFromReferees = t.sumOf (·.referrer = some u.id) (·.referrerAmount)
  balance : u.balance = u.totalIncome + u.totalFromReferees - t.withdrawnBy u.id
  rewardedAt : u.rewardedAt = (t.lastRewardOf? u.id).map (·.createdAt)

/-- What was paid in scheduled rewards on a day, by the incomes. -/
def rewardedOn (t : Tables) (day : Day) : Int :=
  t.sumOf (fun i => i.source = .reward ∧ i.createdAt.day = day)
    fun i => i.amount + i.referrerAmount

/-- One more income is paid on its day if it is a reward. -/
theorem rewardedOn_book {t : Tables} (i : Income) (day : Day) :
    (t.book i).rewardedOn day = t.rewardedOn day
      + if i.source = .reward ∧ i.createdAt.day = day then i.amount + i.referrerAmount
        else 0 := sumOf_book i

/-- **All rows agree with the incomes and withdrawals.** Whoever has no row has
no shares either. -/
structure Balanced (t : Tables) : Prop where
  users : ∀ k u, t.users.get? k = some u → t.Balances u
  days : ∀ day, t.totalOf day = t.rewardedOn day
  absent : ∀ k, t.users.get? k = none →
    t.sumOf (·.referrer = some k) (·.referrerAmount) = 0

/-! ## What keeps the books balanced -/

section Changes

variable {t t' : Tables} {u : User} {i : Income}

/-- A row agrees with the other tables as long as they hold the same incomes and
withdrawals. -/
theorem Balances.of_same (h : t.Balances u) (hi : t'.incomes = t.incomes)
    (hw : ∀ user, t'.withdrawnBy user = t.withdrawnBy user) : t'.Balances u := by
  have hsum : ∀ (p : Income → Prop) [DecidablePred p] (column : Income → Int),
      t'.sumOf p column = t.sumOf p column := by
    intro p _ column
    unfold sumOf
    rw [hi]
  have hlast : t'.lastRewardOf? u.id = t.lastRewardOf? u.id := by
    unfold lastRewardOf? incomesOf
    rw [hi]
  exact
    { totalIncome := by rw [hsum, h.totalIncome]
      totalToReferrer := by rw [hsum, h.totalToReferrer]
      totalFromReferees := by rw [hsum, h.totalFromReferees]
      balance := by rw [hw, h.balance]
      rewardedAt := by rw [hlast, h.rewardedAt] }

/-- **Posting an income** to a row keeps up with recording it. -/
theorem Balances.post (h : t.Balances u) (i : Income) : (t.book i).Balances (u.post i) where
  totalIncome := by
    rw [sumOf_book, User.totalIncome_post, h.totalIncome]
    rfl
  totalToReferrer := by
    rw [sumOf_book, User.totalToReferrer_post, h.totalToReferrer]
    rfl
  totalFromReferees := by
    rw [sumOf_book, User.totalFromReferees_post, h.totalFromReferees]
    rfl
  balance := by
    have hbalance := h.balance
    rw [User.balance_post, User.totalIncome_post, User.totalFromReferees_post]
    show _ = _ - t.withdrawnBy u.id
    omega
  rewardedAt := by
    rw [lastRewardOf?_book, User.rewardedAt_post, User.id_post]
    split
    · rfl
    · exact h.rewardedAt

/-- A row that is debited keeps up with the withdrawal created for it. -/
theorem Balances.debit (h : t.Balances u) (wf : t.WellFormed) {w : Withdrawal}
    (hid : w.id = t.counters.withdrawals + 1) : (t.payOut w).Balances (u.debit w) where
  totalIncome := h.totalIncome
  totalToReferrer := h.totalToReferrer
  totalFromReferees := h.totalFromReferees
  balance := by
    have hbalance := h.balance
    show u.balance - w.amountFrom u.id
      = u.totalIncome + u.totalFromReferees - (t.payOut w).withdrawnBy u.id
    rw [withdrawnBy_payOut wf hid]
    omega
  rewardedAt := h.rewardedAt

/-- Nobody who is just registered has earned anything yet, or withdrawn it. -/
theorem Balanced.new (h : t.Balanced) (wf : t.WellFormed) (user : NewUser) (now : Instant) :
    t.Balances (user.row (t.counters.users + 1) now) := by
  let id := t.counters.users + 1
  have hnone : t.users.get? id = none := wf.fresh_user (by omega)
  have hincomes : ∀ i ∈ t.incomes, ¬ i.user = id := wf.user_ne_of_absent hnone
  have hrewards : t.incomesOf id (some .reward) = [] :=
    List.filter_eq_nil_iff.2 fun i hi hp => hincomes i hi (of_decide_eq_true hp).1
  have hwithdrawals : t.withdrawalsOf id = [] := by
    refine List.filter_eq_nil_iff.2 fun w hw hp => ?_
    obtain ⟨k, hk⟩ := Table.mem_values_iff.1 hw
    obtain ⟨v, hv⟩ := wf.withdrawal_user k w hk
    rw [of_decide_eq_true hp, hnone] at hv
    cases hv
  exact
    { totalIncome := (sumOf_eq_zero hincomes).symm
      totalToReferrer := (sumOf_eq_zero hincomes).symm
      totalFromReferees := (h.absent id hnone).symm
      balance := by
        show 0 = 0 + 0 - ((t.withdrawalsOf id).map (·.amount)).sum
        rw [hwithdrawals]
        rfl
      rewardedAt := by
        show none = Option.map _ (t.incomesOf id (some .reward)).getLast?
        rw [hrewards]
        rfl }

/-- Somebody who registers changes nothing for the others. -/
theorem Balanced.register (h : t.Balanced) (wf : t.WellFormed) (user : NewUser) (now : Instant) :
    (t.register (user.row (t.counters.users + 1) now)).Balanced := by
  refine ⟨fun k v hv => ?_, h.days, fun k hk => h.absent k ?_⟩
  · obtain ⟨-, rfl⟩ | hv := new_or_old_of_register hv
    · exact (h.new wf user now).of_same rfl fun _ => rfl
    · exact (h.users k v hv).of_same rfl fun _ => rfl
  · rw [get?_users_register] at hk
    split at hk
    · cases hk
    · exact hk

/-- Whoever has no row is offered no share. -/
theorem share_of_absent {source : IncomeSource} {amount offered : Int} {now : Instant}
    {k : Int} (hr : u.referrer = some k) (hk : t.users.get? k = none) :
    (t.incomeOf source u amount offered now).referrerAmount = 0 := by
  have hnone : t.referrerOf? u = none := by
    unfold referrerOf?
    rw [hr, Option.bind_some, hk]
  unfold incomeOf
  rw [hnone]
  rfl

/-- **A credit** keeps every row in agreement, and gives no share to anybody
without a row. -/
theorem Balanced.book (h : t.Balanced) (source : IncomeSource) (amount offered : Int)
    (now : Instant) (hi : i = t.incomeOf source u amount offered now) :
    (∀ k v, (t.book i).users.get? k = some v → (t.book i).Balances v)
      ∧ ∀ k, (t.book i).users.get? k = none →
        (t.book i).sumOf (·.referrer = some k) (·.referrerAmount) = 0 := by
  constructor
  · intro k v hv
    obtain ⟨w, hw, rfl⟩ := Table.get?_map_eq_some_iff.1 hv
    exact (h.users k w hw).post i
  · intro k hk
    have hk : t.users.get? k = none :=
      Table.get?_map_eq_none_iff.1 hk
    rw [sumOf_book, h.absent k hk, Int.zero_add]
    split
    · next hr =>
      rw [hi] at hr ⊢
      exact share_of_absent hr hk
    · rfl

/-- **Counting an income into its day** keeps up with recording it as a
reward. -/
theorem totalOf_countDay (h : t.Balanced) (hi : i.source = .reward) (day : Day) :
    ((t.book i).countDay i).totalOf day = ((t.book i).countDay i).rewardedOn day := by
  have htotal : ((t.book i).countDay i).totalOf day
      = if day.number = i.createdAt.day.number then
          t.totalOf i.createdAt.day + (i.amount + i.referrerAmount)
        else t.totalOf day := by
    show (Table.get? (t.dayTotals.insert _ _) day.number).getD 0 = _
    rw [Table.get?_insert]
    split <;> rfl
  rw [htotal, show ((t.book i).countDay i).rewardedOn day = (t.book i).rewardedOn day from rfl,
    rewardedOn_book]
  by_cases hday : i.createdAt.day = day
  · rw [if_pos (congrArg Day.number hday.symm), if_pos ⟨hi, hday⟩, hday, h.days]
  · -- days are told apart by their numbers, which are the keys of the totals
    have hnumber : day.number ≠ i.createdAt.day.number := fun hn => hday (by
      cases day
      exact congrArg Day.mk hn.symm)
    rw [if_neg hnumber, if_neg fun hp => hday hp.2, h.days, Int.add_zero]

/-- **Every step keeps the books balanced.** -/
theorem Balanced.step (h : t.Balanced) (wf : t.WellFormed) (step : t.Step t') :
    t'.Balanced := by
  cases step with
  | register user now free => exact h.register wf user now
  | @reward u i amount offered now hu due hi =>
    obtain ⟨users, absent⟩ := h.book .reward amount offered now hi
    exact
      { users := fun k v hv => (users k v hv).of_same rfl fun _ => rfl
        days := totalOf_countDay h (by rw [hi]; rfl)
        absent := absent }
  | @partner u i source key amount offered now hu hsource fresh hi =>
    obtain ⟨users, absent⟩ := h.book source amount offered now hi
    exact
      { users := fun k v hv => (users k v hv).of_same rfl fun _ => rfl
        days := by
          intro day
          have hnot : i.source ≠ .reward := by
            rw [hi]
            exact fun hr => absurd (show IncomeSource.IsPartner .reward from hr ▸ hsource)
              (by decide)
          show t.totalOf day = (t.book i).rewardedOn day
          rw [rewardedOn_book, if_neg fun hp => hnot hp.1, Int.add_zero, h.days]
        absent := absent }
  | @payOut u order hu user covered =>
    refine ⟨fun k v hv => ?_, h.days, fun k hk => h.absent k ?_⟩
    · obtain ⟨w, hw, rfl⟩ := Table.get?_map_eq_some_iff.1 hv
      exact (h.users k w hw).debit wf rfl
    · exact Table.get?_map_eq_none_iff.1 hk
  | advance batch current next transaction now =>
    exact
      { users := fun k v hv => (h.users k v hv).of_same rfl
          (withdrawnBy_advance batch current next transaction now)
        days := h.days
        absent := h.absent }
  | policy | band =>
    exact
      { users := fun k v hv => (h.users k v hv).of_same rfl fun _ => rfl
        days := h.days
        absent := h.absent }

end Changes

theorem balanced_empty : Balanced .empty where
  users := by intro k u hu; cases hu
  days := by intro day; rfl
  absent := by intro k _; rfl

end Tables

namespace Memory

/-- The books of every usable store that can be reached are balanced. -/
theorem Reachable.balanced {m : Memory} (reach : m.Reachable) (on : m.disabled = false) :
    m.tables.Balanced :=
  reach.tables Tables.balanced_empty (fun _ _ wf h step => h.step wf step) on

/-- **The books balance after every run** that leaves the store usable: the row
of every user agrees with the incomes and the withdrawals, and the total of
every day is what was paid in scheduled rewards on it. -/
theorem books_balance (run : List Command) (on : (empty.after run).disabled = false) :
    (∀ id u, ((empty.after run).answer (.user id)).1 = .ok u →
        (empty.after run).tables.Balances u)
      ∧ ∀ day, ((empty.after run).answer (.dayTotal day)).1
        = .ok ⟨day, (empty.after run).tables.rewardedOn day⟩ := by
  have h : (empty.after run).tables.Balanced := (Reachable.empty.after run).balanced on
  refine ⟨fun id u hu => h.users id u (user_eq_ok_iff.1 hu).2, fun day => ?_⟩
  rw [← h.days day]
  exact read_of_usable on fun t => (⟨day, t.totalOf day⟩ : DayTotal)

/-- A user who is its own referrer gets the amount and the share, and a credit
that is stopped half way leaves no trace in the books. -/
theorem books_balance_of_self_referral :
    let run : List Command :=
      [.request (.createUser ⟨"a@x", "addr", some 1, 300⟩ ⟨0, 0⟩),
        .request (.creditReward ⟨1, 100, 10, ⟨0, 0⟩⟩),
        .arm .afterIncome,
        .request (.creditReward ⟨1, 100, 10, ⟨300, 0⟩⟩),
        .request (.createWithdrawal ⟨1, "addr", 60, ⟨301, 0⟩⟩)]
    (empty.after run).disabled = false
      ∧ ∃ u, ((empty.after run).answer (.user 1)).1 = .ok u ∧ u.balance = 50
        ∧ (empty.after run).tables.Balances u :=
  ⟨by decide, _, rfl, rfl, (books_balance _ (by decide)).1 1 _ rfl⟩

end Memory

end RewardLedger
