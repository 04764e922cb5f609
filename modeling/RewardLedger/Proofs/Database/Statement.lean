import RewardLedger.Proofs.Database.Holds

/-!
# What a statement does to the rows

A database that holds what tables hold goes on to hold what the tables are to be
next: one law for each statement that writes. A statement that changes rows of
users changes them as one function of a row does that leaves the other rows
alone, and so does the table (`Holds.updateUsers`).
-/

namespace RewardLedger

namespace Carried

theorem sum_eq {a b : Int} (fits : Amount.Fits (a + b)) : sum a b = .ok (a + b) := by
  unfold sum
  rw [Amount.add?_eq_some_iff.2 ⟨fits, rfl⟩]

theorem difference_eq {a b : Int} (fits : Amount.Fits (a - b)) : difference a b = .ok (a - b) := by
  unfold difference
  rw [Amount.sub?_eq_some_iff.2 ⟨fits, rfl⟩]

theorem refuseIf_of_not {p : Prop} [Decidable p] (h : ¬ p) (refusal : DatabaseReply) :
    refuseIf p refusal = .ok ⟨⟩ := if_neg h

end Carried

/-- The members of a batch that are in a status are the rows of the table that
are both. -/
theorem Tables.length_inStatus {t : Tables} (keyed : t.WithdrawalsKeyed) {ids : List Int}
    (distinct : ids.Nodup) (current : WithdrawalStatus) :
    (t.inStatus current ids).length
      = t.withdrawals.values.countP fun w => w.id ∈ ids ∧ w.status = current := by
  have ascends := Table.pairwise_values keyed
  have rows : ((t.withdrawals.values.filter fun w => w.id ∈ ids ∧ w.status = current).map
      (·.id)).Nodup := List.pairwise_map.2 ((ascends.filter _).imp Int.ne_of_lt)
  have members : ∀ k, k ∈ (t.withdrawals.values.filter fun w => w.id ∈ ids ∧ w.status = current).map
      (·.id) ↔ k ∈ t.inStatus current ids := by
    intro k
    unfold inStatus
    simp only [List.mem_map, List.mem_filter, decide_eq_true_eq, Option.isSome_iff_exists,
      Option.filter_eq_some_iff, Table.mem_values_iff_of_keyed keyed]
    constructor
    · rintro ⟨w, ⟨row, named, status⟩, rfl⟩
      exact ⟨named, w, row, status⟩
    · rintro ⟨named, w, row, status⟩
      have hk : w.id = k := keyed k w row
      subst hk
      exact ⟨w, ⟨row, named, status⟩, rfl⟩
  have named : (t.inStatus current ids).Nodup := distinct.filter _
  have perm := (List.perm_ext_iff_of_nodup rows named).2 members
  rw [← perm.length_eq, List.length_map, List.countP_eq_length_filter]

namespace DayTotal

/-- The row of a day with an amount added to it. -/
def plus (day : Day) (paid : Int) (row : DayTotal) : DayTotal :=
  if row.day = day then { row with total := row.total + paid } else row

variable (row : DayTotal) {day : Day} {paid : Int}

theorem plus_of_day (same : row.day = day) :
    row.plus day paid = ⟨day, row.total + paid⟩ := by
  subst same
  exact if_pos rfl

theorem plus_of_ne (other : row.day ≠ day) : row.plus day paid = row := if_neg other

theorem day_plus (day : Day) (paid : Int) : (row.plus day paid).day = row.day := by
  unfold plus
  split <;> rfl

end DayTotal

namespace Relations

/-- Rows are changed by a function if it gives the new values of those that are
to be changed and fixes the others. -/
theorem update_eq {ρ : Type} {p : ρ → Prop} [DecidablePred p] {f : ρ → Carried ρ} {g : ρ → ρ}
    {rows : List ρ} (new : ∀ row ∈ rows, p row → f row = .ok (g row))
    (other : ∀ row ∈ rows, ¬ p row → g row = row) : update p f rows = .ok (rows.map g) := by
  unfold update
  induction rows with
  | nil => rfl
  | cons row rest ih =>
    have one : (if p row then f row else .ok row) = .ok (g row) := by
      by_cases hp : p row
      · rw [if_pos hp, new row List.mem_cons_self hp]
      · rw [if_neg hp, other row List.mem_cons_self hp]
    rw [List.mapM_cons, one, ih (fun x hx => new x (List.mem_cons_of_mem _ hx))
      fun x hx => other x (List.mem_cons_of_mem _ hx)]
    rfl

namespace Holds

variable {r : Relations} {t : Tables} (h : r.Holds t) (given : Counters)

include h

/-! ## Users -/

/-- **The row of a user is changed** by a function that fixes the other rows. -/
theorem updateUsers (keyed : t.UsersKeyed) {u : User} (hu : t.users.get? u.id = some u)
    {p : User → Prop} [DecidablePred p] (named : p u) (only : ∀ v, p v → v.id = u.id)
    {f : User → Carried User} {g : User → User} (new : f u = .ok (g u))
    (balance : 0 ≤ (g u).balance) (other : ∀ v, v.id ≠ u.id → g v = v) :
    ∃ r', r.updateUsers p f = .ok (.changed 1, r')
      ∧ r'.Holds { t with users := t.users.map g } := by
  have same : ∀ v ∈ r.users, v.id = u.id → v = u := fun v hv id => by
    have row := (h.mem_users keyed).1 hv
    rw [id, hu] at row
    exact (Option.some.inj row).symm
  have alike : ∀ v ∈ r.users, p v → v = u := fun v hv hp => same v hv (only v hp)
  have fixed : ∀ v ∈ r.users, ¬ p v → g v = v := fun v hv not =>
    other v fun id => not (same v hv id ▸ named)
  have one : r.users.countP (fun v => p v) = 1 := by
    have rows : r.users.filter (fun v => p v) = r.users.filter (·.id = u.id) :=
      List.filter_congr fun v hv =>
        decide_eq_decide.2 ⟨only v, fun id => same v hv id ▸ named⟩
    rw [List.countP_eq_length_filter, rows, h.filter_user keyed, hu]
    rfl
  have checked : ∀ v ∈ r.users, p v → (f v >>= checkUser) = .ok (g v) := fun v hv hp => by
    rw [alike v hv hp, new]
    show (Carried.refuseIf ((g u).balance < 0) _ >>= fun _ => _) = _
    rw [Carried.refuseIf_of_not (Int.not_lt.2 balance)]
    rfl
  refine ⟨{ r with users := r.users.map g }, ?_, { h with users := ?_, balances := ?_ }⟩
  · unfold Relations.updateUsers
    rw [update_eq checked fixed, one]
    rfl
  · show (r.users.map g).Perm (t.users.map g).values
    rw [Table.values_map]
    exact h.users.map g
  · intro v hv
    obtain ⟨w, hw, rfl⟩ := List.mem_map.1 hv
    by_cases hp : p w
    · rw [alike w hw hp]
      exact balance
    · rw [fixed w hw hp]
      exact h.balances w hw

/-- A referrer is credited a share. -/
theorem creditReferrer (keyed : t.UsersKeyed) {u : User} (hu : t.users.get? u.id = some u)
    {i : Income} (referrer : i.referrer = some u.id) (share : 0 ≤ i.referrerAmount)
    (balance : Amount.Fits (u.balance + i.referrerAmount))
    (total : Amount.Fits (u.totalFromReferees + i.referrerAmount)) :
    ∃ r', r.perform given (.creditReferrer i.referrerAmount u.id) = .ok (.changed 1, r')
      ∧ r'.Holds { t with users := t.users.map (·.withShare i) } := by
  have before := h.balances u ((h.mem_users keyed).2 hu)
  refine h.updateUsers (p := (·.id = u.id)) keyed hu rfl (fun _ => id) ?_ ?_ fun v other => ?_
  · rw [User.withShare_of_referrer referrer, Carried.sum_eq balance]
    show (Carried.sum u.totalFromReferees _ >>= fun _ => _) = _
    rw [Carried.sum_eq total]
    rfl
  · rw [User.withShare_of_referrer referrer]
    show 0 ≤ u.balance + i.referrerAmount
    omega
  · refine User.withShare_of_ne fun same => other ?_
    exact (Option.some.inj (referrer.symm.trans same)).symm

/-- A user is credited an income. -/
theorem creditUser (keyed : t.UsersKeyed) {u : User} (hu : t.users.get? u.id = some u)
    {i : Income} (user : i.user = u.id) (amount : 0 ≤ i.amount)
    (micro : i.createdAt.toMicroseconds = i.createdAt)
    (balance : Amount.Fits (u.withIncome i).balance)
    (total : Amount.Fits (u.withIncome i).totalIncome)
    (toReferrer : Amount.Fits (u.withIncome i).totalToReferrer) :
    ∃ r', r.perform given (.creditUser i.amount i.referrerAmount
          (if i.source = .reward then some i.createdAt else none) i.user) = .ok (.changed 1, r')
      ∧ r'.Holds { t with users := t.users.map (·.withIncome i) } := by
  have before := h.balances u ((h.mem_users keyed).2 hu)
  rw [User.withIncome_of_user user] at balance total toReferrer
  rw [user]
  refine h.updateUsers (p := (·.id = u.id)) keyed hu rfl (fun _ => id) ?_ ?_ fun v other => ?_
  · rw [User.withIncome_of_user user, Carried.sum_eq balance]
    show (Carried.sum u.totalIncome _ >>= fun _ => _) = _
    rw [Carried.sum_eq total]
    show (Carried.sum u.totalToReferrer _ >>= fun _ => _) = _
    rw [Carried.sum_eq toReferrer]
    by_cases reward : i.source = .reward
    · simp only [if_pos reward, Option.map_some, micro]
      rfl
    · simp only [if_neg reward]
      rfl
  · rw [User.withIncome_of_user user]
    show 0 ≤ u.balance + i.amount
    omega
  · exact User.withIncome_of_ne fun same => other (same.symm.trans user)

/-- A balance that covers the amount is debited. -/
theorem debitUser (keyed : t.UsersKeyed) {u : User} (hu : t.users.get? u.id = some u)
    {w : Withdrawal} (user : w.user = u.id) (covered : w.amount ≤ u.balance)
    (fits : Amount.Fits (u.balance - w.amount)) :
    ∃ r', r.perform given (.debitUser w.amount w.user) = .ok (.changed 1, r')
      ∧ r'.Holds { t with users := t.users.map (·.debit w) } := by
  have debited : u.debit w = { u with balance := u.balance - w.amount } := by
    unfold User.debit Withdrawal.amountFrom
    rw [if_pos user]
  rw [user]
  refine h.updateUsers keyed hu ⟨rfl, covered⟩ (fun _ both => both.1) ?_ ?_ fun v other => ?_
  · rw [debited, Carried.difference_eq fits]
    rfl
  · rw [debited]
    show 0 ≤ u.balance - w.amount
    omega
  · unfold User.debit Withdrawal.amountFrom
    rw [if_neg fun same => other (same.symm.trans user), Int.sub_zero]

/-- A balance that does not cover the amount is left alone. -/
theorem debitUser_of_uncovered (keyed : t.UsersKeyed) {user amount : Int}
    (uncovered : ∀ u, t.users.get? user = some u → u.balance < amount) :
    r.perform given (.debitUser amount user) = .ok (.changed 0, r) := by
  have nobody : ∀ u ∈ r.users, ¬ (u.id = user ∧ amount ≤ u.balance) := by
    rintro u hu ⟨rfl, covered⟩
    exact absurd (uncovered u ((h.mem_users keyed).1 hu)) (Int.not_lt.2 covered)
  show Relations.updateUsers r _ _ = _
  unfold Relations.updateUsers
  have none : r.users.countP (fun u => u.id = user ∧ amount ≤ u.balance) = 0 :=
    List.countP_eq_zero.2 fun u hu => by simpa using nobody u hu
  rw [@update_eq _ _ _ _ id _ (fun u hu hp => absurd hp (nobody u hu)) (fun _ _ _ => rfl),
    List.map_id, none]
  rfl

/-! ## Incomes and withdrawals -/

/-- An income is recorded under the next identifier. -/
theorem insertIncome (keyed : t.UsersKeyed) (numbered : t.IncomesNumbered) {i : Income}
    (next : i.id = t.counters.incomes + 1) (number : given.incomes = i.id)
    (user : ∃ u, t.users.get? i.user = some u)
    (micro : i.createdAt.toMicroseconds = i.createdAt) :
    ∃ r', r.perform given
          (.insertIncome i.user i.referrer i.source i.amount i.referrerAmount i.createdAt)
        = .ok (.rows [.ofCell "id" (.int i.id)], r')
      ∧ r'.Holds { t with
          incomes := t.incomes ++ [i]
          counters := { t.counters with incomes := i.id } } := by
  have free : ¬ ∃ j ∈ r.incomes, j.id = i.id := by
    rintro ⟨j, hj, same⟩
    have le := numbered.le j (h.incomes.mem_iff.1 hj)
    omega
  refine ⟨{ r with incomes := i :: r.incomes }, ?_, { h with incomes := ?_ }⟩
  · unfold perform
    simp only [number, micro]
    rw [Carried.refuseIf_of_not free]
    show (Carried.refuseIf (¬ ∃ u ∈ r.users, u.id = i.user) _ >>= fun _ => _) = _
    rw [Carried.refuseIf_of_not
      (not_not.2 ((h.exists_user keyed).2 user))]
    rfl
  · exact (h.incomes.cons i).trans (List.perm_append_singleton i t.incomes).symm

/-- A withdrawal is created under the next identifier. -/
theorem insertWithdrawal (wf : t.WellFormed) {order : NewWithdrawal} (amount : 0 < order.amount)
    (number : given.withdrawals = t.counters.withdrawals + 1)
    (user : ∃ u, t.users.get? order.user = some u)
    (micro : order.now.toMicroseconds = order.now) :
    let w := order.row (t.counters.withdrawals + 1)
    ∃ r', r.perform given (.insertWithdrawal order) = .ok (.rows [.ofWithdrawal w], r')
      ∧ r'.Holds { t with
          withdrawals := t.withdrawals.insert w.id w
          counters := { t.counters with withdrawals := w.id } } := by
  intro w
  have below : ∀ k x, t.withdrawals.get? k = some x → k < w.id := fun k x hx =>
    Int.lt_add_one_of_le (wf.withdrawal_le k x hx)
  have free : ¬ ∃ x ∈ r.withdrawals, x.id = w.id := by
    rintro ⟨x, hx, same⟩
    have row := (Table.mem_values_iff_of_keyed wf.withdrawals_keyed).1 (h.withdrawals.mem_iff.1 hx)
    exact Int.lt_irrefl _ (same ▸ below _ x row)
  refine ⟨{ r with withdrawals := w :: r.withdrawals }, ?_, { h with withdrawals := ?_ }⟩
  · unfold perform
    simp only [number, micro]
    show (Carried.refuseIf (∃ x ∈ r.withdrawals, x.id = w.id) _ >>= fun _ => _) = _
    rw [Carried.refuseIf_of_not free]
    show (Carried.refuseIf (order.amount ≤ 0) _ >>= fun _ => _) = _
    rw [Carried.refuseIf_of_not (Int.not_le.2 amount)]
    show (Carried.refuseIf (¬ ∃ u ∈ r.users, u.id = order.user) _ >>= fun _ => _) = _
    rw [Carried.refuseIf_of_not (not_not.2 ((h.exists_user wf.users_keyed).2 user))]
    rfl
  · show (w :: r.withdrawals).Perm (t.withdrawals.insert w.id w).values
    rw [Table.values_insert_of_lt w below]
    exact (h.withdrawals.cons w).trans (List.perm_append_singleton w _).symm

/-! ## Totals of days -/

/-- A row of a day has the total of the day. -/
theorem total_of_mem {row : DayTotal} (hrow : row ∈ r.dayTotals) :
    row.total = t.totalOf row.day := by
  unfold Tables.totalOf
  rw [(h.dayTotals row.day row.total).1 hrow]
  rfl

/-- A day without a row has the total zero. -/
theorem totalOf_of_noRow {day : Day} (absent : ¬ ∃ row ∈ r.dayTotals, row.day = day) :
    t.totalOf day = 0 := by
  unfold Tables.totalOf
  cases found : t.dayTotals.get? day.number with
  | none => rfl
  | some total => exact absurd ⟨_, (h.dayTotals day total).2 found, rfl⟩ absent

/-- The rows with an amount added to a day that has a row are those of the table
with the new total. -/
theorem mem_map_plus {day : Day} (there : ∃ row ∈ r.dayTotals, row.day = day) (paid : Int)
    (d : Day) (total : Int) :
    ⟨d, total⟩ ∈ r.dayTotals.map (·.plus day paid)
      ↔ (t.dayTotals.insert day.number (t.totalOf day + paid)).get? d.number = some total := by
  rw [Table.get?_insert, List.mem_map]
  by_cases hd : d = day
  · subst hd
    rw [if_pos rfl]
    constructor
    · rintro ⟨row, hrow, same⟩
      have hday : row.day = d := (row.day_plus d paid).symm.trans (congrArg DayTotal.day same)
      rw [row.plus_of_day hday] at same
      rw [← hday, ← h.total_of_mem hrow]
      exact congrArg some (congrArg DayTotal.total same)
    · intro sum
      obtain ⟨row, hrow, rfl⟩ := there
      refine ⟨row, hrow, (row.plus_of_day rfl).trans ?_⟩
      rw [h.total_of_mem hrow, Option.some.inj sum]
  · rw [if_neg (mt Day.number_inj.1 hd), ← h.dayTotals d total]
    constructor
    · rintro ⟨row, hrow, same⟩
      have hday : row.day = d := (row.day_plus day paid).symm.trans (congrArg DayTotal.day same)
      rw [row.plus_of_ne (hday ▸ hd)] at same
      exact same ▸ hrow
    · exact fun hrow => ⟨_, hrow, DayTotal.plus_of_ne _ hd⟩

/-- What was paid is added to the total of its day. -/
theorem addToDay {day : Day} {paid : Int} (fits : Amount.Fits (t.totalOf day + paid)) :
    ∃ r', r.perform given (.addToDay day paid) = .ok (.changed 1, r')
      ∧ r'.Holds { t with dayTotals := t.dayTotals.insert day.number (t.totalOf day + paid) } := by
  by_cases there : ∃ row ∈ r.dayTotals, row.day = day
  · have new : ∀ row ∈ r.dayTotals, row.day = day →
        (do return { row with total := ← Carried.sum row.total paid } : Carried DayTotal)
          = .ok (row.plus day paid) := by
      rintro row hrow rfl
      rw [Carried.sum_eq (h.total_of_mem hrow ▸ fits), row.plus_of_day rfl]
      rfl
    refine ⟨{ r with dayTotals := r.dayTotals.map (·.plus day paid) }, (if_pos there).trans ?_,
      { h with dayTotals := h.mem_map_plus there paid }⟩
    rw [update_eq new fun row _ hday => row.plus_of_ne hday]
    rfl
  · refine ⟨{ r with dayTotals := ⟨day, paid⟩ :: r.dayTotals }, if_neg there,
      { h with dayTotals := fun d total => ?_ }⟩
    rw [Table.get?_insert, List.mem_cons, DayTotal.mk.injEq, h.totalOf_of_noRow there,
      Int.zero_add]
    by_cases hd : d = day
    · have absent : ⟨d, total⟩ ∉ r.dayTotals := fun hrow => there ⟨_, hrow, hd⟩
      rw [if_pos (Day.number_inj.2 hd), or_iff_left absent, Option.some_inj, and_iff_right hd,
        eq_comm]
    · rw [if_neg (mt Day.number_inj.1 hd), ← h.dayTotals d total,
        or_iff_right fun both => hd both.1]

/-! ## Events and batches -/

/-- An event that is new is remembered. -/
theorem insertEvent {e : PartnerEvent} {relation : String}
    (partner : e.source.eventTable? = some relation) (fresh : e ∉ t.events) (amount : Int)
    (now : Instant) :
    ∃ r', r.perform given (.insertEvent relation e amount now) = .ok (.changed 1, r')
      ∧ r'.Holds (t.remember e) := by
  let row : EventRow := ⟨relation, e.key, e.user, amount, now.toMicroseconds⟩
  have absent : ¬ ∃ row ∈ r.events, row.IsOf relation e.key e.user :=
    fun there => fresh ((h.events e relation partner).1 there)
  refine ⟨{ r with events := row :: r.events }, if_neg absent, { h with events := ?_ }⟩
  intro e' relation' partner'
  have first : row.IsOf relation' e'.key e'.user ↔ e' = e := by
    constructor
    · rintro ⟨rfl, key, user⟩
      obtain ⟨source, _, _⟩ := e
      obtain ⟨source', _, _⟩ := e'
      cases IncomeSource.eq_of_eventTable? partner partner'
      cases key
      cases user
      rfl
    · rintro rfl
      exact ⟨Option.some.inj (partner.symm.trans partner'), rfl, rfl⟩
  rw [List.exists_mem_cons_iff, first, h.events e' relation' partner']
  exact List.mem_cons.symm

/-- An event that is remembered is passed over. -/
theorem insertEvent_of_known {e : PartnerEvent} {relation : String}
    (partner : e.source.eventTable? = some relation) (known : e ∈ t.events) (amount : Int)
    (now : Instant) :
    r.perform given (.insertEvent relation e amount now) = .ok (.changed 0, r) :=
  if_pos ((h.events e relation partner).2 known)

/-- The members of a batch that are in a status are moved to another. -/
theorem advanceWithdrawals (keyed : t.WithdrawalsKeyed) {ids : List Int} (distinct : ids.Nodup)
    (current next : WithdrawalStatus) (transaction : Option String) {now : Instant}
    (micro : now.toMicroseconds = now) :
    ∃ r', r.perform given (.advanceWithdrawals next transaction now ids current)
        = .ok (.changed (t.inStatus current ids).length, r')
      ∧ r'.Holds (t.advance ids current next transaction now) := by
  have moved : ∀ w : Withdrawal,
      (if w.id ∈ ids ∧ w.status = current then
        { w with
          status := next
          transaction := transaction.or w.transaction
          updatedAt := now.toMicroseconds }
      else w) = w.advancedIn ids current next transaction now := fun w => by
    rw [micro]
    rfl
  refine ⟨{ r with
    withdrawals := r.withdrawals.map (·.advancedIn ids current next transaction now) }, ?_,
    { h with withdrawals := ?_ }⟩
  · unfold perform
    simp only [moved]
    rw [h.withdrawals.countP_eq, ← Tables.length_inStatus keyed distinct]
    rfl
  · show (r.withdrawals.map _).Perm (t.withdrawals.map _).values
    rw [Table.values_map]
    exact h.withdrawals.map _

end Holds

end Relations

end RewardLedger
