import RewardLedger.Proofs.Store.Table
import RewardLedger.Store.Tables

/-!
# Posting an income

A credit writes to the row of its user and, if there is one, to the row of the
user's referrer; the two may be the same row. What it does can be said without
telling the cases apart: **posting** an income changes every row by one
function of that row, which adds what the income pays to its user and what it
pays to its referrer (`User.post`). A row that is neither keeps what it had,
and a row that is both gets both.

That this is what the two writes of a credit come to is `insert_withShare` and
`insert_withIncome`. Everything that is later said about many users at once is said
about posting. A withdrawal is taken from the balances in the same way.
-/

namespace RewardLedger

/-! ## What an income pays -/

namespace Income

/-- What an income pays to a user for what the user did. -/
def amountFor (i : Income) (id : Int) : Int := if i.user = id then i.amount else 0

/-- What an income pays to a user for what a referee did. -/
def shareFor (i : Income) (id : Int) : Int :=
  if i.referrer = some id then i.referrerAmount else 0

/-- What an income of a user pays to somebody else. -/
def shareOf (i : Income) (id : Int) : Int := if i.user = id then i.referrerAmount else 0

end Income

/-- What a withdrawal takes from a user. -/
def Withdrawal.amountFrom (w : Withdrawal) (id : Int) : Int :=
  if w.user = id then w.amount else 0

namespace User

/-- A row with the referrer's share of an income added. -/
def withShare (i : Income) (u : User) : User :=
  { u with
    balance := u.balance + i.shareFor u.id
    totalFromReferees := u.totalFromReferees + i.shareFor u.id }

/-- A row with an income of its own added. A scheduled reward is remembered as
the last one. -/
def withIncome (i : Income) (u : User) : User :=
  { u with
    balance := u.balance + i.amountFor u.id
    totalIncome := u.totalIncome + i.amountFor u.id
    totalToReferrer := u.totalToReferrer + i.shareOf u.id
    rewardedAt :=
      if i.user = u.id ∧ i.source = .reward then some i.createdAt else u.rewardedAt }

/-- **A row with an income posted to it.** -/
def post (i : Income) (u : User) : User := (u.withShare i).withIncome i

/-- A referrer's row gets the share. -/
theorem withShare_of_referrer {i : Income} {u : User} (h : i.referrer = some u.id) :
    u.withShare i = { u with
      balance := u.balance + i.referrerAmount
      totalFromReferees := u.totalFromReferees + i.referrerAmount } := by
  unfold withShare Income.shareFor
  rw [if_pos h]

/-- Any other row is left as it is. -/
theorem withShare_of_ne {i : Income} {u : User} (h : i.referrer ≠ some u.id) :
    u.withShare i = u := by
  unfold withShare Income.shareFor
  rw [if_neg h, Int.add_zero, Int.add_zero]

/-- The user's row gets the income. -/
theorem withIncome_of_user {i : Income} {u : User} (h : i.user = u.id) :
    u.withIncome i = { u with
      balance := u.balance + i.amount
      totalIncome := u.totalIncome + i.amount
      totalToReferrer := u.totalToReferrer + i.referrerAmount
      rewardedAt := if i.source = .reward then some i.createdAt else u.rewardedAt } := by
  unfold withIncome Income.amountFor Income.shareOf
  rw [if_pos h, if_pos h]
  simp only [h, true_and]

/-- Any other row is left as it is. -/
theorem withIncome_of_ne {i : Income} {u : User} (h : i.user ≠ u.id) :
    u.withIncome i = u := by
  unfold withIncome Income.amountFor Income.shareOf
  rw [if_neg h, if_neg h, if_neg fun h' => h h'.1, Int.add_zero, Int.add_zero, Int.add_zero]

/-- A row with a withdrawal taken from its balance. -/
def debit (w : Withdrawal) (u : User) : User :=
  { u with balance := u.balance - w.amountFrom u.id }

@[simp] theorem id_post (i : Income) (u : User) : (u.post i).id = u.id := rfl

@[simp] theorem rewardInterval_post (i : Income) (u : User) :
    (u.post i).rewardInterval = u.rewardInterval := rfl

theorem balance_post (i : Income) (u : User) :
    (u.post i).balance = u.balance + i.shareFor u.id + i.amountFor u.id := rfl

theorem totalIncome_post (i : Income) (u : User) :
    (u.post i).totalIncome = u.totalIncome + i.amountFor u.id := rfl

theorem totalFromReferees_post (i : Income) (u : User) :
    (u.post i).totalFromReferees = u.totalFromReferees + i.shareFor u.id := rfl

theorem totalToReferrer_post (i : Income) (u : User) :
    (u.post i).totalToReferrer = u.totalToReferrer + i.shareOf u.id := rfl

theorem rewardedAt_post (i : Income) (u : User) :
    (u.post i).rewardedAt
      = if i.user = u.id ∧ i.source = .reward then some i.createdAt
        else u.rewardedAt := rfl

end User

/-! ## What stays -/

/-- What is fixed of a user once it is registered. -/
structure Profile where
  id : Int
  email : String
  address : String
  referrer : Option Int
  rewardInterval : Int
  createdAt : Instant
  deriving DecidableEq, Repr

namespace User

/-- The profile of a user. -/
def profile (u : User) : Profile where
  id := u.id
  email := u.email
  address := u.address
  referrer := u.referrer
  rewardInterval := u.rewardInterval
  createdAt := u.createdAt

@[simp] theorem profile_post (i : Income) (u : User) : (u.post i).profile = u.profile := rfl

@[simp] theorem profile_debit (w : Withdrawal) (u : User) : (u.debit w).profile = u.profile := rfl

end User

namespace Tables

/-- Every row of a user stands under the user's identifier. -/
def UsersKeyed (t : Tables) : Prop := ∀ k u, t.users.get? k = some u → u.id = k

/-- Rows stay under their identifiers when a function that keeps the identifier
changes all of them. -/
theorem UsersKeyed.map {t : Tables} (keyed : t.UsersKeyed) {f : User → User}
    (hf : ∀ u, (f u).id = u.id) (k : Int) (u : User)
    (hu : (t.users.map f).get? k = some u) : u.id = k := by
  obtain ⟨v, hv, rfl⟩ := Table.get?_map_eq_some_iff.1 hu
  rw [hf, keyed k v hv]

/-- The row of the referrer that a user named, if there is one. -/
def referrerOf? (t : Tables) (u : User) : Option User := u.referrer.bind t.users.get?

/-- **The income that a credit records.** The offered share goes into it only if
the referrer has a row. -/
def incomeOf (t : Tables) (source : IncomeSource) (u : User) (amount offered : Int)
    (now : Instant) : Income where
  id := t.counters.incomes + 1
  user := u.id
  referrer := u.referrer
  source := source
  amount := amount
  referrerAmount := if (t.referrerOf? u).isSome then offered else 0
  createdAt := now

/-- The tables with an income recorded and posted to every row. -/
def book (t : Tables) (i : Income) : Tables :=
  { t with
    users := t.users.map (·.post i)
    incomes := t.incomes ++ [i]
    counters := { t.counters with incomes := i.id } }

/-- One more item comes last among those that satisfy a condition, if it
satisfies it. -/
theorem filter_concat {α : Type} (p : α → Prop) [DecidablePred p] (items : List α) (a : α) :
    ((items ++ [a]).filter fun x => p x)
      = if p a then (items.filter fun x => p x) ++ [a] else items.filter fun x => p x := by
  rw [List.filter_append]
  by_cases h : p a
  · have hlast : [a].filter (fun x => decide (p x)) = [a] :=
      List.filter_cons_of_pos (decide_eq_true h)
    rw [if_pos h, hlast]
  · have hlast : [a].filter (fun x => decide (p x)) = [] :=
      List.filter_cons_of_neg (mt of_decide_eq_true h)
    rw [if_neg h, hlast, List.append_nil]

/-- The income of a user matches a source exactly when it comes from it. -/
theorem matches_some {user : Int} {source : IncomeSource} {i : Income} :
    Matches user (some source) i ↔ i.user = user ∧ i.source = source := by
  unfold Matches
  simp only [Option.some.injEq, forall_eq']

/-- **One more income** comes last among those of its user and source. -/
theorem incomesOf_book (t : Tables) (i : Income) (user : Int) (source : IncomeSource) :
    (t.book i).incomesOf user (some source)
      = if i.user = user ∧ i.source = source then t.incomesOf user (some source) ++ [i]
        else t.incomesOf user (some source) :=
  (filter_concat (Matches user (some source)) t.incomes i).trans (if_congr matches_some rfl rfl)

/-- The tables with an income recorded and its share paid, but not yet its
amount. -/
def halfBook (t : Tables) (i : Income) : Tables :=
  { t with
    users := t.users.map (·.withShare i)
    incomes := t.incomes ++ [i]
    counters := { t.counters with incomes := i.id } }

/-- The tables with an income counted into its day. -/
def countDay (t : Tables) (i : Income) : Tables :=
  { t with
    dayTotals := t.dayTotals.insert i.createdAt.day.number
      (t.totalOf i.createdAt.day + (i.amount + i.referrerAmount)) }

/-- The tables with an event remembered. -/
def remember (t : Tables) (e : PartnerEvent) : Tables := { t with events := e :: t.events }

end Tables

/-! ## The writes of a credit -/

namespace Tables

variable {t : Tables} {u r : User}

/-- The row of a referrer stands under the identifier that the user named. -/
theorem referrer_of_referrerOf? (keyed : t.UsersKeyed) (hr : t.referrerOf? u = some r) :
    u.referrer = some r.id ∧ t.users.get? r.id = some r := by
  obtain ⟨id, hid, hget⟩ := Option.bind_eq_some_iff.1 hr
  have hk : r.id = id := keyed id r hget
  exact ⟨by rw [hk, hid], by rw [hk, hget]⟩

/-- **Paying the share** to the referrer's row is adding the share to every row
that it belongs to. -/
theorem insert_withShare (keyed : t.UsersKeyed) (hr : t.referrerOf? u = some r)
    {i : Income} (hi : i.referrer = u.referrer) :
    t.users.insert r.id (r.withShare i) = t.users.map (·.withShare i) := by
  obtain ⟨href, hget⟩ := referrer_of_referrerOf? keyed hr
  refine Table.insert_eq_map (f := (·.withShare i)) hget ?_
  intro j v hj hv
  refine User.withShare_of_ne ?_
  rw [hi, href, keyed j v hv]
  exact fun h => hj (Option.some.inj h).symm

/-- Without a row of the referrer there is no share, and adding it to every row
changes nothing. -/
theorem map_withShare_of_none {users : Table User} {i : Income}
    (hi : i.referrerAmount = 0) : users.map (·.withShare i) = users := by
  refine Table.ext_get? fun k => ?_
  rw [Table.get?_map]
  cases users.get? k with
  | none => rfl
  | some v =>
    have hz : i.shareFor v.id = 0 := by
      unfold Income.shareFor
      split
      · exact hi
      · rfl
    rw [Option.map_some, User.withShare, hz, Int.add_zero, Int.add_zero]

/-- **Paying the amount** to the user's row is adding the income to every row
that it belongs to. -/
theorem insert_withIncome (keyed : t.UsersKeyed) {i : Income}
    (hu : t.users.get? i.user = some u) :
    t.users.insert u.id (u.withIncome i) = t.users.map (·.withIncome i) := by
  rw [keyed _ _ hu]
  refine Table.insert_eq_map (f := (·.withIncome i)) hu ?_
  intro j v hj hv
  refine User.withIncome_of_ne ?_
  rw [keyed j v hv]
  exact hj.symm

/-- **Debiting** the user's row is taking the withdrawal from every row that it
belongs to. -/
theorem insert_debit (keyed : t.UsersKeyed) (hu : t.users.get? u.id = some u)
    {w : Withdrawal} (hw : w.user = u.id) :
    t.users.insert u.id { u with balance := u.balance - w.amount }
      = t.users.map (·.debit w) := by
  rw [← Table.insert_eq_map (f := (·.debit w)) hu ?_]
  · unfold User.debit Withdrawal.amountFrom
    rw [if_pos hw]
  · intro j v hj hv
    have hne : w.user ≠ v.id := by
      rw [hw, keyed j v hv]
      exact hj.symm
    unfold User.debit Withdrawal.amountFrom
    rw [if_neg hne, Int.sub_zero]

end Tables

end RewardLedger
