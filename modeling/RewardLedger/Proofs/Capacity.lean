import Mathlib.Algebra.BigOperators.Group.List.Basic
import RewardLedger.Proofs.Solvency

/-!
# How much a store can hold

A balance, each of the three totals beside it and the total of a day are sums over the
incomes. As long as no income takes anything away none of them is above what all incomes
gave together (`Tables.credited`). So a store has room for a credit unless what it offers
and all that was ever credited come to more than an amount can hold.

What a withdrawal takes is not given back: a store can run out of room although all of its
balances are zero.
-/

namespace RewardLedger

namespace Tables

/-! ## What incomes gave -/

/-- **What all incomes gave**, to their users and to the users' referrers. -/
def credited (t : Tables) : Int := (t.incomes.map fun i => i.amount + i.referrerAmount).sum

theorem credited_book (t : Tables) (i : Income) :
    (t.book i).credited = t.credited + (i.amount + i.referrerAmount) := by
  show ((t.incomes ++ [i]).map _).sum = _
  rw [List.map_append, List.sum_append, List.map_singleton, List.sum_singleton]
  rfl

/-- One more item adds to the sum of a column if it satisfies the condition. -/
theorem sum_filter_cons {α : Type} (p : α → Prop) [DecidablePred p] (column : α → Int) (a : α)
    (items : List α) : (((a :: items).filter fun x => p x).map column).sum
      = (if p a then column a else 0) + ((items.filter fun x => p x).map column).sum := by
  by_cases h : p a <;> simp [h]

/-- **Nothing was ever taken away**: incomes and withdrawals are of no amounts below
zero. -/
structure Giving (t : Tables) : Prop where
  incomes : ∀ i ∈ t.incomes, 0 ≤ i.amount ∧ 0 ≤ i.referrerAmount
  withdrawn : ∀ user, 0 ≤ t.withdrawnBy user

theorem giving_empty : Giving .empty := ⟨nofun, fun _ => Int.le_refl 0⟩

namespace Giving

variable {t t' : Tables} (h : t.Giving)

include h

/-- Nothing is taken away as long as the incomes and the withdrawals stay the same. -/
theorem of_same (incomes : t'.incomes = t.incomes)
    (withdrawn : ∀ user, t'.withdrawnBy user = t.withdrawnBy user) : t'.Giving where
  incomes := by rw [incomes]; exact h.incomes
  withdrawn := fun user => by rw [withdrawn]; exact h.withdrawn user

/-- **Two columns come to no more than what was credited**, whichever incomes are looked
at for the one and for the other. -/
theorem sums_le (p q : Income → Prop) [DecidablePred p] [DecidablePred q] :
    0 ≤ t.sumOf p (·.amount) ∧ 0 ≤ t.sumOf q (·.referrerAmount)
      ∧ t.sumOf p (·.amount) + t.sumOf q (·.referrerAmount) ≤ t.credited := by
  have gives := h.incomes
  unfold sumOf credited
  generalize t.incomes = items at gives
  induction items with
  | nil => exact ⟨Int.le_refl 0, Int.le_refl 0, Int.le_refl 0⟩
  | cons i rest ih =>
    obtain ⟨amount, share⟩ := gives i List.mem_cons_self
    have more := ih fun j hj => gives j (List.mem_cons_of_mem i hj)
    rw [sum_filter_cons, sum_filter_cons, List.map_cons, List.sum_cons]
    split <;> split <;> omega

/-- Both columns over the same incomes are what these gave. -/
theorem rewardedOn_le (day : Day) : 0 ≤ t.rewardedOn day ∧ t.rewardedOn day ≤ t.credited := by
  let rewards (i : Income) : Prop := i.source = .reward ∧ i.createdAt.day = day
  have both : t.rewardedOn day
      = t.sumOf rewards (·.amount) + t.sumOf rewards (·.referrerAmount) := List.sum_map_add
  have sums := h.sums_le rewards rewards
  omega

/-- **Every sum in a row** lies within what was credited. -/
theorem row_le (balanced : t.Balanced) {k : Int} {u : User} (hu : t.users.get? k = some u) :
    u.balance ≤ t.credited
      ∧ 0 ≤ u.totalIncome ∧ u.totalIncome ≤ t.credited
      ∧ 0 ≤ u.totalFromReferees ∧ u.totalFromReferees ≤ t.credited
      ∧ 0 ≤ u.totalToReferrer ∧ u.totalToReferrer ≤ t.credited := by
  have books := balanced.users k u hu
  have taken := h.withdrawn u.id
  have own := h.sums_le (·.user = u.id) (·.referrer = some u.id)
  have offered := h.sums_le (·.user = u.id) (·.user = u.id)
  rw [books.balance, books.totalIncome, books.totalFromReferees, books.totalToReferrer]
  omega

/-- **A credit fits** if what it gives and all that was credited before come to an amount. -/
theorem creditFits (balanced : t.Balanced) (fit : t.BalancesFit) {k : Int} {u : User}
    (hu : t.users.get? k = some u) {i : Income} (amount : 0 ≤ i.amount)
    (share : 0 ≤ i.referrerAmount)
    (fits : t.credited + (i.amount + i.referrerAmount) ≤ Amount.greatest) :
    t.CreditFits u i := by
  have row := h.row_le balanced hu
  have balance := fit k u hu
  have amountFor : 0 ≤ i.amountFor u.id ∧ i.amountFor u.id ≤ i.amount := by
    unfold Income.amountFor
    split <;> omega
  have shareFor : 0 ≤ i.shareFor u.id ∧ i.shareFor u.id ≤ i.referrerAmount := by
    unfold Income.shareFor
    split <;> omega
  have shareOf : 0 ≤ i.shareOf u.id ∧ i.shareOf u.id ≤ i.referrerAmount := by
    unfold Income.shareOf
    split <;> omega
  refine ⟨fun r hr => ?_, ?_⟩
  · obtain ⟨j, -, hj⟩ := Option.bind_eq_some_iff.1 hr
    have paid := h.row_le balanced hj
    have held := fit j r hj
    unfold Amount.Fits Amount.least at held ⊢
    omega
  · rw [User.balance_post, User.totalIncome_post, User.totalToReferrer_post]
    unfold Amount.Fits Amount.least at balance ⊢
    omega

end Giving

end Tables

/-! ## What requests offer -/

namespace StoreOp

/-- What a credit offers to its user and the user's referrer. -/
def offered : StoreOp → Int
  | creditReward c => c.amount + c.referrerAmount
  | creditPartner c => c.amount + c.referrerAmount
  | _ => 0

instance : DecidablePred Gives
  | creditReward _ | creditPartner _ => inferInstanceAs (Decidable (_ ∧ _))
  | createUser .. | createWithdrawal _ | advanceWithdrawals .. | checkHealth | close | user _
  | referees .. | withdrawableUsers _ | latestPolicy | rewardBands _ | dayTotal _ | incomes ..
  | countIncomes .. | withdrawals .. | withdrawalsByStatus .. => instDecidableTrue

instance : DecidablePred TakesPositive
  | createWithdrawal order => inferInstanceAs (Decidable (0 < order.amount))
  | createUser .. | creditReward _ | creditPartner _ | advanceWithdrawals .. | checkHealth
  | close | user _ | referees .. | withdrawableUsers _ | latestPolicy | rewardBands _
  | dayTotal _ | incomes .. | countIncomes .. | withdrawals .. | withdrawalsByStatus .. =>
    instDecidableTrue

theorem offered_nonneg {op : StoreOp} (gives : op.Gives) : 0 ≤ op.offered := by
  cases op with
  | creditReward c | creditPartner c => exact Int.add_nonneg gives.1 gives.2
  | _ => exact Int.le_refl 0

end StoreOp

namespace Tables

/-- What an income gives is no more than what was offered. -/
theorem incomeOf_le (t : Tables) (source : IncomeSource) (u : User) (amount : Int) {offered : Int}
    (now : Instant) (gives : 0 ≤ offered) :
    0 ≤ (t.incomeOf source u amount offered now).referrerAmount
      ∧ (t.incomeOf source u amount offered now).referrerAmount ≤ offered := by
  show 0 ≤ (if (t.referrerOf? u).isSome then offered else 0) ∧ (if _ then _ else _) ≤ _
  split <;> omega

/-- It can be told whether the reward that is asked for is due. -/
def TellsDue (t : Tables) : StoreOp → Prop
  | .creditReward c => ∀ u ∈ t.users.get? c.user, u.rewardDue? c.now ≠ none
  | _ => True

instance (t : Tables) : DecidablePred t.TellsDue
  | .creditReward c =>
    inferInstanceAs (Decidable (∀ u ∈ t.users.get? c.user, u.rewardDue? c.now ≠ none))
  | .createUser .. | .creditPartner _ | .createWithdrawal _ | .advanceWithdrawals ..
  | .checkHealth | .close | .user _ | .referees .. | .withdrawableUsers _ | .latestPolicy
  | .rewardBands _ | .dayTotal _ | .incomes .. | .countIncomes .. | .withdrawals ..
  | .withdrawalsByStatus .. => instDecidableTrue

/-- **Tables serve a request** that takes nothing away, if it can be told whether what it
asks for is due. -/
structure Serves (t : Tables) (op : StoreOp) : Prop where
  gives : op.Gives
  positive : op.TakesPositive
  due : t.TellsDue op

instance (t : Tables) : DecidablePred t.Serves := fun op =>
  decidable_of_iff (op.Gives ∧ op.TakesPositive ∧ t.TellsDue op)
    ⟨fun ⟨gives, positive, due⟩ => ⟨gives, positive, due⟩, fun h => ⟨h.gives, h.positive, h.due⟩⟩

namespace Giving

variable {t : Tables} (h : t.Giving)

include h

/-- **The income of a credit** that takes nothing away gives no more than it offers. -/
theorem book (source : IncomeSource) (u : User) {amount offered : Int} (now : Instant)
    (gives : 0 ≤ amount) (share : 0 ≤ offered) :
    (t.book (t.incomeOf source u amount offered now)).Giving
      ∧ (t.book (t.incomeOf source u amount offered now)).credited
        ≤ t.credited + (amount + offered) := by
  have paid := t.incomeOf_le source u amount now share
  refine ⟨⟨?_, h.withdrawn⟩, ?_⟩
  · exact List.forall_mem_append.2 ⟨h.incomes, List.forall_mem_singleton.2 ⟨gives, paid.1⟩⟩
  · rw [credited_book]
    exact Int.add_le_add_left (Int.add_le_add_left paid.2 _) _

/-- **A write that is kept** credits no more than it offers, and takes nothing away. -/
theorem commits (wf : t.WellFormed) {op : StoreOp} (gives : op.Gives)
    (positive : op.TakesPositive) {a : op.Answer} {t' : Tables} (did : t.Commits op a t') :
    t'.Giving ∧ t'.credited ≤ t.credited + op.offered := by
  cases op with
  | createUser user now =>
    obtain ⟨-, rfl, rfl⟩ := did
    exact ⟨h.of_same rfl fun _ => rfl, Int.le_of_eq (Int.add_zero _).symm⟩
  | creditReward c =>
    obtain ⟨u, -, -, rfl, rfl⟩ := did
    have booked := h.book .reward u c.now gives.1 gives.2
    exact ⟨booked.1.of_same rfl fun _ => rfl, booked.2⟩
  | creditPartner c =>
    obtain ⟨-, -, u, -, rfl, rfl⟩ := did
    have booked := h.book c.source u c.now gives.1 gives.2
    exact ⟨booked.1.of_same rfl fun _ => rfl, booked.2⟩
  | createWithdrawal order =>
    obtain ⟨u, -, -, rfl, rfl⟩ := did
    refine ⟨⟨h.incomes, fun user => ?_⟩, Int.le_of_eq (Int.add_zero _).symm⟩
    rw [withdrawnBy_payOut wf rfl]
    have before := h.withdrawn user
    have taken : 0 ≤ (order.row (t.counters.withdrawals + 1)).amountFrom user := by
      have positive : 0 < order.amount := positive
      show 0 ≤ if order.user = user then order.amount else 0
      split <;> omega
    omega
  | advanceWithdrawals ids current next transaction now =>
    obtain ⟨-, -, rfl⟩ := did
    refine ⟨h.of_same rfl fun user => ?_, Int.le_of_eq (Int.add_zero _).symm⟩
    exact withdrawnBy_advance _ current next transaction now user
  | _ => exact did.elim

end Giving

end Tables

namespace Memory

/-- **A store has room for a request** if what this offers and all that was credited before
come to an amount. -/
theorem Reachable.hasRoom {m : Memory} (reach : m.Reachable) (on : m.disabled = false)
    (giving : m.tables.Giving) {op : StoreOp} (serves : m.tables.Serves op)
    (fits : m.tables.credited + op.offered ≤ Amount.greatest) : m.tables.HasRoom op := by
  have balanced := reach.balanced on
  have fit := reach.balancesFit on
  cases op with
  | creditReward c =>
    intro u hu early i
    have due : u.rewardDue? c.now = some true := by
      cases due : u.rewardDue? c.now with
      | none => exact absurd due (serves.due u hu)
      | some passed =>
        cases passed with
        | false => exact absurd due early
        | true => rfl
    have amount : i.amount = c.amount := rfl
    have share : 0 ≤ i.referrerAmount ∧ i.referrerAmount ≤ c.referrerAmount :=
      m.tables.incomeOf_le .reward u c.amount c.now serves.gives.2
    have gives := serves.gives.1
    have fits : m.tables.credited + (c.amount + c.referrerAmount) ≤ Amount.greatest := fits
    have day := giving.rewardedOn_le c.now.day
    rw [← balanced.days] at day
    refine ⟨due, ?_, ?_⟩
    · exact giving.creditFits balanced fit hu (amount ▸ gives) share.1 (by omega)
    · unfold Amount.Fits Amount.least
      omega
  | creditPartner c =>
    intro _ u hu
    have share := m.tables.incomeOf_le c.source u c.amount c.now serves.gives.2
    refine giving.creditFits balanced fit hu serves.gives.1 share.1 (Int.le_trans ?_ fits)
    exact Int.add_le_add_left (Int.add_le_add_left share.2 _) _
  | createWithdrawal order => exact reach.hasRoom_createWithdrawal on serves.positive
  | _ => trivial

/-- **A store that holds what was credited**, which is no more than a bound. -/
structure Holds (m : Memory) (bound : Int) : Prop where
  reach : m.Reachable
  on : m.disabled = false
  giving : m.tables.Giving
  credited : m.tables.credited ≤ bound

/-- **It goes on to hold it**, whatever is asked of it, as long as the bound and what is
offered come to an amount. -/
theorem Holds.answer {m : Memory} {bound : Int} (holds : m.Holds bound) {op : StoreOp}
    (serves : m.tables.Serves op) (fits : bound + op.offered ≤ Amount.greatest) :
    (m.answer op).2.Holds (bound + op.offered) := by
  have more := StoreOp.offered_nonneg serves.gives
  have before := holds.credited
  have reach : (m.answer op).2.Reachable := holds.reach.perform (.request op)
  by_cases write : op.IsWrite
  · have ends := holds.reach.writes write
    generalize (m.answer op).1 = r, (m.answer op).2 = m' at ends reach ⊢
    cases ends with
    | disabled off => exact absurd off (ne_true_of_eq_false holds.on)
    | outOfRange _ why =>
      exact absurd (holds.reach.hasRoom holds.on holds.giving serves (by omega)) why
    | kept _ _ _ did =>
      obtain ⟨giving, credited⟩ := holds.giving.commits (holds.reach.wellFormed holds.on)
        serves.gives serves.positive did
      exact ⟨reach, holds.on, giving, Int.le_trans credited (by omega)⟩
    | _ => exact ⟨reach, holds.on, holds.giving, Int.le_trans before (by omega)⟩
  · rw [answer_of_not_write m write]
    exact ⟨holds.reach, holds.on, holds.giving, Int.le_trans before (by omega)⟩

end Memory

end RewardLedger
