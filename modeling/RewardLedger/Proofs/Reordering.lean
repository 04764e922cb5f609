import Mathlib.Data.Finset.Insert
import Mathlib.Data.Finset.Dedup
import Mathlib.Data.List.Perm.Basic
import RewardLedger.Proofs.Delivery
import RewardLedger.Proofs.Solvency

/-!
# Deliveries in any order

Partners retry, and nothing keeps their deliveries in order: one that is
repeated may come before another that was sent first. Credits that share users
write to the same rows, a user's referrer may be credited on its own account,
and some deliveries fail because nobody has the user. The order shows in two
places only, in the numbers of the incomes and in the order in which incomes and
events are listed. What is left when those are forgotten is the **content** of
the tables (`Content`), and on contents deliveries commute
(`Content.deliver_comm`) and a repeated one does nothing
(`Content.deliver_deliver`). So the content in the end depends on which
deliveries there were, and on nothing else (`Content.deliverAll_congr`).

That needs partners: a scheduled reward leaves its moment in the row, and of two
moments the later one to be written stays.

A store follows the content as long as its sums fit. They fit in every order if
they fit in the end, because no delivery takes anything away: every row on the
way lies between the row at the beginning and the row in the end.
-/

namespace RewardLedger

/-! ## Contents -/

/-- An income apart from its number. -/
def Income.unnumbered (i : Income) : Income := { i with id := 0 }

/-- **What tables hold**, apart from the order in which it came. -/
structure Content where
  users : Table User
  emails : List (String × Int)
  /-- Apart from their numbers. -/
  incomes : Multiset Income
  dayTotals : Table Int
  bands : List RewardBand
  policies : List RewardPolicy
  withdrawals : Table Withdrawal
  events : Finset PartnerEvent
  counters : Counters

/-- The content of tables. -/
def Tables.content (t : Tables) : Content where
  users := t.users
  emails := t.emails
  incomes := (t.incomes.map Income.unnumbered : List Income)
  dayTotals := t.dayTotals
  bands := t.bands
  policies := t.policies
  withdrawals := t.withdrawals
  events := t.events.toFinset
  counters := t.counters

/-- Which incomes match does not depend on their numbers, so tables with one
content have as many of them. -/
theorem Tables.length_incomesOf (t : Tables) (user : Int) (source : Option IncomeSource) :
    (t.incomesOf user source).length = t.content.incomes.countP (Tables.Matches user source) := by
  show _ = Multiset.countP _ ((t.incomes.map Income.unnumbered : List Income) : Multiset Income)
  rw [Multiset.coe_countP, List.countP_map]
  exact List.countP_eq_length_filter.symm

namespace Content

/-- The income that a delivery records, if the user has a row. -/
def incomeOf? (z : Content) (c : PartnerCredit) : Option Income :=
  (z.users.get? c.user).map fun u =>
    { id := 0
      user := u.id
      referrer := u.referrer
      source := c.source
      amount := c.amount
      referrerAmount := if (u.referrer.bind z.users.get?).isSome then c.referrerAmount else 0
      createdAt := c.now }

/-- The content with an event remembered, and its income recorded and posted. -/
def record (z : Content) (e : PartnerEvent) (i : Income) : Content :=
  { z with
    users := z.users.map (·.post i)
    incomes := i ::ₘ z.incomes
    events := insert e z.events
    counters := { z.counters with incomes := z.counters.incomes + 1 } }

/-- **The content after a delivery**, with sums that may be as great as they
like. -/
def deliver (z : Content) (c : PartnerCredit) : Content :=
  if c.event ∈ z.events then z
  else
    match z.incomeOf? c with
    | none => z
    | some i => z.record c.event i

/-- The content after deliveries, one after the other. -/
def deliverAll (z : Content) (orders : List PartnerCredit) : Content := orders.foldl deliver z

end Content

/-! ## Two deliveries -/

/-- Posting the incomes of partners in either order comes to the same row. -/
theorem User.post_post {i j : Income} (hi : i.source ≠ .reward) (hj : j.source ≠ .reward)
    (u : User) : (u.post i).post j = (u.post j).post i := by
  have stays (k : Income) (hk : k.source ≠ .reward) (v : User) :
      (v.post k).rewardedAt = v.rewardedAt :=
    if_neg fun h => hk h.2
  have rewarded : ((u.post i).post j).rewardedAt = ((u.post j).post i).rewardedAt := by
    rw [stays j hj, stays i hi, stays i hi, stays j hj]
  have balance : ((u.post i).post j).balance = ((u.post j).post i).balance := by
    simp only [balance_post, id_post]
    omega
  have income : ((u.post i).post j).totalIncome = ((u.post j).post i).totalIncome := by
    simp only [totalIncome_post, id_post]
    omega
  have fromReferees :
      ((u.post i).post j).totalFromReferees = ((u.post j).post i).totalFromReferees := by
    simp only [totalFromReferees_post, id_post]
    omega
  have toReferrer :
      ((u.post i).post j).totalToReferrer = ((u.post j).post i).totalToReferrer := by
    simp only [totalToReferrer_post, id_post]
    omega
  calc (u.post i).post j
      = { u with
          balance := ((u.post i).post j).balance
          totalIncome := ((u.post i).post j).totalIncome
          totalFromReferees := ((u.post i).post j).totalFromReferees
          totalToReferrer := ((u.post i).post j).totalToReferrer
          rewardedAt := ((u.post i).post j).rewardedAt } := rfl
    _ = (u.post j).post i := by
      rw [balance, income, fromReferees, toReferrer, rewarded]
      rfl

namespace Content

variable {z : Content} {c d : PartnerCredit}

/-- Incomes of partners can be recorded in either order. -/
theorem record_record {i j : Income} (hi : i.source ≠ .reward) (hj : j.source ≠ .reward)
    (e f : PartnerEvent) : (z.record e i).record f j = (z.record f j).record e i := by
  have users : (z.users.map (·.post i)).map (·.post j)
      = (z.users.map (·.post j)).map (·.post i) := by
    rw [Table.map_map, Table.map_map]
    exact congrArg z.users.map (funext fun u => User.post_post hi hj u)
  unfold record
  dsimp only
  rw [users, Multiset.cons_swap, Finset.insert_comm]

/-- Recording an income does not change what another delivery records: nobody's
identifier or referrer changes, and nobody's row appears or goes. -/
@[simp] theorem incomeOf?_record (e : PartnerEvent) (i : Income) :
    (z.record e i).incomeOf? c = z.incomeOf? c := by
  have found (u : User) :
      ((u.post i).referrer.bind (z.record e i).users.get?).isSome
        = (u.referrer.bind z.users.get?).isSome := by
    show (u.referrer.bind (z.users.map (·.post i)).get?).isSome = _
    cases u.referrer with
    | none => rfl
    | some r =>
      show ((z.users.map (·.post i)).get? r).isSome = (z.users.get? r).isSome
      rw [Table.get?_map, Option.isSome_map]
  show ((z.users.map (·.post i)).get? c.user).map _ = (z.users.get? c.user).map _
  rw [Table.get?_map, Option.map_map]
  refine congrArg (fun f => Option.map f _) (funext fun u => ?_)
  show Income.mk 0 u.id u.referrer c.source c.amount
    (if ((u.post i).referrer.bind (z.record e i).users.get?).isSome then c.referrerAmount else 0)
    c.now = _
  rw [found]

/-- The income that a delivery records comes from the delivery's source. -/
theorem source_of_incomeOf? {i : Income} (hi : z.incomeOf? c = some i) : i.source = c.source := by
  obtain ⟨u, -, rfl⟩ := Option.map_eq_some_iff.1 hi
  rfl

/-- A delivery does **nothing** if its event is known, or if the user has no row. -/
def Idle (z : Content) (c : PartnerCredit) : Prop := c.event ∈ z.events ∨ z.incomeOf? c = none

theorem deliver_of_idle (idle : z.Idle c) : z.deliver c = z := by
  unfold deliver
  split
  · rfl
  · next fresh =>
    rw [idle.resolve_left fresh]

/-- Any other delivery records its income. -/
theorem deliver_of_not_idle (busy : ¬ z.Idle c) :
    ∃ i, z.incomeOf? c = some i ∧ z.deliver c = z.record c.event i := by
  obtain ⟨fresh, there⟩ := not_or.1 busy
  obtain ⟨i, hi⟩ := Option.ne_none_iff_exists'.1 there
  refine ⟨i, hi, ?_⟩
  unfold deliver
  rw [if_neg fresh, hi]

/-- After a delivery, another of the same does nothing. -/
theorem idle_deliver_self : (z.deliver c).Idle c := by
  by_cases idle : z.Idle c
  · rw [deliver_of_idle idle]
    exact idle
  · obtain ⟨i, -, recorded⟩ := deliver_of_not_idle idle
    rw [recorded]
    exact .inl (Finset.mem_insert_self _ _)

/-- Whether a delivery does anything does not depend on a delivery of another
event. -/
theorem idle_deliver_iff (other : c.event ≠ d.event) : (z.deliver d).Idle c ↔ z.Idle c := by
  by_cases idle : z.Idle d
  · rw [deliver_of_idle idle]
  · obtain ⟨i, -, recorded⟩ := deliver_of_not_idle idle
    rw [recorded]
    show c.event ∈ insert d.event z.events ∨ (z.record d.event i).incomeOf? c = none ↔ _
    rw [Finset.mem_insert, incomeOf?_record, or_iff_right other]
    rfl

/-- **A delivery that is repeated does nothing.** -/
theorem deliver_deliver : (z.deliver c).deliver c = z.deliver c := deliver_of_idle idle_deliver_self

/-- **Deliveries of two events commute.** -/
theorem deliver_comm (hc : c.source.IsPartner) (hd : d.source.IsPartner)
    (other : c.event ≠ d.event) : (z.deliver c).deliver d = (z.deliver d).deliver c := by
  by_cases first : z.Idle c
  · rw [deliver_of_idle first, deliver_of_idle ((idle_deliver_iff other).2 first)]
  by_cases second : z.Idle d
  · rw [deliver_of_idle second, deliver_of_idle ((idle_deliver_iff other.symm).2 second)]
  -- both record an income, and each the same as it would record first
  obtain ⟨i, hi, recordedFirst⟩ := deliver_of_not_idle first
  obtain ⟨j, hj, recordedSecond⟩ := deliver_of_not_idle second
  obtain ⟨j', hj', later⟩ := deliver_of_not_idle (mt (idle_deliver_iff other.symm).1 second)
  obtain ⟨i', hi', later'⟩ := deliver_of_not_idle (mt (idle_deliver_iff other).1 first)
  rw [recordedFirst, incomeOf?_record, hj] at hj'
  rw [recordedSecond, incomeOf?_record, hi] at hi'
  cases hj'
  cases hi'
  rw [later, later', recordedFirst, recordedSecond]
  refine record_record ?_ ?_ c.event d.event
  · rw [source_of_incomeOf? hi]
    exact hc
  · rw [source_of_incomeOf? hj]
    exact hd

end Content

/-! ## Any number of deliveries -/

/-- **Deliveries that are in order**: all of them are partners', and two
deliveries of one event are the same. -/
structure Consistent (orders : List PartnerCredit) : Prop where
  partner : ∀ c ∈ orders, c.source.IsPartner
  same : ∀ c ∈ orders, ∀ d ∈ orders, c.event = d.event → c = d

namespace Consistent

variable {orders again : List PartnerCredit} (h : Consistent orders)

include h

/-- So are those that are among them. -/
theorem mono (among : ∀ c ∈ again, c ∈ orders) : Consistent again where
  partner c hc := h.partner c (among c hc)
  same c hc d hd := h.same c (among c hc) d (among d hd)

/-- Two of them can be delivered in either order. -/
theorem deliver_comm (z : Content) {c d : PartnerCredit} (hc : c ∈ orders) (hd : d ∈ orders) :
    (z.deliver c).deliver d = (z.deliver d).deliver c := by
  by_cases event : c.event = d.event
  · rw [h.same c hc d hd event]
  · exact Content.deliver_comm (h.partner c hc) (h.partner d hd) event

end Consistent

namespace Content

variable {orders again : List PartnerCredit}

/-- Deliveries can be put into another order. -/
theorem deliverAll_perm (h : Consistent orders) (p : orders.Perm again) (z : Content) :
    z.deliverAll orders = z.deliverAll again :=
  p.foldl_eq' (fun _ hc _ hd z => h.deliver_comm z hc hd) z

/-- A delivery that comes later does not have to come first as well. -/
theorem deliverAll_deliver (h : Consistent orders) {c : PartnerCredit} (hc : c ∈ orders)
    (z : Content) : (z.deliver c).deliverAll orders = z.deliverAll orders := by
  have p : orders.Perm (c :: orders.erase c) := List.perm_cons_erase hc
  calc (z.deliver c).deliverAll orders
      = (z.deliver c).deliverAll (c :: orders.erase c) := deliverAll_perm h p _
    _ = ((z.deliver c).deliver c).deliverAll (orders.erase c) := rfl
    _ = (z.deliver c).deliverAll (orders.erase c) := by rw [deliver_deliver]
    _ = z.deliverAll (c :: orders.erase c) := rfl
    _ = z.deliverAll orders := (deliverAll_perm h p z).symm

/-- Of deliveries that are repeated one is enough. -/
theorem deliverAll_dedup (h : Consistent orders) (z : Content) :
    z.deliverAll orders.dedup = z.deliverAll orders := by
  induction orders generalizing z with
  | nil => rfl
  | cons c rest ih =>
    have hrest := h.mono fun d hd => List.mem_cons_of_mem c hd
    by_cases repeated : c ∈ rest
    · rw [List.dedup_cons_of_mem repeated, ih hrest]
      exact (deliverAll_deliver hrest repeated z).symm
    · rw [List.dedup_cons_of_notMem repeated]
      exact ih hrest (z.deliver c)

/-- **Only which deliveries there are matters**, not their order, and not how
often each of them comes. -/
theorem deliverAll_congr (h : Consistent orders) (members : ∀ c, c ∈ again ↔ c ∈ orders)
    (z : Content) : z.deliverAll again = z.deliverAll orders := by
  have h' : Consistent again := h.mono fun c => (members c).1
  have p : again.dedup.Perm orders.dedup := by
    refine (List.perm_ext_iff_of_nodup (List.nodup_dedup _) (List.nodup_dedup _)).2 fun c => ?_
    rw [List.mem_dedup, List.mem_dedup, members c]
  calc z.deliverAll again
      = z.deliverAll again.dedup := (deliverAll_dedup h' z).symm
    _ = z.deliverAll orders.dedup :=
      deliverAll_perm (h'.mono fun c => List.mem_dedup.1) p z
    _ = z.deliverAll orders := deliverAll_dedup h z

end Content

/-! ## Rows that only grow -/

namespace User.AtMost

/-- A row between two that can be held can be held. -/
theorem fits {u v w : User} (first : u.AtMost v) (second : v.AtMost w) (least : u.Fits)
    (greatest : w.Fits) : v.Fits where
  balance := ⟨least.balance.1.trans first.balance, second.balance.trans greatest.balance.2⟩
  totalIncome :=
    ⟨least.totalIncome.1.trans first.totalIncome,
      second.totalIncome.trans greatest.totalIncome.2⟩
  totalFromReferees :=
    ⟨least.totalFromReferees.1.trans first.totalFromReferees,
      second.totalFromReferees.trans greatest.totalFromReferees.2⟩
  totalToReferrer :=
    ⟨least.totalToReferrer.1.trans first.totalToReferrer,
      second.totalToReferrer.trans greatest.totalToReferrer.2⟩

end User.AtMost

/-- An income that takes nothing away. -/
structure Income.Gives (i : Income) : Prop where
  amount : 0 ≤ i.amount
  share : 0 ≤ i.referrerAmount

/-- A delivery that takes nothing away. -/
structure PartnerCredit.Gives (c : PartnerCredit) : Prop where
  amount : 0 ≤ c.amount
  share : 0 ≤ c.referrerAmount

namespace Income.Gives

variable {i : Income} (gives : i.Gives)

include gives

theorem amountFor_nonneg (id : Int) : 0 ≤ i.amountFor id := by
  unfold Income.amountFor
  split
  · exact gives.amount
  · exact Int.le_refl 0

theorem shareFor_nonneg (id : Int) : 0 ≤ i.shareFor id := by
  unfold Income.shareFor
  split
  · exact gives.share
  · exact Int.le_refl 0

theorem shareOf_nonneg (id : Int) : 0 ≤ i.shareOf id := by
  unfold Income.shareOf
  split
  · exact gives.share
  · exact Int.le_refl 0

/-- Posting it takes nothing from any row. -/
theorem atMost_post (u : User) : u.AtMost (u.post i) := by
  have amountFor := gives.amountFor_nonneg u.id
  have shareFor := gives.shareFor_nonneg u.id
  have shareOf := gives.shareOf_nonneg u.id
  constructor
  · rw [User.balance_post]
    omega
  · rw [User.totalIncome_post]
    omega
  · rw [User.totalFromReferees_post]
    omega
  · rw [User.totalToReferrer_post]
    omega

/-- **The sums of a credit fit** if the rows fit before it and after it. A
referrer may be credited on its own account as well; then the sum on the way
lies between the two. -/
theorem creditFits {t : Tables} (keyed : t.UsersKeyed) {k : Int} {u : User}
    (hu : t.users.get? k = some u) (referrer : i.referrer = u.referrer)
    (before : Tables.RowsFit t.users) (after : Tables.RowsFit (t.users.map (·.post i))) :
    t.CreditFits u i := by
  have own := after k _ (Table.get?_map_eq_some_iff.2 ⟨u, hu, rfl⟩)
  refine ⟨fun r hr => ?_, own.balance, own.totalIncome, own.totalToReferrer⟩
  obtain ⟨named, hget⟩ := Tables.referrer_of_referrerOf? keyed hr
  have row := before _ r hget
  have posted := after _ _ (Table.get?_map_eq_some_iff.2 ⟨r, hget, rfl⟩)
  have share : i.shareFor r.id = i.referrerAmount := if_pos (referrer.trans named)
  have more := gives.amountFor_nonneg r.id
  have balance := posted.balance
  have total := posted.totalFromReferees
  rw [User.balance_post, share] at balance
  rw [User.totalFromReferees_post, share] at total
  refine ⟨⟨row.balance.1.trans ?_, Int.le_trans ?_ balance.2⟩, total⟩
  · have positive := gives.share
    omega
  · omega

end Income.Gives

namespace Content

variable {orders : List PartnerCredit}

/-- **The rows only grew**: there is a row of the same users as before, and none
has lost anything. -/
structure Grows (z z' : Content) : Prop where
  atMost : ∀ k u, z.users.get? k = some u → ∃ v, z'.users.get? k = some v ∧ u.AtMost v
  absent : ∀ k, z.users.get? k = none → z'.users.get? k = none

namespace Grows

theorem refl (z : Content) : z.Grows z where
  atMost _ u hu := ⟨u, hu, .refl u⟩
  absent _ hk := hk

variable {z z' z'' : Content} (first : z.Grows z') (second : z'.Grows z'')

include first second

theorem trans : z.Grows z'' where
  atMost k u hu := by
    obtain ⟨v, hv, le⟩ := first.atMost k u hu
    obtain ⟨w, hw, le'⟩ := second.atMost k v hv
    exact ⟨w, hw, le.trans le'⟩
  absent k hk := second.absent k (first.absent k hk)

/-- **Rows on the way fit** if they fit at the beginning and in the end: each row
is between the two. -/
theorem rowsFit (least : Tables.RowsFit z.users) (greatest : Tables.RowsFit z''.users) :
    Tables.RowsFit z'.users := by
  intro k v hv
  cases hu : z.users.get? k with
  | none =>
    rw [first.absent k hu] at hv
    cases hv
  | some u =>
    obtain ⟨v', hv', le⟩ := first.atMost k u hu
    rw [hv] at hv'
    cases hv'
    obtain ⟨w, hw, le'⟩ := second.atMost k v hv
    exact le.fits le' (least k u hu) (greatest k w hw)

end Grows

/-- A delivery that takes nothing away only adds to rows. -/
theorem grows_deliver (z : Content) {c : PartnerCredit} (gives : c.Gives) :
    z.Grows (z.deliver c) := by
  by_cases idle : z.Idle c
  · rw [deliver_of_idle idle]
    exact .refl z
  · obtain ⟨i, hi, recorded⟩ := deliver_of_not_idle idle
    have paid : i.Gives := by
      obtain ⟨u, -, rfl⟩ := Option.map_eq_some_iff.1 hi
      refine ⟨gives.amount, ?_⟩
      dsimp only
      split
      · exact gives.share
      · exact Int.le_refl 0
    rw [recorded]
    exact
      { atMost := fun k u hu =>
          ⟨u.post i, Table.get?_map_eq_some_iff.2 ⟨u, hu, rfl⟩, paid.atMost_post u⟩
        absent := fun k hk => Table.get?_map_eq_none_iff.2 hk }

/-- So do any number of them. -/
theorem grows_deliverAll (gives : ∀ c ∈ orders, c.Gives) (z : Content) :
    z.Grows (z.deliverAll orders) := by
  induction orders generalizing z with
  | nil => exact .refl z
  | cons c rest ih =>
    exact (z.grows_deliver (gives c List.mem_cons_self)).trans
      (ih (fun d hd => gives d (List.mem_cons_of_mem c hd)) (z.deliver c))

end Content

/-! ## The store follows the content -/

namespace Tables

variable {t : Tables}

/-- The income of a delivery to a user who has a row. -/
theorem incomeOf?_content {c : PartnerCredit} {u : User} (hu : t.users.get? c.user = some u) :
    t.content.incomeOf? c
      = some (t.incomeOf c.source u c.amount c.referrerAmount c.now).unnumbered := by
  show (t.users.get? c.user).map _ = _
  rw [hu]
  rfl

/-- There is none to a user who has no row. -/
theorem incomeOf?_content_of_absent {c : PartnerCredit} (absent : t.users.get? c.user = none) :
    t.content.incomeOf? c = none := by
  show (t.users.get? c.user).map _ = none
  rw [absent]
  rfl

theorem mem_events_content {e : PartnerEvent} : e ∈ t.content.events ↔ e ∈ t.events :=
  List.mem_toFinset

/-- **A delivery that is kept** does to the content what it should. -/
theorem Commits.content {c : PartnerCredit} {receipt : Receipt} {t' : Tables}
    (did : t.Commits (.creditPartner c) receipt t') : t'.content = t.content.deliver c := by
  obtain ⟨-, fresh, u, hu, rfl, rfl⟩ := did
  let i := t.incomeOf c.source u c.amount c.referrerAmount c.now
  have last : (((t.incomes ++ [i]).map Income.unnumbered : List Income) : Multiset Income)
      = i.unnumbered ::ₘ ((t.incomes.map Income.unnumbered : List Income) : Multiset Income) := by
    rw [List.map_append, Multiset.cons_coe, Multiset.coe_eq_coe]
    exact List.perm_append_singleton _ _
  have events : (c.event :: t.events).toFinset = insert c.event t.events.toFinset :=
    List.toFinset_cons
  unfold Content.deliver
  rw [if_neg (mt mem_events_content.1 fresh), incomeOf?_content hu]
  show Content.mk _ _ ((t.incomes ++ [i]).map Income.unnumbered : List Income) _ _ _ _
    (c.event :: t.events).toFinset _ = _
  rw [last, events]
  rfl

/-- **A delivery that is refused by the tables** does nothing. -/
theorem Refuses.idle {c : PartnerCredit} {cause : Error}
    (why : t.Refuses (.creditPartner c) cause) : t.content.Idle c := by
  obtain ⟨known, -⟩ | ⟨-, absent, -⟩ := why
  · exact .inl (mem_events_content.2 known)
  · exact .inr (incomeOf?_content_of_absent absent)

/-- **There is room for a delivery** if the rows fit before it and after it. -/
theorem hasRoom_creditPartner (keyed : t.UsersKeyed) {c : PartnerCredit} (gives : c.Gives)
    (before : RowsFit t.users) (after : RowsFit (t.content.deliver c).users) :
    t.HasRoom (.creditPartner c) := by
  intro fresh u hu
  let i := t.incomeOf c.source u c.amount c.referrerAmount c.now
  have paid : i.Gives := by
    refine ⟨gives.amount, ?_⟩
    show 0 ≤ if (t.referrerOf? u).isSome then c.referrerAmount else 0
    split
    · exact gives.share
    · exact Int.le_refl 0
  refine paid.creditFits keyed hu rfl before ?_
  unfold Content.deliver at after
  rw [if_neg (mt mem_events_content.1 fresh), incomeOf?_content hu] at after
  exact after

end Tables

namespace Memory

/-- The commands of deliveries, one after the other. -/
def deliveries (orders : List PartnerCredit) : List Command :=
  orders.map fun c => .request (.creditPartner c)

variable {m : Memory}

/-- **One delivery** to a store that can be used and has room for it does to the
content what it should, and leaves the store usable. -/
theorem Reachable.answer_delivery (reach : m.Reachable) (on : m.disabled = false)
    (unarmed : m.armed = none) {c : PartnerCredit} (partner : c.source.IsPartner)
    (gives : c.Gives) (fits : Tables.RowsFit (m.tables.content.deliver c).users) :
    let m' := (m.answer (.creditPartner c)).2
    m'.disabled = false ∧ m'.armed = none ∧ m'.tables.content = m.tables.content.deliver c := by
  have room := Tables.hasRoom_creditPartner (reach.wellFormed on).users_keyed gives
    (reach.rowsFit on) fits
  have ends := reach.writes (show (StoreOp.creditPartner c).IsWrite from trivial)
  generalize (m.answer (.creditPartner c)).1 = r, (m.answer (.creditPartner c)).2 = m' at ends ⊢
  cases ends with
  | invalid why =>
    rw [StoreOp.invalid?, if_pos partner] at why
    cases why
  | disabled off => exact absurd off (ne_true_of_eq_false on)
  | refused _ why => exact ⟨on, unarmed, (Content.deliver_of_idle why.idle).symm⟩
  | stopped _ armed =>
    rw [unarmed] at armed
    cases armed
  | kept _ _ _ did => exact ⟨on, unarmed, did.content⟩
  | outOfRange _ why => exact absurd room why

/-- **Any number of deliveries**, as long as the rows fit in the end. -/
theorem Reachable.after_deliveries (reach : m.Reachable) (on : m.disabled = false)
    (unarmed : m.armed = none) {orders : List PartnerCredit}
    (partner : ∀ c ∈ orders, c.source.IsPartner) (gives : ∀ c ∈ orders, c.Gives)
    (fits : Tables.RowsFit (m.tables.content.deliverAll orders).users) :
    (m.after (deliveries orders)).disabled = false
      ∧ (m.after (deliveries orders)).tables.content = m.tables.content.deliverAll orders := by
  induction orders generalizing m with
  | nil => exact ⟨on, rfl⟩
  | cons c rest ih =>
    have later (d : PartnerCredit) (hd : d ∈ rest) : d.Gives :=
      gives d (List.mem_cons_of_mem c hd)
    have first := gives c List.mem_cons_self
    have way : Tables.RowsFit (m.tables.content.deliver c).users :=
      (Content.grows_deliver _ first).rowsFit (Content.grows_deliverAll later _)
        (reach.rowsFit on) fits
    obtain ⟨on', unarmed', next⟩ :=
      reach.answer_delivery on unarmed (partner c List.mem_cons_self) first way
    have rest' := ih (reach.perform (.request (.creditPartner c))) on' unarmed'
      (fun d hd => partner d (List.mem_cons_of_mem c hd)) later (next.symm ▸ fits)
    exact ⟨rest'.1, rest'.2.trans (congrArg (Content.deliverAll · rest) next)⟩

/-- A disabled store is left as it is. -/
theorem after_deliveries_of_disabled (off : m.disabled = true) {orders : List PartnerCredit}
    (partner : ∀ c ∈ orders, c.source.IsPartner) : m.after (deliveries orders) = m := by
  induction orders with
  | nil => rfl
  | cons c rest ih =>
    show (m.answer (.creditPartner c)).2.after (deliveries rest) = m
    rw [answer_creditPartner_of_disabled off (partner c List.mem_cons_self)]
    exact ih fun d hd => partner d (List.mem_cons_of_mem c hd)

/-- **Whether an event is credited** in a run shows in the events remembered at
its end. -/
theorem Reachable.countP_credits_eq (reach : m.Reachable) {run : List Command}
    (on : (m.after run).disabled = false) (e : PartnerEvent) :
    (m.log run).countP (credits e)
      = if e ∈ m.tables.events then 0 else if e ∈ (m.after run).tables.events then 1 else 0 := by
  have most := reach.countP_credits (e := e) run
  have remembered := reach.mem_events_after (e := e) run on
  rw [← List.countP_pos_iff] at remembered
  have usable := reach.usable_of_after run on
  by_cases known : e ∈ m.tables.events
  · rw [if_pos (.inl known)] at most
    rw [if_pos known]
    omega
  · rw [if_neg fun h => h.elim known (ne_true_of_eq_false usable)] at most
    rw [if_neg known]
    split
    · next credited =>
      have positive := (remembered.1 credited).resolve_left known
      omega
    · next never =>
      have none := mt (fun positive => remembered.2 (.inr positive)) never
      omega

/-- **Deliveries commute.** Deliveries of partners to a store in any state that
can be reached with no fail point armed, each of them giving something or
nothing, two of one event being the same, and with sums that fit in the end, may
come in any order and be repeated any number of times. The content in the end is
the same: every field of every user, the events remembered, the totals of the
days, the withdrawals, and the incomes apart from their numbers, of which each
user has as many from each source. Of the deliveries of an event exactly one is
answered with a receipt or none is, and which of the two does not depend on the
order. A store that could be used stays usable, and its content is what the
deliveries come to when their sums are not bounded at all. -/
theorem deliveries_commute {m : Memory} (reach : m.Reachable) (unarmed : m.armed = none)
    {orders again : List PartnerCredit} (consistent : Consistent orders)
    (gives : ∀ c ∈ orders, c.Gives)
    (fits : Tables.RowsFit (m.tables.content.deliverAll orders).users)
    (members : ∀ c, c ∈ again ↔ c ∈ orders) :
    let first := m.after (deliveries orders)
    let second := m.after (deliveries again)
    second.tables.content = first.tables.content
      ∧ (∀ user source, (second.tables.incomesOf user source).length
          = (first.tables.incomesOf user source).length)
      ∧ (∀ e, (m.log (deliveries again)).countP (credits e)
            = (m.log (deliveries orders)).countP (credits e)
          ∧ (m.log (deliveries orders)).countP (credits e) ≤ 1)
      ∧ (m.disabled = false → first.disabled = false ∧ second.disabled = false
          ∧ first.tables.content = m.tables.content.deliverAll orders) := by
  intro first second
  have partner (c : PartnerCredit) (hc : c ∈ again) : c.source.IsPartner :=
    consistent.partner c ((members c).1 hc)
  have most (e : PartnerEvent) (run : List Command) : (m.log run).countP (credits e) ≤ 1 := by
    refine (reach.countP_credits run).trans ?_
    split <;> decide
  have counted (same : second.tables.content = first.tables.content) (user : Int)
      (source : Option IncomeSource) : (second.tables.incomesOf user source).length
        = (first.tables.incomesOf user source).length := by
    rw [Tables.length_incomesOf, Tables.length_incomesOf, same]
  cases off : m.disabled with
  | true =>
    have untouched : first = m := after_deliveries_of_disabled off consistent.partner
    have untouched' : second = m := after_deliveries_of_disabled off partner
    have same : second.tables.content = first.tables.content := by rw [untouched, untouched']
    refine ⟨same, counted same, fun e => ⟨?_, most e _⟩, fun on => nomatch on⟩
    -- a disabled store credits nothing
    have none (run : List Command) : (m.log run).countP (credits e) = 0 := by
      have most := reach.countP_credits (e := e) run
      rw [if_pos (.inr off)] at most
      exact Nat.le_zero.1 most
    rw [none, none]
  | false =>
    have total := Content.deliverAll_congr consistent members m.tables.content
    obtain ⟨on, ended⟩ := reach.after_deliveries off unarmed consistent.partner gives fits
    obtain ⟨on', ended'⟩ := reach.after_deliveries off unarmed partner
      (fun c hc => gives c ((members c).1 hc)) (total.symm ▸ fits)
    have same : second.tables.content = first.tables.content :=
      ended'.trans (total.trans ended.symm)
    refine ⟨same, counted same, fun e => ⟨?_, most e _⟩, fun _ => ⟨on, on', ended⟩⟩
    have known : e ∈ second.tables.events ↔ e ∈ first.tables.events := by
      rw [← Tables.mem_events_content, same, Tables.mem_events_content]
    rw [reach.countP_credits_eq on, reach.countP_credits_eq on', if_congr known rfl rfl]

/-- A referee, a referrer, a user who is its own referrer and a user whom nobody
knows, first one after the other and then backwards with repetitions. -/
theorem deliveries_commute_of_referrals :
    let register (email : String) (referrer : Option Int) : Command :=
      .request (.createUser ⟨email, "addr", referrer, 300⟩ ⟨0, 0⟩)
    let m := empty.after [register "a@x" none, register "b@x" (some 1), register "c@x" (some 3)]
    let credit (key : String) (user amount : Int) : PartnerCredit :=
      ⟨.offerwow, key, user, amount, 5, ⟨1, 0⟩⟩
    let orders := [credit "k" 2 50, credit "k" 1 20, credit "k" 3 30, credit "k" 7 10]
    let again := orders.reverse ++ orders
    (m.after (deliveries again)).tables.content = (m.after (deliveries orders)).tables.content
      ∧ (m.after (deliveries again)).tables.incomes
        ≠ (m.after (deliveries orders)).tables.incomes
      ∧ (m.log (deliveries again)).countP (credits ⟨.offerwow, "k", 2⟩) = 1
      ∧ (m.log (deliveries again)).countP (credits ⟨.offerwow, "k", 7⟩) = 0 := by
  intro register m credit orders again
  have reach : m.Reachable := Reachable.empty.after _
  have consistent : Consistent orders := ⟨by decide, by decide⟩
  have gives : ∀ c ∈ orders, c.Gives := by
    have nonneg : ∀ c ∈ orders, 0 ≤ c.amount ∧ 0 ≤ c.referrerAmount := by decide
    exact fun c hc => ⟨(nonneg c hc).1, (nonneg c hc).2⟩
  have fits : Tables.RowsFit (m.tables.content.deliverAll orders).users := by
    have held : ∀ u ∈ (m.tables.content.deliverAll orders).users.values,
        Amount.Fits u.balance ∧ Amount.Fits u.totalIncome ∧ Amount.Fits u.totalFromReferees
          ∧ Amount.Fits u.totalToReferrer := by decide
    intro k u hu
    obtain ⟨balance, income, fromReferees, toReferrer⟩ :=
      held u (Table.mem_values_iff.2 ⟨k, hu⟩)
    exact ⟨balance, income, fromReferees, toReferrer⟩
  have members (c : PartnerCredit) : c ∈ again ↔ c ∈ orders := by
    rw [List.mem_append, List.mem_reverse, or_self]
  have commute := deliveries_commute reach rfl consistent gives fits members
  exact ⟨commute.1, by decide, (commute.2.2.1 _).1.trans (by decide),
    (commute.2.2.1 _).1.trans (by decide)⟩

end Memory

end RewardLedger
