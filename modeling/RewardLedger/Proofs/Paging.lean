import RewardLedger.Proofs.Store.Run

/-!
# Lists that are read page by page

Nobody is given a whole list of a store. A client asks for a page, which is so many rows
after so many others, and for the next one until a page is empty. Whether it has seen every
row once by then depends on three things that are said in different places: what the list
holds, in which order, and where a page is cut from it.

A page is cut after the rows were chosen and put in order, so the pages of a list are the
list (`Tables.leafed_iff`). The order is not kept anywhere. It is the one in which the
identifiers were given out, because incomes are only added at the end and the rows of the
other tables stand under their identifiers.
-/

namespace RewardLedger

namespace Tables

section Page

variable {α : Type} (limit offset : Int) (items : List α)

/-- Negative numbers count as zero. -/
theorem page_max : page (max limit 0) (max offset 0) items = page limit offset items := by
  rw [page, page, ← Int.ofNat_toNat limit, ← Int.ofNat_toNat offset, Int.toNat_natCast,
    Int.toNat_natCast]

variable {limit offset items}

/-- A page and what is after it are what is after the rows that it skips. -/
theorem page_append_drop (hlimit : 0 ≤ limit) (hoffset : 0 ≤ offset) :
    page limit offset items ++ items.drop (offset + limit).toNat = items.drop offset.toNat := by
  rw [Int.toNat_add hoffset hlimit, ← List.drop_drop, page, List.take_append_drop]

/-- A page is empty exactly if there is nothing after the rows that it skips. -/
theorem page_eq_nil_iff (hlimit : 1 ≤ limit) :
    page limit offset items = [] ↔ items.drop offset.toNat = [] := by
  rw [page, List.take_eq_nil_iff]
  exact or_iff_right (by omega)

end Page

/-- **A list is leafed through** from an offset on: pages with one limit are asked for, each
where the one before has ended, until one is empty. The rows are those of all pages. -/
inductive Leafed {α : Type} (ask : Int → Outcome (List α)) (limit : Int) : Int → List α → Prop
  | done {offset : Int} (last : ask offset = .ok []) : Leafed ask limit offset []
  | turn {offset : Int} {page rest : List α} (next : ask offset = .ok page) (some : page ≠ [])
    (others : Leafed ask limit (offset + limit) rest) : Leafed ask limit offset (page ++ rest)

section Leafed

variable {α : Type} {ask : Int → Outcome (List α)} {limit : Int} {items : List α}
  (hlimit : 1 ≤ limit) (asked : ∀ offset, ask offset = .ok (page limit offset items))

include hlimit asked

/-- Whoever leafs through a list has read what there is from where it began. -/
theorem Leafed.eq_drop {offset : Int} {rows : List α} (leafed : Leafed ask limit offset rows)
    (hoffset : 0 ≤ offset) : rows = items.drop offset.toNat := by
  induction leafed with
  | done last =>
    rw [asked] at last
    exact ((page_eq_nil_iff hlimit).1 (Except.ok.inj last)).symm
  | turn next _ _ ih =>
    rw [asked] at next
    rw [ih (by omega), ← Except.ok.inj next, page_append_drop (by omega) hoffset]

/-- A list can be leafed through from anywhere. -/
theorem leafed_drop (offset : Int) (hoffset : 0 ≤ offset) :
    Leafed ask limit offset (items.drop offset.toNat) := by
  -- what is left to read gets less with every page
  induction left : (items.drop offset.toNat).length using Nat.strongRecOn generalizing offset with
  | ind n ih =>
    by_cases none : page limit offset items = []
    · rw [(page_eq_nil_iff hlimit).1 none]
      exact .done (none ▸ asked offset)
    · have more : items.drop offset.toNat ≠ [] := fun h => none ((page_eq_nil_iff hlimit).2 h)
      have shorter : (items.drop (offset + limit).toNat).length < n := by
        have some := List.length_pos_iff.2 more
        rw [← left, List.length_drop] at *
        rw [List.length_drop]
        omega
      have parted : page limit offset items ++ items.drop (offset + limit).toNat
          = items.drop offset.toNat := page_append_drop (by omega) hoffset
      rw [← parted]
      exact .turn (asked offset) none (ih _ shorter _ (by omega) rfl)

/-- **The pages of a list are the list**, whatever their limit. -/
theorem leafed_iff {rows : List α} : Leafed ask limit 0 rows ↔ rows = items := by
  constructor
  · exact fun leafed => leafed.eq_drop hlimit asked (Int.le_refl 0)
  · rintro rfl
    exact leafed_drop hlimit asked 0 (Int.le_refl 0)

end Leafed

/-- **Rows are given out by the page**: every request for a page is answered, whatever its
limit and offset, and whoever leafs through the pages has read exactly the rows that belong
to the list, each once, in order. -/
structure GivenByPage {α : Type} (ask : Int → Int → Outcome (List α))
    (Before : α → α → Prop) (Belongs : α → Prop) (rows : List α) : Prop where
  answered : ∀ limit offset,
    ask limit offset = .ok ((rows.drop offset.toNat).take limit.toNat)
  /-- Negative numbers count as zero. -/
  negative : ∀ limit offset, ask limit offset = ask (max limit 0) (max offset 0)
  leafed : ∀ limit, 1 ≤ limit → ∀ found, Leafed (ask limit) limit 0 found ↔ found = rows
  ordered : rows.Pairwise Before
  members : ∀ a, a ∈ rows ↔ Belongs a

theorem givenByPage {α : Type} {ask : Int → Int → Outcome (List α)} {Before : α → α → Prop}
    {Belongs : α → Prop} {rows : List α}
    (asked : ∀ limit offset, ask limit offset = .ok (page limit offset rows))
    (ordered : rows.Pairwise Before) (members : ∀ a, a ∈ rows ↔ Belongs a) :
    GivenByPage ask Before Belongs rows where
  answered := asked
  negative limit offset := by rw [asked, asked, page_max]
  leafed limit hlimit _ := leafed_iff hlimit (asked limit)
  ordered := ordered
  members := members

/-- **The oldest of a list**: in order, of the list, and as many as the limit allows; whatever
else belongs to the list is younger than all of them. -/
structure Oldest {α : Type} (id : α → Int) (Belongs : α → Prop) (limit : Int) (rows : List α) :
    Prop where
  ordered : rows.Pairwise fun a b => id a < id b
  belongs : ∀ a ∈ rows, Belongs a
  others : ∀ a, Belongs a →
    a ∈ rows ∨ (rows.length : Int) = max limit 0 ∧ ∀ b ∈ rows, id b < id a

/-- The first page of a list in order has the oldest. -/
theorem oldest_page {α : Type} {id : α → Int} {Belongs : α → Prop} {items : List α}
    (limit : Int) (ordered : items.Pairwise fun a b => id a < id b)
    (members : ∀ a, a ∈ items ↔ Belongs a) : Oldest id Belongs limit (page limit 0 items) := by
  have parted : page limit 0 items ++ items.drop limit.toNat = items :=
    List.take_append_drop limit.toNat items
  rw [← parted, List.pairwise_append] at ordered
  refine ⟨ordered.1, fun a ha => (members a).1 (List.mem_of_mem_take ha), fun a belongs => ?_⟩
  have there := (members a).2 belongs
  rw [← parted, List.mem_append] at there
  refine there.imp_right fun later => ⟨?_, fun b hb => ordered.2.2 b hb a later⟩
  have long := List.length_pos_of_mem later
  rw [List.length_drop] at long
  show ((items.take limit.toNat).length : Int) = _
  rw [List.length_take]
  omega

end Tables

/-- **A request for rows of a list**, or for their number. -/
def StoreOp.Lists : StoreOp → Prop
  | incomes .. | countIncomes .. | withdrawals .. | referees .. | withdrawalsByStatus .. => True
  | _ => False

namespace Memory

variable {m : Memory} (reach : m.Reachable) (on : m.disabled = false)

include reach on

/-- The incomes of a user, newest first. -/
theorem Reachable.givenByPage_incomes (user : Int) (source : Option IncomeSource) :
    Tables.GivenByPage (fun limit offset => (m.answer (.incomes user source limit offset)).1)
      (fun a b => b.id < a.id) (fun i => i ∈ m.tables.incomes ∧ Tables.Matches user source i)
      (m.tables.incomesOf user source).reverse := by
  refine Tables.givenByPage (fun limit offset => read_of_usable on fun t =>
    Tables.page limit offset (t.incomesOf user source).reverse) ?_ fun i => ?_
  · exact List.pairwise_reverse.2 ((reach.incomesNumbered on).ascend.filter _)
  · rw [List.mem_reverse, Tables.incomesOf, List.mem_filter, decide_eq_true_eq]

/-- The withdrawals of a user, newest first. -/
theorem Reachable.givenByPage_withdrawals (user : Int) :
    Tables.GivenByPage (fun limit offset => (m.answer (.withdrawals user limit offset)).1)
      (fun a b => b.id < a.id)
      (fun w => m.tables.withdrawals.get? w.id = some w ∧ w.user = user)
      (m.tables.withdrawalsOf user).reverse := by
  have keyed := (reach.wellFormed on).withdrawals_keyed
  refine Tables.givenByPage (fun limit offset => read_of_usable on fun t =>
    Tables.page limit offset (t.withdrawalsOf user).reverse) ?_ fun w => ?_
  · exact List.pairwise_reverse.2 ((Table.pairwise_values keyed).filter _)
  · rw [List.mem_reverse, Tables.withdrawalsOf, List.mem_filter, decide_eq_true_eq,
      Table.mem_values_iff_of_keyed keyed]

/-- The users who named a referrer, oldest first. -/
theorem Reachable.givenByPage_referees (referrer : Int) :
    Tables.GivenByPage (fun limit offset => (m.answer (.referees referrer limit offset)).1)
      (fun a b => a.id < b.id)
      (fun u => m.tables.users.get? u.id = some u ∧ u.referrer = some referrer)
      (m.tables.refereesOf referrer) := by
  have keyed := (reach.wellFormed on).users_keyed
  refine Tables.givenByPage (fun limit offset => read_of_usable on fun t =>
    Tables.page limit offset (t.refereesOf referrer)) ?_ fun u => ?_
  · exact (Table.pairwise_values keyed).filter _
  · rw [Tables.refereesOf, List.mem_filter, decide_eq_true_eq,
      Table.mem_values_iff_of_keyed keyed]

/-- The oldest withdrawals in a status. -/
theorem Reachable.oldest_withdrawalsByStatus (status : WithdrawalStatus) (limit : Int) :
    ∃ rows, (m.answer (.withdrawalsByStatus status limit)).1 = .ok rows
      ∧ Tables.Oldest Withdrawal.id
        (fun w => m.tables.withdrawals.get? w.id = some w ∧ w.status = status) limit rows := by
  have keyed := (reach.wellFormed on).withdrawals_keyed
  refine ⟨_, read_of_usable on fun t => Tables.page limit 0 (t.withdrawalsIn status),
    Tables.oldest_page limit ?_ fun w => ?_⟩
  · exact (Table.pairwise_values keyed).filter _
  · rw [Tables.withdrawalsIn, List.mem_filter, decide_eq_true_eq,
      Table.mem_values_iff_of_keyed keyed]

omit reach on in
/-- **What can be read of a store page by page.** -/
structure Paged (m : Memory) : Prop where
  /-- The rows of a list are as many as are counted. -/
  incomes : ∀ user source, ∃ rows,
    Tables.GivenByPage (fun limit offset => (m.answer (.incomes user source limit offset)).1)
        (fun a b => b.id < a.id)
        (fun i => i ∈ m.tables.incomes ∧ Tables.Matches user source i) rows
      ∧ (m.answer (.countIncomes user source)).1 = .ok rows.length
  withdrawals : ∀ user, ∃ rows,
    Tables.GivenByPage (fun limit offset => (m.answer (.withdrawals user limit offset)).1)
      (fun a b => b.id < a.id)
      (fun w => m.tables.withdrawals.get? w.id = some w ∧ w.user = user) rows
  referees : ∀ referrer, ∃ rows,
    Tables.GivenByPage (fun limit offset => (m.answer (.referees referrer limit offset)).1)
      (fun a b => a.id < b.id)
      (fun u => m.tables.users.get? u.id = some u ∧ u.referrer = some referrer) rows
  byStatus : ∀ status limit, ∃ rows, (m.answer (.withdrawalsByStatus status limit)).1 = .ok rows
    ∧ Tables.Oldest Withdrawal.id
      (fun w => m.tables.withdrawals.get? w.id = some w ∧ w.status = status) limit rows

omit on in
/-- **Pages partition a list.** In every reachable store that is usable, whoever leafs
through the incomes of a user, of one source or of all, has read each of them once, newest
first, and as many as are counted; so it is with the withdrawals of a user, and with those
who named a referrer, oldest first. The withdrawals in a status are the oldest there are.
Any limit and any offset is answered. A store that was disabled gives out no page. -/
theorem Reachable.pages_partition :
    (m.disabled = false → m.Paged)
      ∧ (m.disabled = true → ∀ op : StoreOp, op.Lists →
        (m.answer op).1 = .refuse disabledError) := by
  refine ⟨fun on => ?_, fun off op lists => ?_⟩
  · refine ⟨fun user source => ⟨_, reach.givenByPage_incomes on user source, ?_⟩,
      fun user => ⟨_, reach.givenByPage_withdrawals on user⟩,
      fun referrer => ⟨_, reach.givenByPage_referees on referrer⟩,
      reach.oldest_withdrawalsByStatus on⟩
    rw [List.length_reverse]
    exact read_of_usable on fun t => ((t.incomesOf user source).length : Int)
  · cases op with
    | incomes | countIncomes | withdrawals | referees | withdrawalsByStatus => exact if_pos off
    | _ => exact lists.elim

omit reach on

/-- Four incomes of one user with one of another in between, after one that was taken back.
Pages of three of them are read until one is empty, and so are the two of one partner. -/
theorem pages_partition_of_mixed_incomes :
    let credit (source : IncomeSource) (key : String) (user : Int) : Command :=
      .request (.creditPartner ⟨source, key, user, 50, 0, ⟨0, 0⟩⟩)
    let m := empty.after
      [.request (.createUser ⟨"a@x", "addr", none, 300⟩ ⟨0, 0⟩),
        .request (.createUser ⟨"b@x", "addr", none, 300⟩ ⟨0, 0⟩),
        credit .offertoro "k" 1, .arm .afterIncome, credit .kiwiwall "k" 1,
        credit .kiwiwall "k" 1, credit .kiwiwall "k" 2, credit .offertoro "l" 1,
        credit .kiwiwall "l" 1]
    let leaf (source : Option IncomeSource) (limit : Int) := Tables.Leafed
      (fun offset => (m.answer (.incomes 1 source limit offset)).1) limit 0
    (∃ rows, leaf none 3 rows ∧ rows.map Income.id = [5, 4, 2, 1])
      ∧ (∃ rows, leaf (some .kiwiwall) 1 rows ∧ rows.map Income.id = [5, 2])
      ∧ (m.answer (.countIncomes 1 none)).1 = .ok 4 := by
  intro credit m leaf
  have reach : m.Reachable := Reachable.empty.after _
  have paged : m.Paged := reach.pages_partition.1 (by decide +kernel)
  -- the rows of a list are those of its first page, if that can take them all
  have read (source : Option IncomeSource) (limit : Int) (hlimit : 1 ≤ limit) (ids : List Int)
      (first : (m.answer (.incomes 1 source 9 0)).1.toOption.map (·.map Income.id) = some ids)
      (short : ids.length < 9) : ∃ rows, leaf source limit rows ∧ rows.map Income.id = ids := by
    obtain ⟨rows, given, -⟩ := paged.incomes 1 source
    refine ⟨rows, (given.leafed limit hlimit rows).2 rfl, ?_⟩
    rw [given.answered 9 0] at first
    have cut : (rows.map Income.id).take 9 = ids := List.map_take.symm.trans (Option.some.inj first)
    rw [← cut, List.length_take] at short
    rw [← cut, List.take_of_length_le (by omega)]
  exact ⟨read none 3 (by decide) _ (by decide +kernel) (by decide),
    read (some .kiwiwall) 1 (by decide) _ (by decide +kernel) (by decide), by decide +kernel⟩

/-- In a store that was disabled by a credit nobody can leaf through the withdrawals of a
user, although there is one. -/
theorem pages_unread_when_disabled :
    ¬ ∀ m : Memory, m.Reachable → ∀ user limit : Int, 1 ≤ limit →
      ∃ rows, Tables.Leafed (fun offset => (m.answer (.withdrawals user limit offset)).1) limit 0
        rows ∧ ∀ w, w ∈ rows ↔ m.tables.withdrawals.get? w.id = some w ∧ w.user = user := by
  intro h
  have overflown := Reachable.empty.after
    [.request (.createUser ⟨"a@x", "addr", none, 300⟩ ⟨0, 0⟩),
      .request (.creditPartner ⟨.offertoro, "k", 1, 100, 0, ⟨0, 0⟩⟩),
      .request (.createWithdrawal ⟨1, "out", 40, ⟨0, 0⟩⟩),
      .request (.creditPartner ⟨.offertoro, "l", 1, Amount.greatest, 0, ⟨0, 0⟩⟩)]
  obtain ⟨rows, leafed, -⟩ := h _ overflown 1 10 (by decide)
  cases leafed with
  | done last => cases last
  | turn next => cases next

end Memory

end RewardLedger
