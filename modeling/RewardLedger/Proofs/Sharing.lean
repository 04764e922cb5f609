import RewardLedger.Proofs.Publishing
import RewardLedger.Proofs.Rounding

/-!
# How much a referrer is given

The share of a referrer is a part of the amount, rounded down, and the part is limited to
the whole. One would think that it never comes to more than the amount. But it is a part of
a double, and an amount of more than fifty-three bits may have none: it is rounded first,
and can be rounded up. At a rate of one the referrer is then given more than the user.

So the share stays within the amount **as it is rounded** (`Amount.rounded`), and there is a
rate at which it comes to that (`referrerShare_one`). That makes no difference up to two to
the power of fifty-three, nor for any amount that is not rounded up; beyond, the share may
exceed the amount by as much as the rounding does, which is less than one part in two to the
power of fifty-three.
-/

namespace RewardLedger

/-- **The amount as a double**, cut to the greatest amount. Of what is not positive there is
nothing to share. -/
def Amount.rounded (amount : Int) : Int :=
  min (Dyadic.round (.ofNat amount.toNat)).floor greatest

/-- **The referrer's part of an amount**: it takes nothing away, and is no more than the
amount as it is rounded. -/
def Amount.IsPart (amount share : Int) : Prop := 0 ≤ share ∧ share ≤ rounded amount

theorem Amount.rounded_nonneg (amount : Int) : 0 ≤ rounded amount :=
  le_min (Int.natCast_nonneg _) (by decide)

/-- **An amount is rounded up by little**, and not at all below two to the power of
fifty-three. -/
theorem Amount.rounded_le (amount : Int) :
    rounded amount ≤ max amount 0 + max amount 0 / 2 ^ 53 := by
  refine le_trans (min_le_left _ _) ?_
  rw [← Int.ofNat_toNat amount]
  have most := Dyadic.value_round_ofNat_le amount.toNat
  have floor : (Dyadic.round (.ofNat amount.toNat)).floor
      ≤ ⌊(amount.toNat + amount.toNat / 2 ^ 53 : ℚ)⌋₊ := by
    rw [Dyadic.floor_eq]
    exact Nat.floor_le_floor most
  have parts : ⌊(amount.toNat + amount.toNat / 2 ^ 53 : ℚ)⌋₊
      = amount.toNat + amount.toNat / 2 ^ 53 := by
    have cast : (amount.toNat / 2 ^ 53 : ℚ) = amount.toNat / (2 ^ 53 : Nat) := by norm_num
    rw [add_comm, Nat.floor_add_natCast (by positivity), cast, Nat.floor_div_natCast,
      Nat.floor_natCast, Nat.add_comm]
  rw [parts] at floor
  exact_mod_cast floor

namespace Double

/-- A rate is limited to the whole. -/
theorem value_clampUnit_le (rate : Double) : rate.clampUnit.value ≤ 1 := by
  unfold clampUnit
  split
  · simp [Dyadic.value]
  · dsimp only
    split
    · simp
    · next within =>
      rw [Dyadic.value_eq_fraction, div_le_one₀ (by exact_mod_cast Dyadic.fraction_pos _)]
      exact_mod_cast Nat.le_of_not_lt within

/-- One is the whole. -/
theorem value_clampUnit_one : one.clampUnit.value = 1 := by
  have same : one.clampUnit = ⟨2 ^ 52, -52⟩ := by decide
  rw [same, Dyadic.value]
  norm_num

end Double

/-- **The share is within the amount as it is rounded**, whatever the rate. -/
theorem isPart_referrerShare (amount : Int) (rate : Double) :
    Amount.IsPart amount (referrerShare amount rate) := by
  refine ⟨referrerShare_nonneg amount rate, ?_⟩
  unfold referrerShare
  split
  · exact Amount.rounded_nonneg amount
  · refine min_le_min_right _ ?_
    let base := Dyadic.round (.ofNat amount.toNat)
    have product : (base.mul rate.clampUnit).value ≤ base.value := by
      rw [Dyadic.value_mul]
      exact mul_le_of_le_one_right base.value_nonneg rate.value_clampUnit_le
    have rounded := Dyadic.value_round_le (Dyadic.holdable_round _) product
    show ((base.mul rate.clampUnit).round.floor : Int) ≤ base.floor
    rw [Dyadic.floor_eq, Dyadic.floor_eq]
    exact_mod_cast Nat.floor_le_floor rounded

/-- **At a rate of one it is all of that.** -/
theorem referrerShare_one (amount : Int) : referrerShare amount .one = Amount.rounded amount := by
  by_cases positive : amount ≤ 0
  · rw [referrerShare_of_nonpos positive, Amount.rounded, Int.toNat_of_nonpos positive]
    decide
  · let base := Dyadic.round (.ofNat amount.toNat)
    have product : (base.mul Double.one.clampUnit).value = base.value := by
      rw [Dyadic.value_mul, Double.value_clampUnit_one, mul_one]
    have rounded := Dyadic.value_round_of_eq (Dyadic.holdable_round _) product
    have finite : Double.one.IsFinite := by decide
    rw [referrerShare, if_neg (by simp [positive, finite])]
    show min ((base.mul Double.one.clampUnit).round.floor : Int) _ = min (base.floor : Int) _
    rw [Dyadic.floor_eq, Dyadic.floor_eq, rounded]

/-- **No rate gives a referrer more than the amount** exactly if the amount is not rounded
up. -/
theorem referrerShare_le_iff (amount : Int) :
    (∀ rate, referrerShare amount rate ≤ max amount 0) ↔ Amount.rounded amount ≤ max amount 0 :=
  ⟨fun within => referrerShare_one amount ▸ within .one,
    fun within rate => (isPart_referrerShare amount rate).2.trans within⟩

/-- Nothing is part of every amount. -/
theorem Amount.isPart_zero (amount : Int) : IsPart amount 0 := ⟨Int.le_refl 0, rounded_nonneg _⟩

/-! ## What the ledger offers -/

/-- **What a request offers to a referrer** is part of the amount. -/
def StoreOp.OffersPart : StoreOp → Prop
  | creditReward c => Amount.IsPart c.amount c.referrerAmount
  | creditPartner c => Amount.IsPart c.amount c.referrerAmount
  | _ => True

/-- **A call that credits offers part of the amount**, to whatever store. -/
theorem Crediting.Call.offersPart {α : Type} {p : Program Effect Effect.Reply α} (call : Call p) :
    p.Performs (Effect.AsksOnly StoreOp.OffersPart) := by
  cases call with
  | draw id now =>
    refine performs_draw_sharing trivial (fun amount share => ?_) (fun _ => trivial)
      (fun _ => trivial) fun _ => trivial
    rintro (rfl | ⟨rate, rfl⟩)
    · exact Amount.isPart_zero amount
    · exact isPart_referrerShare amount rate
  | creditPartner source key user amount =>
    exact performs_creditPartner fun _ rate _ => isPart_referrerShare amount rate

/-- The share that is recorded is what was offered, or nothing. -/
theorem Tables.isPart_incomeOf {amount offered : Int} (part : Amount.IsPart amount offered)
    (t : Tables) (source : IncomeSource) (u : User) (now : Instant) :
    Amount.IsPart amount (t.incomeOf source u amount offered now).referrerAmount := by
  show Amount.IsPart amount (if (t.referrerOf? u).isSome then offered else 0)
  split
  · exact part
  · exact Amount.isPart_zero amount

/-- **A turn credited an income**: the store granted it. -/
inductive Turn.Credited (t : Turn) : Receipt → Prop
  | reward {c : RewardCredit} {receipt : Receipt} (asked : t.effect = .store (.creditReward c))
    (granted : (t.found.store.answer (.creditReward c)).1 = .ok receipt) : Credited t receipt
  | partner {c : PartnerCredit} {receipt : Receipt}
    (asked : t.effect = .store (.creditPartner c))
    (granted : (t.found.store.answer (.creditPartner c)).1 = .ok receipt) : Credited t receipt

/-- **An income was shared**: the referrer's share is part of its amount, and it was recorded
and posted to the rows just so. -/
structure Turn.Shared (t : Turn) (i : Income) : Prop where
  part : Amount.IsPart i.amount i.referrerAmount
  recorded : t.left.store.tables.incomes = t.found.store.tables.incomes ++ [i]
  posted : t.left.store.tables.users = t.found.store.tables.users.map (·.post i)

/-- **What a turn credits is shared** if it offers part of the amount. -/
theorem Turn.Credited.shared {t : Turn} {receipt : Receipt} (credited : t.Credited receipt)
    (reach : t.found.store.Reachable) (offers : t.effect.AsksOnly StoreOp.OffersPart) :
    t.Shared receipt.income := by
  obtain ⟨task, found, e⟩ := t
  cases credited with
  | @reward c _ asked granted =>
    cases asked
    obtain ⟨-, u, -, -, rfl, booked⟩ := reach.commits
      (show (StoreOp.creditReward c).IsWrite from trivial) granted
    exact ⟨Tables.isPart_incomeOf offers .., congrArg Tables.incomes booked,
      congrArg Tables.users booked⟩
  | @partner c _ asked granted =>
    cases asked
    obtain ⟨-, -, -, u, -, rfl, booked⟩ := reach.commits
      (show (StoreOp.creditPartner c).IsWrite from trivial) granted
    exact ⟨Tables.isPart_incomeOf offers .., congrArg Tables.incomes booked,
      congrArg Tables.users booked⟩

/-- **Calls that credit take turns** on any service, with anything else around them. -/
def Setting.sharing : Setting where
  Initial s := s.store.Reachable
  Begins p := Crediting.Call p
  Around s s' := s.Disturbed s'
  reachable_of_initial := fun _ reach => reach
  disturbed_of_around := fun _ _ aside => aside

namespace History

variable {h : History} (reach : h.Reachable .sharing)

include reach

/-- **A referrer is given part of the amount as it is rounded.** For every amount and every
rate the share is not negative and at most the amount as a double, which exceeds the amount
by less than one part in two to the power of fifty-three and not at all below that power; and
a rate at which the share exceeds the amount exists exactly if the amount is rounded up. No
call that credits offers any other share to any store, and whatever a history credits is
recorded and paid with such a share. -/
theorem shares_stay_near :
    (∀ amount rate, Amount.IsPart amount (referrerShare amount rate))
      ∧ (∀ amount, Amount.rounded amount ≤ max amount 0 + max amount 0 / 2 ^ 53)
      ∧ (∀ amount, (∀ rate, referrerShare amount rate ≤ max amount 0)
        ↔ Amount.rounded amount ≤ max amount 0)
      ∧ (∀ {α : Type} {p : Program Effect Effect.Reply α}, Crediting.Call p →
        p.Performs (Effect.AsksOnly StoreOp.OffersPart))
      ∧ ∀ t ∈ h.turns, ∀ receipt, t.Credited receipt → t.Shared receipt.income := by
  refine ⟨isPart_referrerShare, Amount.rounded_le, referrerShare_le_iff,
    Crediting.Call.offersPart, fun t ht receipt credited => ?_⟩
  exact credited.shared (reach.found ht) (reach.performs Crediting.Call.offersPart ht)

omit reach

/-- At a rate of one, a partner's event is credited whose amount is rounded up: the referrer
is paid one more than the user. -/
theorem shares_stay_near_of_large_amount :
    let receipt : Receipt := ⟨⟨1, 2, some 1, .offertoro, 9007199254740995, 9007199254740996,
      ⟨0, 0⟩⟩, "addr", true⟩
    ∃ (h : History) (t : Turn), h.Reachable .sharing ∧ t ∈ h.turns ∧ t.Credited receipt
      ∧ t.Shared receipt.income := by
  intro receipt
  let m := Memory.empty.after
    [.request (.createUser ⟨"a@x", "addr", none, 300⟩ ⟨0, 0⟩),
      .request (.createUser ⟨"b@x", "addr", some 1, 300⟩ ⟨0, 0⟩)]
  let s : Service Memory := Service.new m 10 ⟨0, 0⟩
  have started := Reachable.new (S := .sharing)
    (s := { s with cache := s.cache.setPolicy ⟨0, .one, ⟨0, 0⟩⟩ })
    (Memory.Reachable.empty.after _)
  have credited := (started.step
    (.start (.creditPartner .offertoro "k" 2 9007199254740995))).run (n := 0) rfl
  -- the third turn is that of the store
  obtain ⟨h, reach, t, ht, granted⟩ : ∃ h : History, h.Reachable .sharing
      ∧ ∃ t ∈ h.turns, t.Credited receipt :=
    ⟨_, credited, _, List.mem_of_getElem? (i := 2) rfl, .partner rfl (by decide +kernel)⟩
  obtain ⟨-, -, -, -, shared⟩ := shares_stay_near reach
  exact ⟨h, t, reach, ht, granted, shared t ht receipt granted⟩

end History

/-- **A referrer can be given more than the user**: an amount may be rounded up before it is
shared. -/
theorem share_exceeds_amount :
    ¬ ∀ (amount : Int) (rate : Double), Amount.Fits amount →
      0 ≤ referrerShare amount rate ∧ referrerShare amount rate ≤ max amount 0 := by
  intro within
  have most := (within 9007199254740995 .one (by decide)).2
  revert most
  decide +kernel

end RewardLedger
