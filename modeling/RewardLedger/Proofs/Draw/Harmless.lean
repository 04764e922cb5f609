import RewardLedger.Proofs.Draw.Fair

/-!
# Bands that take nothing away

A band may have any ends, so what is drawn from a list of bands may be negative. A list is
**harmless** if none of its bands that can be picked starts below zero. That is not only
enough for every draw from it to be of an amount that is not negative, it is needed: each
place on the line of weights is the sample of some word, and a band gives its minimum when
the words have run out (`RewardBand.harmless_iff`).
-/

namespace RewardLedger

namespace Words

/-- **Every sample is that of some word.** -/
theorem exists_sample {bound s : Nat} (small : bound < modulus) (below : s < bound) :
    ∃ word : UInt64, Words.sample ⟨[word], 0⟩ bound = (s, ⟨[], 1⟩) := by
  have some := card_sample (Nat.zero_lt_of_lt below) small below
  obtain ⟨word, hword⟩ := Finset.card_pos.1 (some ▸ Nat.two_pow_pos _)
  obtain ⟨inRange, accepted, rfl⟩ := Finset.mem_filter.1 hword
  have same : (UInt64.ofNat word).toNat = word :=
    UInt64.toNat_ofNat_of_lt (Finset.mem_range.1 inRange)
  refine ⟨.ofNat word, ?_⟩
  rw [sample, sampleFrom, same, if_pos accepted]

end Words

namespace RewardBand

/-- **A list of bands is harmless**: no band that can be picked starts below zero. -/
def Harmless (bands : List RewardBand) : Prop := ∀ b ∈ bands, 0 < b.weight → 0 ≤ b.min

instance (bands : List RewardBand) : Decidable (Harmless bands) :=
  inferInstanceAs (Decidable (∀ b ∈ bands, 0 < b.weight → 0 ≤ b.min))

variable {bands : List RewardBand}

/-- What is drawn from a harmless list is not negative. -/
theorem Harmless.nonneg (harmless : Harmless bands) {words : Words} {amount : Int}
    (drawn : (drawReward bands words).1 = .ok amount) : 0 ≤ amount := by
  obtain ⟨b, hb, weight, gives⟩ := gives_of_drawReward drawn
  have least := harmless b hb weight
  unfold Gives at gives
  split at gives <;> omega

/-- A band that has a weight lies somewhere on the line of all weights. -/
theorem exists_atPlace? {b : RewardBand} (hb : b ∈ bands) (weight : 0 < b.weight) :
    ∃ place < totalShare bands, atPlace? bands place = some b := by
  induction bands with
  | nil => cases hb
  | cons c rest ih =>
    have total : totalShare (c :: rest) = c.share + totalShare rest := List.sum_cons
    obtain rfl | hb := List.mem_cons.1 hb
    · have room : 0 < b.share := Int.pos_iff_toNat_pos.1 weight
      exact ⟨0, by omega, if_pos room⟩
    · obtain ⟨place, below, picked⟩ := ih hb
      refine ⟨c.share + place, by omega, ?_⟩
      rw [atPlace?, if_neg (Nat.not_lt.2 (Nat.le_add_right ..)), Nat.add_sub_cancel_left]
      exact picked

/-- Without words a band pays its minimum. -/
theorem pay_of_noWords (b : RewardBand) (taken : Nat) : (b.pay ⟨[], taken⟩).1 = b.min := by
  unfold pay
  split
  · rfl
  · show b.min + (Words.scale _ 0 : Nat) = b.min
    simp [Words.scale]

/-- **Whether a list is harmless is whether draws from it are**, for all random words, if
its weights come to a count. -/
theorem harmless_iff (count : totalShare bands ≤ Amount.greatestCount) : Harmless bands
    ↔ ∀ words amount, (drawReward bands words).1 = .ok amount → 0 ≤ amount := by
  refine ⟨fun harmless words amount drawn => harmless.nonneg drawn, fun never b hb weight => ?_⟩
  obtain ⟨place, below, picked⟩ := exists_atPlace? hb weight
  obtain ⟨word, sampled⟩ := Words.exists_sample
    (Nat.lt_of_le_of_lt count (by decide : Amount.greatestCount < Words.modulus)) below
  obtain ⟨b', picked', drawn⟩ := drawReward_eq_pay ⟨[word], 0⟩ (Nat.zero_lt_of_lt below) count
  rw [sampled] at picked' drawn
  cases picked.symm.trans picked'
  rw [← b.pay_of_noWords 1]
  exact never ⟨[word], 0⟩ _ (congrArg Prod.fst drawn)

end RewardBand

end RewardLedger
