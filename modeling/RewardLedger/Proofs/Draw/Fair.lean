import Mathlib.Algebra.BigOperators.Fin
import Mathlib.Analysis.SpecificLimits.Basic
import RewardLedger.Proofs.Draw.Exact

/-!
# Draws are fair

A draw picks a band and then an amount of it, each time by a sample below a bound. Which
words are used for a sample, and for which one, is a matter of counting: the products of all
words with the bound are its multiples, a window of them of the size of a word gives one
sample, and the rejection leaves every window with the same number of multiples, a power of
two that depends on the bound alone (`Words.card_sample`).

So every sample has equally many words (`Words.card_accepted`), and, as a word that is
rejected only hands over to the next one, equally many tapes of words of any length
(`Words.card_settled_mul`). The samples below the sum of the weights are the places on the
line of weights, of which each band has as many as its weight
(`RewardBand.card_indexAt?`); the samples below the width of a band are its amounts.
-/

namespace RewardLedger

open Finset Filter Topology

namespace Words

/-! ## How many words give a sample -/

/-- A product lies in a window if its quotient does and its remainder is small enough. -/
theorem mem_window_iff {size room s product : Nat} (fits : room ≤ size) :
    product % size < room ∧ product / size = s
      ↔ s * size ≤ product ∧ product < s * size + room := by
  constructor
  · rintro ⟨low, rfl⟩
    have whole := Nat.div_add_mod' product size
    omega
  · rintro ⟨low, high⟩
    obtain ⟨step, rfl⟩ := Nat.exists_eq_add_of_le low
    have inside : step < size := by omega
    rw [Nat.add_comm, Nat.add_mul_mod_self_right, Nat.mod_eq_of_lt inside,
      Nat.add_mul_div_right _ _ (Nat.zero_lt_of_lt inside), Nat.div_eq_of_lt inside]
    omega

section Count

variable {bound : Nat} (positive : 0 < bound) (small : bound < modulus)

include positive

/-- A word is accepted if its product lies in the lower end of a window. -/
theorem accepts_iff {word : Nat} :
    Accepts bound word ↔ word * bound % modulus < bound * 2 ^ leadingZeros bound := by
  have some : 0 < bound * 2 ^ leadingZeros bound := Nat.mul_pos positive (Nat.two_pow_pos _)
  unfold Accepts zone
  omega

/-- The first multiple of a bound that is not below a number. -/
theorem ceil_le_iff {n v : Nat} : (n + bound - 1) / bound ≤ v ↔ n ≤ v * bound := by
  rw [Nat.div_le_iff_le_mul_add_pred positive, Nat.mul_comm]
  omega

theorem lt_ceil_iff {n v : Nat} : v < (n + bound - 1) / bound ↔ v * bound < n := by
  rw [← Nat.not_le, ceil_le_iff positive, Nat.not_le]

include small

/-- **The words that give a sample stand side by side**: their products are the multiples of
the bound in a window that has room for a power of two of them. -/
theorem filter_sample {s : Nat} (below : s < bound) :
    (range modulus).filter (fun word => Accepts bound word ∧ scale bound word = s)
      = Ico ((s * modulus + bound - 1) / bound)
        ((s * modulus + bound - 1) / bound + 2 ^ leadingZeros bound) := by
  have fits := shifted_le positive small
  have last : (s * modulus + bound - 1) / bound + 2 ^ leadingZeros bound
      = (s * modulus + bound * 2 ^ leadingZeros bound + bound - 1) / bound := by
    rw [← Nat.add_mul_div_left _ _ positive]
    congr 1
    omega
  ext word
  rw [mem_filter, mem_range, mem_Ico, accepts_iff positive, scale, mem_window_iff fits, last,
    ceil_le_iff positive, lt_ceil_iff positive]
  refine ⟨fun h => h.2, fun h => ⟨?_, h⟩⟩
  -- a product in a window below the last one is that of a word
  have top : s * modulus + modulus ≤ modulus * bound := by
    rw [← Nat.succ_mul, Nat.mul_comm modulus]
    exact Nat.mul_le_mul_right _ below
  exact Nat.lt_of_mul_lt_mul_right (Nat.lt_of_lt_of_le h.2 (by omega))

/-- **Every sample has the same number of words.** -/
theorem card_sample {s : Nat} (below : s < bound) :
    ((range modulus).filter fun word => Accepts bound word ∧ scale bound word = s).card
      = 2 ^ leadingZeros bound := by
  rw [filter_sample positive small below, Nat.card_Ico, Nat.add_sub_cancel_left]

/-- **The words whose sample satisfies a condition** are as many for each of the samples that
do. -/
theorem card_accepted (p : Nat → Prop) [DecidablePred p] :
    ((range modulus).filter fun word => Accepts bound word ∧ p (scale bound word)).card
      = ((range bound).filter p).card * 2 ^ leadingZeros bound := by
  have bySample : ∀ word ∈ (range modulus).filter fun word =>
      Accepts bound word ∧ p (scale bound word), scale bound word ∈ (range bound).filter p := by
    intro word hword
    obtain ⟨hword, -, satisfied⟩ := mem_filter.1 hword
    exact mem_filter.2 ⟨mem_range.2 (scale_lt positive (mem_range.1 hword)), satisfied⟩
  rw [card_eq_sum_card_fiberwise bySample, ← smul_eq_mul, ← sum_const]
  refine sum_congr rfl fun s hs => ?_
  obtain ⟨below, satisfied⟩ := mem_filter.1 hs
  rw [← card_sample positive small (mem_range.1 below), filter_filter]
  refine congrArg card (filter_congr fun word _ => ?_)
  constructor
  · rintro ⟨⟨accepted, -⟩, same⟩
    exact ⟨accepted, same⟩
  · rintro ⟨accepted, rfl⟩
    exact ⟨⟨accepted, satisfied⟩, rfl⟩

end Count

end Words

/-! ## Bands along the line of weights -/

namespace RewardBand

/-- The number of the band in which a place on the line of all weights falls. -/
def indexAt? : List RewardBand → Nat → Option Nat
  | [], _ => none
  | b :: rest, place =>
    if place < b.share then some 0 else (indexAt? rest (place - b.share)).map (· + 1)

/-- The band that is picked has that number. -/
theorem atPlace?_eq (bands : List RewardBand) (place : Nat) :
    atPlace? bands place = (indexAt? bands place).bind (bands[·]?) := by
  induction bands generalizing place with
  | nil => rfl
  | cons b rest ih =>
    rw [atPlace?, indexAt?]
    split
    · rfl
    · rw [ih]
      cases indexAt? rest (place - b.share) <;> rfl

/-- **A place falls in a band** if it lies behind the weights of the bands before it and
not behind its own. -/
theorem indexAt?_eq_some_iff {bands : List RewardBand} {place k : Nat} {b : RewardBand}
    (hk : bands[k]? = some b) : indexAt? bands place = some k
      ↔ totalShare (bands.take k) ≤ place ∧ place < totalShare (bands.take k) + b.share := by
  induction bands generalizing place k with
  | nil => cases hk
  | cons c rest ih =>
    rw [indexAt?]
    cases k with
    | zero =>
      cases hk
      simp [totalShare]
    | succ k =>
      have onwards := @ih (place - c.share) k hk
      have total : totalShare ((c :: rest).take (k + 1)) = c.share + totalShare (rest.take k) := by
        simp [totalShare]
      rw [total]
      by_cases inside : place < c.share
      · simp [inside]
        omega
      · rw [if_neg inside, Option.map_eq_some_iff]
        simp only [Nat.add_right_cancel_iff, exists_eq_right]
        rw [onwards]
        omega

/-- **A band has as many places as its weight.** -/
theorem card_indexAt? {bands : List RewardBand} {k : Nat} {b : RewardBand}
    (hk : bands[k]? = some b) :
    ((range (totalShare bands)).filter fun place => indexAt? bands place = some k).card
      = b.share := by
  have line : totalShare bands
      = totalShare (bands.take k) + b.share + totalShare (bands.drop (k + 1)) := by
    obtain ⟨hlt, hget⟩ := List.getElem?_eq_some_iff.1 hk
    conv_lhs => rw [← List.take_append_drop k bands, ← List.getElem_cons_drop hlt, hget]
    simp [totalShare, Nat.add_assoc]
  have own : (range (totalShare bands)).filter (fun place => indexAt? bands place = some k)
      = Ico (totalShare (bands.take k)) (totalShare (bands.take k) + b.share) := by
    ext place
    rw [mem_filter, mem_range, mem_Ico, indexAt?_eq_some_iff hk]
    omega
  rw [own, Nat.card_Ico, Nat.add_sub_cancel_left]

end RewardBand

/-! ## Tapes of words -/

namespace Words

/-- The words of a tape, and zeros behind them. -/
def ofTape {m : Nat} (tape : Fin m → Fin modulus) : Words :=
  .ofList (List.ofFn fun i => (tape i : Nat))

/-- The tapes of a length on which a sample is found, and satisfies a condition. -/
def settled (bound m : Nat) (p : Nat → Prop) [DecidablePred p] : Finset (Fin m → Fin modulus) :=
  univ.filter fun tape => (ofTape tape).Enough ((ofTape tape).sample bound).2
    ∧ p ((ofTape tape).sample bound).1

/-- How many words were taken before does not matter to a sample. -/
theorem sampleFrom_succ (bound : Nat) (words : List UInt64) (taken : Nat) :
    sampleFrom bound words (taken + 1) = ((sampleFrom bound words taken).1,
      ⟨(sampleFrom bound words taken).2.ahead, (sampleFrom bound words taken).2.taken + 1⟩) := by
  induction words generalizing taken with
  | nil => rfl
  | cons word rest ih =>
    rw [sampleFrom, sampleFrom]
    split
    · rfl
    · exact ih (taken + 1)

/-- On no word at all no sample is found. -/
theorem settled_zero (bound : Nat) (p : Nat → Prop) [DecidablePred p] : settled bound 0 p = ∅ :=
  filter_eq_empty_iff.2 fun _ _ found => absurd found.1 (Nat.not_succ_le_self 0)

section Tape

variable {bound m : Nat} (p : Nat → Prop) [DecidablePred p]

/-- **The first word of a tape decides**, if it is accepted; otherwise the rest of the tape
does. -/
theorem cons_mem_settled (word : Fin modulus) (tape : Fin m → Fin modulus) :
    (Fin.cons word tape : Fin (m + 1) → Fin modulus) ∈ settled bound (m + 1) p
      ↔ if Accepts bound word then p (scale bound word) else tape ∈ settled bound m p := by
  have words : ofTape (Fin.cons word tape : Fin (m + 1) → Fin modulus)
      = ⟨UInt64.ofNat word :: (ofTape tape).ahead, 0⟩ := by
    unfold ofTape ofList
    rw [List.ofFn_succ, List.map_cons]
    rfl
  have value : (UInt64.ofNat word).toNat = word := UInt64.toNat_ofNat_of_lt' word.isLt
  have length : (ofTape tape).ahead.length = m := by simp [ofTape, ofList]
  have start : (ofTape tape).taken = 0 := rfl
  unfold settled Enough sample
  rw [mem_filter, mem_filter, words]
  dsimp only
  rw [sampleFrom, value]
  by_cases accepted : Accepts bound word
  · simp [accepted]
  · rw [if_neg accepted, if_neg accepted, sampleFrom_succ, List.length_cons, length, start]
    simp

variable {p} in
/-- On a tape on which a sample is found, it does not matter what comes behind the tape. -/
theorem sample_of_mem_settled {tape : Fin m → Fin modulus} (found : tape ∈ settled bound m p)
    (more : List UInt64) : ((ofTape tape).followedBy more).sample bound
      = (((ofTape tape).sample bound).1, ((ofTape tape).sample bound).2.followedBy more) :=
  sample_followedBy (mem_filter.1 found).2.1 more

variable (positive : 0 < bound) (small : bound < modulus)

include positive small

/-- The words that are rejected. -/
theorem card_rejected :
    ((range modulus).filter fun word => ¬ Accepts bound word).card
      = modulus - bound * 2 ^ leadingZeros bound := by
  have accepted := card_accepted positive small fun _ => True
  have whole := card_filter_add_card_filter_not (s := range modulus) (Accepts bound ·)
  simp only [and_true, filter_true, card_range] at accepted whole
  omega

/-- The tapes of one more word, counted by their first word. -/
theorem card_settled_succ (m : Nat) :
    (settled bound (m + 1) p).card
      = ((range bound).filter p).card * 2 ^ leadingZeros bound * modulus ^ m
        + (modulus - bound * 2 ^ leadingZeros bound) * (settled bound m p).card := by
  have byFirst (word : Fin modulus) :
      (∑ tape : Fin m → Fin modulus, if Fin.cons word tape ∈ settled bound (m + 1) p then 1 else 0)
        = if Accepts bound word then if p (scale bound word) then modulus ^ m else 0
          else (settled bound m p).card := by
    simp only [cons_mem_settled]
    by_cases accepted : Accepts bound word
    · by_cases satisfied : p (scale bound word) <;> simp [accepted, satisfied]
    · simp [accepted]
  calc (settled bound (m + 1) p).card
      = ∑ tape : Fin (m + 1) → Fin modulus, if tape ∈ settled bound (m + 1) p then 1 else 0 := by
        simp
    _ = ∑ word : Fin modulus, if Accepts bound word
          then if p (scale bound word) then modulus ^ m else 0
          else (settled bound m p).card := by
        rw [← (Fin.consEquiv fun _ => Fin modulus).sum_comp, Fintype.sum_prod_type]
        exact sum_congr rfl fun word _ => byFirst word
    _ = ∑ word ∈ range modulus, if Accepts bound word
          then if p (scale bound word) then modulus ^ m else 0
          else (settled bound m p).card :=
        Fin.sum_univ_eq_sum_range (fun word => if Accepts bound word
          then if p (scale bound word) then modulus ^ m else 0
          else (settled bound m p).card) modulus
    _ = _ := by
        rw [sum_ite, ← sum_filter, filter_filter, sum_const, sum_const, smul_eq_mul, smul_eq_mul,
          card_accepted positive small, card_rejected positive small]

/-- **Among the tapes on which a sample is found**, every sample is found on as many, whatever
their length. -/
theorem card_settled_mul (m : Nat) :
    (settled bound m p).card * bound
      = ((range bound).filter p).card * (settled bound m fun _ => True).card := by
  induction m with
  | zero => simp [settled_zero]
  | succ m ih =>
    rw [card_settled_succ p positive small, card_settled_succ _ positive small, filter_true,
      card_range]
    generalize modulus - bound * 2 ^ leadingZeros bound = rejected
    generalize 2 ^ leadingZeros bound = room
    calc _ = ((range bound).filter p).card * room * modulus ^ m * bound
          + rejected * ((settled bound m p).card * bound) := by ring
      _ = _ := by
        rw [ih]
        ring

/-- The tapes on which no sample is found are those all of whose words are rejected. -/
theorem card_settled_add (m : Nat) :
    (settled bound m fun _ => True).card + (modulus - bound * 2 ^ leadingZeros bound) ^ m
      = modulus ^ m := by
  induction m with
  | zero => simp [settled_zero]
  | succ m ih =>
    have whole := Nat.sub_add_cancel (shifted_le positive small)
    rw [card_settled_succ _ positive small, filter_true, card_range, pow_succ, pow_succ]
    generalize modulus - bound * 2 ^ leadingZeros bound = rejected at *
    generalize bound * 2 ^ leadingZeros bound = accepted at *
    calc _ = accepted * modulus ^ m
          + rejected * ((settled bound m fun _ => True).card + rejected ^ m) := by ring
      _ = (rejected + accepted) * modulus ^ m := by
        rw [ih]
        ring
      _ = _ := by rw [whole, Nat.mul_comm]

/-- **How likely a sample is** that satisfies a condition: of all tapes, the part on which one
is found tends to the part of the samples that satisfy it. -/
theorem tendsto_settled :
    Tendsto (fun m => ((settled bound m p).card : ℝ) / (modulus : ℝ) ^ m) atTop
      (𝓝 (((range bound).filter p).card / bound)) := by
  let rejected := modulus - bound * 2 ^ leadingZeros bound
  have size : (0 : ℝ) < modulus := Nat.cast_pos.2 (Nat.two_pow_pos 64)
  have some : (0 : ℝ) < bound := Nat.cast_pos.2 positive
  have fewer : rejected < modulus :=
    Nat.sub_lt (Nat.two_pow_pos 64) (Nat.mul_pos positive (Nat.two_pow_pos _))
  have vanishes : Tendsto (fun m : ℕ => ((rejected : ℝ) / modulus) ^ m) atTop (𝓝 0) :=
    tendsto_pow_atTop_nhds_zero_of_lt_one (by positivity)
      ((div_lt_one size).2 (Nat.cast_lt.2 fewer))
  have part (m : ℕ) : ((settled bound m p).card : ℝ) / (modulus : ℝ) ^ m
      = ((range bound).filter p).card / bound * (1 - ((rejected : ℝ) / modulus) ^ m) := by
    have found : ((settled bound m p).card : ℝ) * bound
        = ((range bound).filter p).card * (settled bound m fun _ => True).card := by
      exact_mod_cast card_settled_mul p positive small m
    have rest : ((settled bound m fun _ => True).card : ℝ) + (rejected : ℝ) ^ m
        = (modulus : ℝ) ^ m := by
      exact_mod_cast card_settled_add positive small m
    have missed : 1 - ((rejected : ℝ) / modulus) ^ m
        = (settled bound m fun _ => True).card / (modulus : ℝ) ^ m := by
      rw [div_pow, eq_div_iff (by positivity), sub_mul, div_mul_cancel₀ _ (by positivity), one_mul,
        ← rest, add_sub_cancel_right]
    rw [missed, div_mul_div_comm, div_eq_div_iff (by positivity) (by positivity), ← found]
    ring
  simp only [part]
  simpa using (vanishes.const_sub 1).const_mul (((range bound).filter p).card / bound : ℝ)

end Tape

/-- A word that is rejected is passed over. -/
theorem sample_cons_of_rejected {bound : Nat} {word : UInt64}
    (rejected : ¬ Accepts bound word.toNat) (rest : List UInt64) (taken : Nat) :
    sample ⟨word :: rest, taken⟩ bound = sample ⟨rest, taken + 1⟩ bound :=
  if_neg rejected

/-- A word that is accepted gives the sample. -/
theorem sample_cons_of_accepted {bound : Nat} {word : UInt64}
    (accepted : Accepts bound word.toNat) (rest : List UInt64) (taken : Nat) :
    sample ⟨word :: rest, taken⟩ bound = (scale bound word.toNat, ⟨rest, taken + 1⟩) :=
  if_pos accepted

end Words

/-! ## The amounts of a band -/

namespace RewardBand

open Words

/-- How many amounts there are in a band. -/
def width (b : RewardBand) : Nat := (b.max - b.min).toNat

/-- The amount that a random word gives in a band, if it is accepted. -/
def amount? (b : RewardBand) (word : Nat) : Option Int :=
  if Accepts b.width word then some (b.min + scale b.width word) else none

/-- The tapes of a length on which the band pays an amount. -/
def paying (b : RewardBand) (amount : Int) (m : Nat) : Finset (Fin m → Fin modulus) :=
  settled b.width m fun step => b.min + step = amount

/-- **A band pays evenly**: each of its amounts as often as any other. -/
structure PaysEvenly (b : RewardBand) : Prop where
  /-- A word that is rejected is passed over. -/
  rejected : ∀ (word : UInt64) (rest : List UInt64) (taken : Nat),
    ¬ Accepts b.width word.toNat → b.amount? word.toNat = none
      ∧ b.pay ⟨word :: rest, taken⟩ = b.pay ⟨rest, taken + 1⟩
  /-- A word that is accepted gives an amount of the band, and no further word is taken. -/
  accepted : ∀ (word : UInt64) (rest : List UInt64) (taken : Nat),
    Accepts b.width word.toNat → ∃ amount, b.amount? word.toNat = some amount
      ∧ b.min ≤ amount ∧ amount < b.max ∧ b.pay ⟨word :: rest, taken⟩ = (amount, ⟨rest, taken + 1⟩)
  /-- Every amount has the same number of words. -/
  even : ∀ amount, b.min ≤ amount → amount < b.max →
    ((range modulus).filter fun word => b.amount? word = some amount).card
      = 2 ^ leadingZeros b.width
  /-- On the tapes of an amount the band pays it, whatever comes behind them. -/
  pays : ∀ {amount m} {tape : Fin m → Fin modulus}, tape ∈ b.paying amount m →
    ∀ more, (b.pay ((ofTape tape).followedBy more)).1 = amount
  /-- Of the tapes of any length on which the band pays, every amount has the same part. -/
  part : ∀ amount, b.min ≤ amount → amount < b.max → ∀ m,
    (b.paying amount m).card * b.width = (settled b.width m fun _ => True).card
  /-- Of all tapes, this part is all there is in the limit. -/
  chance : ∀ amount, b.min ≤ amount → amount < b.max →
    Tendsto (fun m => ((b.paying amount m).card : ℝ) / (modulus : ℝ) ^ m) atTop
      (𝓝 (1 / ((b.max - b.min : Int) : ℝ)))

section Room

variable {b : RewardBand} (fits : b.Fits) (room : b.min < b.max)

include room

/-- A band with room pays a step from its minimum. -/
theorem pay_of_room (words : Words) :
    b.pay words = (b.min + (words.sample b.width).1, (words.sample b.width).2) :=
  if_neg (Int.not_le_of_gt room)

theorem width_pos : 0 < b.width := by
  unfold width
  omega

/-- An amount of the band is one step from its minimum. -/
theorem card_step {amount : Int} (low : b.min ≤ amount) (high : amount < b.max) :
    ((range b.width).filter fun step : Nat => b.min + step = amount).card = 1 := by
  have single : (range b.width).filter (fun step : Nat => b.min + step = amount)
      = {(amount - b.min).toNat} := by
    ext step
    rw [mem_filter, mem_range, mem_singleton, width]
    omega
  rw [single, card_singleton]

include fits

theorem width_lt : b.width < modulus := by
  have ⟨_, _⟩ := fits.min
  have ⟨_, _⟩ := fits.max
  unfold Amount.least Amount.greatest width modulus at *
  omega

/-- **A band with room pays evenly.** -/
theorem paysEvenly : b.PaysEvenly := by
  have positive := width_pos room
  have small := width_lt fits room
  refine ⟨fun word rest taken no => ⟨if_neg no, ?_⟩, fun word rest taken yes => ?_,
    fun amount low high => ?_, fun {amount m tape} found more => ?_,
    fun amount low high m => ?_, fun amount low high => ?_⟩
  · rw [pay_of_room room, pay_of_room room, sample_cons_of_rejected no]
  · have below := scale_lt positive word.toNat_lt
    refine ⟨_, if_pos yes, by omega, ?_, ?_⟩
    · unfold width at below ⊢
      omega
    · rw [pay_of_room room, sample_cons_of_accepted yes]
  · have steps := card_accepted positive small fun step => b.min + step = amount
    rw [card_step room low high, Nat.one_mul] at steps
    rw [← steps]
    refine congrArg card (filter_congr fun word _ => ?_)
    unfold amount?
    by_cases yes : Accepts b.width word <;> simp [yes]
  · rw [pay_of_room room, sample_of_mem_settled found]
    exact (mem_filter.1 found).2.2
  · unfold paying
    rw [card_settled_mul _ positive small, card_step room low high, Nat.one_mul]
  · have limit := tendsto_settled (fun step => b.min + step = amount) positive small
    have whole : ((b.max - b.min : Int) : ℝ) = b.width := by
      rw [← Int.toNat_of_nonneg (show 0 ≤ b.max - b.min by omega)]
      exact Int.cast_natCast _
    rw [card_step room low high, Nat.cast_one] at limit
    rw [whole]
    exact limit

end Room

/-! ## Bands by their weights -/

/-- The number of the band that a random word selects, if it is accepted. -/
def selected? (bands : List RewardBand) (word : Nat) : Option Nat :=
  if Accepts (totalShare bands) word then indexAt? bands (scale (totalShare bands) word) else none

/-- The tapes of a length on which a draw picks the band of a number. -/
def picking (bands : List RewardBand) (k m : Nat) : Finset (Fin m → Fin modulus) :=
  settled (totalShare bands) m fun place => indexAt? bands place = some k

end RewardBand

open RewardBand Words

section Weights

variable {bands : List RewardBand} (positive : 0 < totalShare bands)
  (count : totalShare bands ≤ Amount.greatestCount)

include positive count

/-- A draw looks up the number of a band, which pays from the words that are left. -/
theorem drawReward_eq_pay_of_index (words : Words) : ∃ k b,
    indexAt? bands (words.sample (totalShare bands)).1 = some k ∧ bands[k]? = some b
      ∧ 0 < b.weight ∧ drawReward bands words
        = (.ok (b.pay (words.sample (totalShare bands)).2).1,
          (b.pay (words.sample (totalShare bands)).2).2) := by
  obtain ⟨b, picked, drawn⟩ := drawReward_eq_pay words positive count
  have numbered := picked
  rw [atPlace?_eq, Option.bind_eq_some_iff] at numbered
  obtain ⟨k, index, hk⟩ := numbered
  exact ⟨k, b, index, hk, weight_pos_of_atPlace? picked, drawn⟩

/-- A first word that is rejected is passed over. -/
theorem drawReward_cons_of_rejected {word : UInt64}
    (rejected : ¬ Accepts (totalShare bands) word.toNat) (rest : List UInt64) (taken : Nat) :
    drawReward bands ⟨word :: rest, taken⟩ = drawReward bands ⟨rest, taken + 1⟩ := by
  obtain ⟨k, b, index, hk, -, now⟩ :=
    drawReward_eq_pay_of_index positive count ⟨word :: rest, taken⟩
  obtain ⟨k', b', index', hk', -, later⟩ :=
    drawReward_eq_pay_of_index positive count ⟨rest, taken + 1⟩
  rw [sample_cons_of_rejected rejected] at index now
  cases index.symm.trans index'
  cases hk.symm.trans hk'
  rw [now, later]

/-- On a tape on which a band is picked, it pays from what is left of the tape. -/
theorem drawReward_of_mem_picking {k m : Nat} {tape : Fin m → Fin modulus}
    (found : tape ∈ picking bands k m) :
    ∃ (b : RewardBand) (left : Words), bands[k]? = some b ∧ ∀ more,
      drawReward bands ((ofTape tape).followedBy more)
        = (.ok (b.pay (left.followedBy more)).1, (b.pay (left.followedBy more)).2) := by
  have place := (mem_filter.1 found).2.2
  obtain ⟨k', b, index, hk, -, -⟩ := drawReward_eq_pay_of_index positive count (ofTape tape)
  cases place.symm.trans index
  refine ⟨b, ((ofTape tape).sample (totalShare bands)).2, hk, fun more => ?_⟩
  obtain ⟨k', b', index', hk', -, now⟩ :=
    drawReward_eq_pay_of_index positive count ((ofTape tape).followedBy more)
  rw [sample_of_mem_settled found] at index' now
  cases place.symm.trans index'
  cases hk.symm.trans hk'
  exact now

end Weights

/-- **A draw is fair**: it picks every band in proportion to its weight, and then every amount of
the band as often as any other. -/
structure DrawsFairly (bands : List RewardBand) : Prop where
  /-- So many of all words are accepted. -/
  accepting : ((range modulus).filter (Accepts (totalShare bands))).card
    = totalShare bands * 2 ^ leadingZeros (totalShare bands)
  /-- A first word that is rejected is passed over. -/
  rejected : ∀ (word : UInt64) (rest : List UInt64) (taken : Nat),
    ¬ Accepts (totalShare bands) word.toNat → selected? bands word.toNat = none
      ∧ drawReward bands ⟨word :: rest, taken⟩ = drawReward bands ⟨rest, taken + 1⟩
  /-- A first word that is accepted selects a band, which pays from the words behind it. -/
  accepted : ∀ (word : UInt64) (rest : List UInt64) (taken : Nat),
    Accepts (totalShare bands) word.toNat → ∃ k b, selected? bands word.toNat = some k
      ∧ bands[k]? = some b ∧ 0 < b.weight
      ∧ drawReward bands ⟨word :: rest, taken⟩
        = (.ok (b.pay ⟨rest, taken + 1⟩).1, (b.pay ⟨rest, taken + 1⟩).2)
  /-- A band that has no room pays its minimum and takes no word; any other pays evenly. -/
  pays : ∀ b ∈ bands, 0 < b.weight → if b.min < b.max then b.PaysEvenly
    else ∀ words, b.pay words = (b.min, words)
  /-- Every band has words in proportion to its weight. -/
  proportional : ∀ {k} {b : RewardBand}, bands[k]? = some b → 0 < b.weight →
    ((range modulus).filter fun word => selected? bands word = some k).card
      = b.weight.toNat * 2 ^ leadingZeros (totalShare bands)
  /-- On the tapes of a band a draw picks it, whatever comes behind them, and it pays from what
  is left. -/
  picks : ∀ {k m} {tape : Fin m → Fin modulus}, tape ∈ picking bands k m →
    ∃ (b : RewardBand) (left : Words), bands[k]? = some b ∧ ∀ more,
      drawReward bands ((ofTape tape).followedBy more)
        = (.ok (b.pay (left.followedBy more)).1, (b.pay (left.followedBy more)).2)
  /-- Of the tapes of any length on which a band is picked, a band has the part of its weight. -/
  part : ∀ {k} {b : RewardBand}, bands[k]? = some b → 0 < b.weight → ∀ m,
    (picking bands k m).card * totalShare bands
      = b.weight.toNat * (settled (totalShare bands) m fun _ => True).card
  /-- Of all tapes, this part is all there is in the limit. -/
  chance : ∀ {k} {b : RewardBand}, bands[k]? = some b → 0 < b.weight →
    Tendsto (fun m => ((picking bands k m).card : ℝ) / (modulus : ℝ) ^ m) atTop
      (𝓝 (b.weight / positiveWeight bands))

/-- **Draws are fair.** For bands of amounts whose weights come to a positive count, whatever
they are: of all words that may come first, each band is selected by as many as its weight
says, and of those that come next each amount of the band is given by equally many; so that a
band is picked with the probability of its weight, and each of its amounts with that of
its width. -/
theorem draws_fairly {bands : List RewardBand} (fits : ∀ b ∈ bands, b.Fits)
    (positive : 0 < positiveWeight bands) (count : positiveWeight bands ≤ Amount.greatestCount) :
    DrawsFairly bands := by
  have total := totalShare_eq bands
  have positive : 0 < totalShare bands := by omega
  have count : totalShare bands ≤ Amount.greatestCount := by omega
  have small : totalShare bands < modulus := by
    unfold Amount.greatestCount at count
    unfold modulus
    omega
  have places {k} {b : RewardBand} (hk : bands[k]? = some b) :
      ((range (totalShare bands)).filter fun place => indexAt? bands place = some k).card
        = b.weight.toNat := card_indexAt? hk
  refine ⟨?_, fun word rest taken no =>
      ⟨if_neg no, drawReward_cons_of_rejected positive count no rest taken⟩,
    fun word rest taken yes => ?_, fun b hb _ => ?_, fun {k b} hk _ => ?_,
    fun found => drawReward_of_mem_picking positive count found, fun {k b} hk _ m => ?_,
    fun {k b} hk _ => ?_⟩
  · have all := card_accepted positive small fun _ => True
    simpa only [and_true, filter_true, card_range] using all
  · obtain ⟨k, b, index, hk, weight, now⟩ :=
      drawReward_eq_pay_of_index positive count ⟨word :: rest, taken⟩
    rw [sample_cons_of_accepted yes] at index now
    exact ⟨k, b, (if_pos yes).trans index, hk, weight, now⟩
  · split
    · next room => exact paysEvenly (fits b hb) room
    · next noRoom => exact fun words => if_pos (Int.not_lt.1 noRoom)
  · rw [← places hk, ← card_accepted positive small]
    refine congrArg card (filter_congr fun word _ => ?_)
    unfold selected?
    by_cases yes : Accepts (totalShare bands) word <;> simp [yes]
  · unfold picking
    rw [card_settled_mul _ positive small, places hk]
  · have limit := tendsto_settled (fun place => indexAt? bands place = some k) positive small
    have weight : ((b.weight : Int) : ℝ) = b.weight.toNat := by
      rw [← Int.toNat_of_nonneg (show 0 ≤ b.weight by omega)]
      exact Int.cast_natCast _
    rw [places hk] at limit
    rw [← total, weight, Int.cast_natCast]
    exact limit

/-- Three bands of positive weights, one of them without room, and one without weight. -/
theorem draws_fairly_by_three_weights :
    let bands : List RewardBand := [⟨.low, 0, 10, 1⟩, ⟨.low, 1, 2, -3⟩, ⟨.low, 5, 5, 3⟩,
      ⟨.low, Amount.least, Amount.greatest, 2⟩]
    positiveWeight bands = 6 ∧ selected? bands 9223372036854775808 = some 2
      ∧ DrawsFairly bands := by
  intro bands
  refine ⟨by decide, by decide +kernel, draws_fairly (fun b hb => ?_) (by decide) (by decide)⟩
  simp only [bands, List.mem_cons, List.not_mem_nil, or_false] at hb
  rcases hb with rfl | rfl | rfl | rfl <;> exact ⟨by decide, by decide, by decide⟩

end RewardLedger
