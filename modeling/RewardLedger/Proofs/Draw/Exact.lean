import Mathlib.Control.Monad.Basic
import RewardLedger.Draw

/-!
# A draw in machine words

A draw is computed with whole numbers of any size. Here it is computed once more as a
machine does, in words of a fixed width: the weights are added up one after another and
their sum has to be a count; the walk along the bands of positive weight takes one weight
after another from a remainder of one hundred and twenty-eight signed bits; and a sample
between two ends is made by arithmetic on words that wraps around.

For bands of amounts the two agree (`Machine.draw?_eq`), so nothing in a draw ever leaves
its width, up to bands from the least amount to the greatest and weights that come to the
greatest count. The reason is what the walk keeps: the remainder is the place that is left
of the line of weights, and never falls below zero before the walk is over. The
rest is said of `drawReward` itself: when it is refused, where the amount lies, and that
bands without weight do not matter.
-/

namespace RewardLedger

/-- **The numbers of a band are amounts.** -/
structure RewardBand.Fits (b : RewardBand) : Prop where
  min : Amount.Fits b.min
  max : Amount.Fits b.max
  weight : Amount.Fits b.weight

/-- The band has a weight, and may be picked. -/
def RewardBand.Counts (b : RewardBand) : Prop := 0 < b.weight

instance (b : RewardBand) : Decidable b.Counts := inferInstanceAs (Decidable (_ < _))

/-! ## Words of a fixed width -/

namespace Machine

/-- The sum of two counts, if it is a count. -/
def addCount? (a b : Nat) : Option Nat :=
  if a + b ≤ Amount.greatestCount then some (a + b) else none

/-- All weights together, added up one after another. -/
def totalShare? (bands : List RewardBand) : Option Nat :=
  bands.foldlM (fun total b => addCount? total b.share) 0

/-- The number has one hundred and twenty-eight signed bits. -/
def IsWide (n : Int) : Prop :=
  -170141183460469231731687303715884105728 ≤ n ∧ n ≤ 170141183460469231731687303715884105727

instance (n : Int) : Decidable (IsWide n) := inferInstanceAs (Decidable (_ ∧ _))

/-- The walk along the bands: the first one that makes the remainder negative, if there is
one. No result at all when the remainder leaves its width. -/
def walk? : List RewardBand → Int → Option (Option RewardBand)
  | [], _ => some none
  | b :: rest, remaining =>
    if ¬ IsWide (remaining - b.weight) then none
    else if remaining - b.weight < 0 then some (some b)
    else walk? rest (remaining - b.weight)

/-- What a random word gives in a range of words, if it is accepted. -/
def attempt? (low range word : BitVec 64) : Option (BitVec 64) :=
  let product := word.setWidth 128 * range.setWidth 128
  if product.setWidth 64 ≤ (range <<< range.clz) - 1 then
    some (low + (product >>> 64).setWidth 64)
  else none

/-- A sample in a range of words, from the first random word that is accepted. -/
def sampleFrom (low range : BitVec 64) : List UInt64 → Nat → BitVec 64 × Words
  | [], taken => ((attempt? low range 0).getD low, ⟨[], taken + 1⟩)
  | word :: rest, taken =>
    match attempt? low range word.toBitVec with
    | some sample => (sample, ⟨rest, taken + 1⟩)
    | none => sampleFrom low range rest (taken + 1)

/-- A sample from one word up to, but not including, another. -/
def sample (low high : BitVec 64) (words : Words) : BitVec 64 × Words :=
  sampleFrom low (high - low) words.ahead words.taken

/-- **A draw in machine words.** No result at all when a number leaves its width. -/
def draw? (bands : List RewardBand) (words : Words) : Option (Except Error Int × Words) :=
  match totalShare? bands with
  | none => some (.error (.config "reward band weights overflow"), words)
  | some total =>
    if total = 0 then
      some (.error (.config ("reward bands have no positive weight ("
        ++ Text.ofNat bands.length ++ " bands)")), words)
    else
      let (place, words) := sample 0#64 (BitVec.ofNat 64 total) words
      match walk? (bands.filter (·.Counts)) place.toNat with
      | none => none
      | some none => some (.error (.config "reward band walk ran past the last band"), words)
      | some (some band) =>
        if band.max ≤ band.min then some (.ok band.min, words)
        else
          let (amount, words) := sample (BitVec.ofInt 64 band.min) (BitVec.ofInt 64 band.max) words
          some (.ok amount.toInt, words)

end Machine

/-! ## Samples -/

namespace Words

/-- Moved up to the top bit, a bound of one word stays a word. -/
theorem shifted_le {bound : Nat} (positive : 0 < bound) (small : bound < modulus) :
    bound * 2 ^ leadingZeros bound ≤ modulus := by
  have top : bound < 2 ^ (bound.log2 + 1) := Nat.lt_log2_self
  have low : bound.log2 < 64 := (Nat.log2_lt (Nat.ne_of_gt positive)).2 small
  calc bound * 2 ^ leadingZeros bound
      ≤ 2 ^ (bound.log2 + 1) * 2 ^ leadingZeros bound := Nat.mul_le_mul_right _ (Nat.le_of_lt top)
    _ = modulus := by
      rw [← Nat.pow_add, leadingZeros, modulus]
      congr 1
      omega

end Words

namespace Machine

open Words

/-- The zero bits above the leading bit are counted alike. -/
theorem toNat_clz {range : BitVec 64} (positive : 0 < range.toNat) :
    range.clz.toNat = leadingZeros range.toNat := by
  have nonzero : range ≠ 0 := fun h => by
    rw [h] at positive
    exact Nat.lt_irrefl _ positive
  have below : range.clz.toNat < 64 := by
    have := BitVec.clz_lt_iff_ne_zero.2 nonzero
    exact this
  have least := BitVec.two_pow_sub_clz_le_toNat_of_ne_zero (by decide) nonzero
  have most : range.toNat < 2 ^ (64 - range.clz.toNat) := BitVec.toNat_lt_two_pow_sub_clz
  have log : range.toNat.log2 = 64 - 1 - range.clz.toNat := by
    refine (Nat.log2_eq_iff (Nat.ne_of_gt positive)).2 ⟨least, ?_⟩
    rwa [show 64 - 1 - range.clz.toNat + 1 = 64 - range.clz.toNat by omega]
  rw [leadingZeros, log]
  omega

/-- The greatest lower half of a product with which a word is used. -/
theorem toNat_zone {range : BitVec 64} (positive : 0 < range.toNat) :
    ((range <<< range.clz) - 1).toNat = zone range.toNat := by
  have fits := shifted_le positive range.isLt
  have some : 0 < range.toNat * 2 ^ leadingZeros range.toNat :=
    Nat.mul_pos positive (Nat.two_pow_pos _)
  have shifted : (range <<< range.clz).toNat = range.toNat * 2 ^ leadingZeros range.toNat
      ∨ range.toNat * 2 ^ leadingZeros range.toNat = modulus ∧ (range <<< range.clz).toNat = 0 := by
    rw [BitVec.shiftLeft_eq', BitVec.toNat_shiftLeft, toNat_clz positive, Nat.shiftLeft_eq]
    rcases Nat.lt_or_eq_of_le fits with less | whole
    · exact .inl (Nat.mod_eq_of_lt less)
    · exact .inr ⟨whole, by rw [whole]; rfl⟩
  rw [BitVec.toNat_sub]
  unfold zone
  have one : (1 : BitVec 64).toNat = 1 := rfl
  have size : modulus = 2 ^ 64 := rfl
  omega

/-- The two halves of a product of words. -/
theorem toNat_product (word range : BitVec 64) :
    (word.setWidth 128 * range.setWidth 128).toNat = word.toNat * range.toNat := by
  have small (x : BitVec 64) : x.toNat < 2 ^ 128 := Nat.lt_of_lt_of_le x.isLt (by decide)
  have fits : word.toNat * range.toNat < 2 ^ 128 :=
    calc word.toNat * range.toNat
        ≤ word.toNat * 2 ^ 64 := Nat.mul_le_mul_left _ (Nat.le_of_lt range.isLt)
      _ < 2 ^ 64 * 2 ^ 64 := Nat.mul_lt_mul_of_pos_right word.isLt (by decide)
      _ = 2 ^ 128 := by decide
  rw [BitVec.toNat_mul, BitVec.toNat_setWidth, BitVec.toNat_setWidth,
    Nat.mod_eq_of_lt (small word), Nat.mod_eq_of_lt (small range), Nat.mod_eq_of_lt fits]

/-- **A word is accepted, and scaled, as with whole numbers.** -/
theorem attempt?_eq {range : BitVec 64} (positive : 0 < range.toNat) (low word : BitVec 64) :
    attempt? low range word = if Accepts range.toNat word.toNat
      then some (low + BitVec.ofNat 64 (scale range.toNat word.toNat)) else none := by
  have lower : ((word.setWidth 128 * range.setWidth 128).setWidth 64).toNat
      = word.toNat * range.toNat % modulus := by
    rw [BitVec.toNat_setWidth, toNat_product]
    rfl
  have upper : ((word.setWidth 128 * range.setWidth 128) >>> 64).setWidth 64
      = BitVec.ofNat 64 (scale range.toNat word.toNat) := by
    apply BitVec.eq_of_toNat_eq
    rw [BitVec.toNat_setWidth, BitVec.toNat_ushiftRight, toNat_product, BitVec.toNat_ofNat,
      Nat.shiftRight_eq_div_pow]
    rfl
  unfold attempt?
  dsimp only
  rw [upper]
  have same : ((word.setWidth 128 * range.setWidth 128).setWidth 64 ≤ (range <<< range.clz) - 1)
      ↔ Accepts range.toNat word.toNat := by
    rw [BitVec.le_def, lower, toNat_zone positive]
    exact .rfl
  by_cases accepted : Accepts range.toNat word.toNat
  · rw [if_pos accepted, if_pos (same.2 accepted)]
  · rw [if_neg accepted, if_neg (mt same.1 accepted)]

/-- **A sample of words is a sample of numbers**, moved up by the lower end. -/
theorem sampleFrom_eq {range : BitVec 64} (positive : 0 < range.toNat) (low : BitVec 64)
    (words : List UInt64) (taken : Nat) :
    sampleFrom low range words taken
      = (low + BitVec.ofNat 64 (Words.sampleFrom range.toNat words taken).1,
        (Words.sampleFrom range.toNat words taken).2) := by
  induction words generalizing taken with
  | nil =>
    have zero : (0 : BitVec 64).toNat = 0 := rfl
    rw [sampleFrom, attempt?_eq positive, zero, if_pos (accepts_zero _)]
    rfl
  | cons word rest ih =>
    have same : word.toBitVec.toNat = word.toNat := rfl
    rw [sampleFrom, attempt?_eq positive, same, Words.sampleFrom]
    by_cases accepted : Accepts range.toNat word.toNat
    · rw [if_pos accepted, if_pos accepted]
    · rw [if_neg accepted, if_neg accepted]
      exact ih (taken + 1)

/-- A sample from one end to another is a sample below their distance. -/
theorem sample_eq {low high : BitVec 64} {bound : Nat} (distance : (high - low).toNat = bound)
    (positive : 0 < bound) (words : Words) :
    sample low high words
      = (low + BitVec.ofNat 64 (words.sample bound).1, (words.sample bound).2) := by
  subst distance
  exact sampleFrom_eq positive low words.ahead words.taken

/-! ## Weights -/

/-- Adding up one weight after another comes to the sum of all, or leaves the counts where
that does. -/
theorem totalShare?_eq (bands : List RewardBand) :
    totalShare? bands = if RewardBand.totalShare bands ≤ Amount.greatestCount
      then some (RewardBand.totalShare bands) else none := by
  have onwards (start : Nat) (count : start ≤ Amount.greatestCount) :
      bands.foldlM (fun total b => addCount? total b.share) start
        = if start + RewardBand.totalShare bands ≤ Amount.greatestCount
          then some (start + RewardBand.totalShare bands) else none := by
    induction bands generalizing start with
    | nil => exact (if_pos count).symm
    | cons b rest ih =>
      have sum : start + RewardBand.totalShare (b :: rest)
          = start + b.share + RewardBand.totalShare rest := by
        simp [RewardBand.totalShare, Nat.add_assoc]
      rw [List.foldlM_cons, sum, addCount?]
      by_cases next : start + b.share ≤ Amount.greatestCount
      · rw [if_pos next]
        exact ih _ next
      · rw [if_neg next, if_neg (by omega)]
        rfl
  have whole := onwards 0 (Nat.zero_le _)
  rwa [Nat.zero_add] at whole

/-- A count is a word. -/
theorem toNat_ofCount {n : Nat} (count : n ≤ Amount.greatestCount) :
    (BitVec.ofNat 64 n).toNat = n := by
  unfold Amount.greatestCount at count
  rw [BitVec.toNat_ofNat]
  exact Nat.mod_eq_of_lt (by omega)

/-! ## The walk -/

/-- **The walk picks the band in which the place falls.** The remainder is what is left
of the place, so it is never negative before the walk is over. -/
theorem walk?_eq {bands : List RewardBand} (fits : ∀ b ∈ bands, b.Fits) {place : Nat}
    (count : place ≤ Amount.greatestCount) :
    walk? (bands.filter (·.Counts)) place = some (RewardBand.atPlace? bands place) := by
  induction bands generalizing place with
  | nil => rfl
  | cons b rest ih =>
    have ⟨_, weight⟩ := (fits b List.mem_cons_self).weight
    have others := fun c hc => fits c (List.mem_cons_of_mem b hc)
    unfold Amount.greatestCount Amount.greatest at *
    rw [RewardBand.atPlace?]
    by_cases counts : b.Counts
    · have share : (b.share : Int) = b.weight :=
        Int.toNat_of_nonneg (Int.le_of_lt counts)
      have wide : IsWide (place - b.weight) := by
        unfold IsWide
        omega
      rw [List.filter_cons_of_pos (by simpa using counts), walk?, if_neg (not_not_intro wide)]
      by_cases inside : place < b.share
      · rw [if_pos inside, if_pos (by omega)]
      · rw [if_neg inside, if_neg (by omega)]
        have left : (place : Int) - b.weight = (place - b.share : Nat) := by omega
        rw [left]
        exact ih others (by omega)
    · have share : b.share = 0 := by
        unfold RewardBand.Counts at counts
        unfold RewardBand.share
        omega
      rw [List.filter_cons_of_neg (by simpa using counts), share, if_neg (Nat.not_lt_zero _),
        Nat.sub_zero]
      exact ih others count

/-! ## Amounts -/

section Amounts

variable {b : RewardBand} (fits : b.Fits)

include fits

/-- The width of a band that has room is a word. -/
theorem toNat_range (room : b.min < b.max) :
    (BitVec.ofInt 64 b.max - BitVec.ofInt 64 b.min).toNat = (b.max - b.min).toNat := by
  have ⟨_, _⟩ := fits.min
  have ⟨_, _⟩ := fits.max
  unfold Amount.least Amount.greatest at *
  rw [BitVec.toNat_sub, BitVec.toNat_ofInt, BitVec.toNat_ofInt]
  omega

/-- A step from the lower end of a band stays an amount as long as it stays in the band. -/
theorem toInt_step {step : Nat} (inside : b.min + step < b.max) :
    (BitVec.ofInt 64 b.min + BitVec.ofNat 64 step).toInt = b.min + step := by
  have ⟨_, _⟩ := fits.min
  have ⟨_, _⟩ := fits.max
  unfold Amount.least Amount.greatest at *
  rw [← BitVec.ofInt_natCast, ← BitVec.ofInt_add, BitVec.toInt_ofInt]
  exact Int.bmod_eq_of_le (by omega) (by omega)

end Amounts

/-- **Nothing in a draw leaves its width.** For bands of amounts, a draw in machine words
comes to what a draw with whole numbers comes to, and takes the same random words. -/
theorem draw?_eq {bands : List RewardBand} (fits : ∀ b ∈ bands, b.Fits) (words : Words) :
    draw? bands words = some (drawReward bands words) := by
  unfold draw? drawReward
  rw [totalShare?_eq]
  dsimp only
  by_cases exceeds : Amount.greatestCount < RewardBand.totalShare bands
  · rw [if_pos exceeds, if_neg (Nat.not_le_of_lt exceeds)]
  rw [if_neg exceeds, if_pos (Nat.le_of_not_lt exceeds)]
  dsimp only
  by_cases none : RewardBand.totalShare bands = 0
  · rw [if_pos none, if_pos none]
  rw [if_neg none, if_neg none]
  have positive := Nat.pos_of_ne_zero none
  have below := Words.sample_lt positive words
  have distance : (BitVec.ofNat 64 (RewardBand.totalShare bands) - 0#64).toNat
      = RewardBand.totalShare bands := by
    rw [BitVec.sub_zero]
    exact toNat_ofCount (by omega)
  rw [sample_eq distance positive]
  dsimp only
  generalize words.sample (RewardBand.totalShare bands) = drawn at below
  rw [BitVec.zero_add, toNat_ofCount (by omega), walk?_eq fits (by omega)]
  cases picked : RewardBand.atPlace? bands drawn.1 with
  | none => rfl
  | some band =>
    dsimp only
    by_cases noRoom : band.max ≤ band.min
    · rw [if_pos noRoom, if_pos noRoom]
    rw [if_neg noRoom, if_neg noRoom]
    have fits := fits band (RewardBand.mem_of_atPlace? picked)
    have room : 0 < (band.max - band.min).toNat := by omega
    have inside := Words.sample_lt room drawn.2
    rw [sample_eq (toNat_range fits (by omega)) room]
    dsimp only
    rw [toInt_step fits (by omega)]

end Machine

/-! ## Words that are not taken -/

namespace Words

/-- The same supply with more words before the zeros. -/
def followedBy (w : Words) (more : List UInt64) : Words := ⟨w.ahead ++ more, w.taken⟩

/-- **The words that were given were enough** to come from one supply to another: none of
the zeros behind them was taken. -/
def Enough (w w' : Words) : Prop := w'.taken ≤ w.taken + w.ahead.length

instance (w w' : Words) : Decidable (Enough w w') := inferInstanceAs (Decidable (_ ≤ _))

section Sample

variable (bound : Nat) (words : List UInt64) (taken : Nat)

/-- A sample takes a word. -/
theorem lt_taken_sampleFrom : taken < (sampleFrom bound words taken).2.taken := by
  induction words generalizing taken with
  | nil => exact Nat.lt_succ_self taken
  | cons word rest ih =>
    unfold sampleFrom
    split
    · exact Nat.lt_succ_self taken
    · exact Nat.lt_trans (Nat.lt_succ_self taken) (ih (taken + 1))

/-- Every word that was given is taken or left. -/
theorem length_le_sampleFrom :
    taken + words.length
      ≤ (sampleFrom bound words taken).2.taken + (sampleFrom bound words taken).2.ahead.length := by
  induction words generalizing taken with
  | nil => exact Nat.le_succ taken
  | cons word rest ih =>
    unfold sampleFrom
    rw [List.length_cons]
    split
    · dsimp only
      omega
    · have := ih (taken + 1)
      omega

/-- A sample does not depend on what comes after the words that it takes. -/
theorem sampleFrom_append (more : List UInt64)
    (enough : (sampleFrom bound words taken).2.taken ≤ taken + words.length) :
    sampleFrom bound (words ++ more) taken
      = ((sampleFrom bound words taken).1, (sampleFrom bound words taken).2.followedBy more) := by
  induction words generalizing taken with
  | nil => exact absurd enough (Nat.not_succ_le_self taken)
  | cons word rest ih =>
    rw [List.cons_append, sampleFrom]
    by_cases accepted : Accepts bound word.toNat
    · rw [if_pos accepted, sampleFrom, if_pos accepted]
      rfl
    · rw [sampleFrom, if_neg accepted, List.length_cons] at enough
      rw [if_neg accepted, sampleFrom, if_neg accepted]
      exact ih (taken + 1) (by omega)

end Sample

theorem sample_followedBy {w : Words} {bound : Nat} (enough : w.Enough (w.sample bound).2)
    (more : List UInt64) :
    (w.followedBy more).sample bound = ((w.sample bound).1, (w.sample bound).2.followedBy more) :=
  sampleFrom_append bound w.ahead w.taken more enough

end Words

/-! ## Bands without weight -/

namespace RewardBand

/-- The weights of all bands that count. -/
def positiveWeight (bands : List RewardBand) : Int :=
  ((bands.filter (·.Counts)).map (·.weight)).sum

variable (bands : List RewardBand)

theorem share_of_not_counts {b : RewardBand} (idle : ¬ b.Counts) : b.share = 0 := by
  unfold Counts at idle
  unfold share
  omega

/-- Negative weights do not lower the sum. -/
theorem totalShare_eq : (totalShare bands : Int) = positiveWeight bands := by
  induction bands with
  | nil => rfl
  | cons b rest ih =>
    unfold totalShare positiveWeight at *
    rw [List.map_cons, List.sum_cons, Int.natCast_add, ih]
    by_cases counts : b.Counts
    · rw [List.filter_cons_of_pos (by simpa using counts), List.map_cons, List.sum_cons, share,
        Int.toNat_of_nonneg (Int.le_of_lt counts)]
    · rw [List.filter_cons_of_neg (by simpa using counts), share_of_not_counts counts]
      exact Int.zero_add _

/-- Bands without weight do not take any place on the line. -/
theorem totalShare_filter : totalShare (bands.filter (·.Counts)) = totalShare bands := by
  have twice : (bands.filter (·.Counts)).filter (·.Counts) = bands.filter (·.Counts) := by
    rw [List.filter_filter]
    simp
  refine Int.ofNat_inj.1 ?_
  rw [totalShare_eq, totalShare_eq, positiveWeight, twice]
  rfl

/-- Every place falls in the same band without them. -/
theorem atPlace?_filter (place : Nat) :
    atPlace? (bands.filter (·.Counts)) place = atPlace? bands place := by
  induction bands generalizing place with
  | nil => rfl
  | cons b rest ih =>
    by_cases counts : b.Counts
    · rw [List.filter_cons_of_pos (by simpa using counts), atPlace?, atPlace?, ih]
    · rw [List.filter_cons_of_neg (by simpa using counts), atPlace?, share_of_not_counts counts,
        if_neg (Nat.not_lt_zero _), ih, Nat.sub_zero]

/-- **What a band pays** once it is picked, and the words that are left. -/
def pay (b : RewardBand) (words : Words) : Int × Words :=
  if b.max ≤ b.min then (b.min, words)
  else (b.min + (words.sample (b.max - b.min).toNat).1, (words.sample (b.max - b.min).toNat).2)

/-- What a band pays lies in it. -/
theorem gives_pay (b : RewardBand) (words : Words) : b.Gives (b.pay words).1 := by
  unfold pay Gives
  by_cases noRoom : b.max ≤ b.min
  · rw [if_pos noRoom, if_pos noRoom]
  · have below := Words.sample_lt (show 0 < (b.max - b.min).toNat by omega) words
    rw [if_neg noRoom, if_neg noRoom]
    dsimp only
    omega

/-- With room that is a place between its ends, without it is the minimum. -/
theorem place_pay (b : RewardBand) (words : Words) :
    b.min ≤ (b.pay words).1 ∧ (b.pay words).1 < b.max
      ∨ b.max ≤ b.min ∧ (b.pay words).1 = b.min := by
  have given := b.gives_pay words
  unfold Gives at given
  split at given
  · next noRoom => exact .inr ⟨noRoom, given⟩
  · exact .inl given

variable {b : RewardBand} {words : Words}

/-- A band takes no word back. -/
theorem taken_le_pay : words.taken ≤ (b.pay words).2.taken := by
  unfold pay
  split
  · exact Nat.le_refl _
  · exact Nat.le_of_lt (Words.lt_taken_sampleFrom _ words.ahead words.taken)

theorem pay_followedBy (enough : words.Enough (b.pay words).2) (more : List UInt64) :
    b.pay (words.followedBy more) = ((b.pay words).1, (b.pay words).2.followedBy more) := by
  unfold pay at *
  by_cases noRoom : b.max ≤ b.min
  · rw [if_pos noRoom, if_pos noRoom]
  · rw [if_neg noRoom] at enough
    rw [if_neg noRoom, if_neg noRoom, Words.sample_followedBy enough]

end RewardBand

/-! ## Draws -/

section Draw

variable {bands : List RewardBand} (words : Words)

/-- A draw is refused when the weights come to more than a count. -/
theorem drawReward_of_overflow
    (exceeds : Amount.greatestCount < RewardBand.totalShare bands) :
    drawReward bands words = (.error (.config "reward band weights overflow"), words) :=
  if_pos exceeds

/-- A draw is refused when no band has a weight. -/
theorem drawReward_of_weightless (none : RewardBand.totalShare bands = 0) :
    drawReward bands words = (.error (.config ("reward bands have no positive weight ("
      ++ Text.ofNat bands.length ++ " bands)")), words) := by
  unfold drawReward
  dsimp only
  rw [none, if_neg (by decide), if_pos rfl]

/-- **Any other draw picks a band, which pays.** -/
theorem drawReward_eq_pay (positive : 0 < RewardBand.totalShare bands)
    (count : RewardBand.totalShare bands ≤ Amount.greatestCount) :
    ∃ b, RewardBand.atPlace? bands (words.sample (RewardBand.totalShare bands)).1 = some b
      ∧ drawReward bands words
        = (.ok (b.pay (words.sample (RewardBand.totalShare bands)).2).1,
          (b.pay (words.sample (RewardBand.totalShare bands)).2).2) := by
  obtain ⟨b, picked⟩ := Option.isSome_iff_exists.1
    (RewardBand.atPlace?_isSome (Words.sample_lt positive words))
  refine ⟨b, picked, ?_⟩
  unfold drawReward RewardBand.pay
  dsimp only
  rw [if_neg (Nat.not_lt_of_le count), if_neg (Nat.ne_of_gt positive), picked]
  dsimp only
  split <;> rfl

variable {words} in
/-- **A draw does not depend on what comes after the words that it takes.** -/
theorem drawReward_followedBy (enough : words.Enough (drawReward bands words).2)
    (more : List UInt64) :
    drawReward bands (words.followedBy more)
      = ((drawReward bands words).1, (drawReward bands words).2.followedBy more) := by
  by_cases exceeds : Amount.greatestCount < RewardBand.totalShare bands
  · rw [drawReward_of_overflow _ exceeds, drawReward_of_overflow _ exceeds]
  by_cases none : RewardBand.totalShare bands = 0
  · rw [drawReward_of_weightless _ none, drawReward_of_weightless _ none]
  have positive := Nat.pos_of_ne_zero none
  have count := Nat.le_of_not_lt exceeds
  obtain ⟨b, picked, drawn⟩ := drawReward_eq_pay words positive count
  obtain ⟨b', picked', drawn'⟩ := drawReward_eq_pay (words.followedBy more) positive count
  rw [drawn] at enough
  -- the place took its words from those that were given, and so did the step
  have later : (words.sample (RewardBand.totalShare bands)).2.taken
      ≤ (b.pay (words.sample (RewardBand.totalShare bands)).2).2.taken := RewardBand.taken_le_pay
  have kept := Words.length_le_sampleFrom (RewardBand.totalShare bands) words.ahead words.taken
  have first : words.Enough (words.sample (RewardBand.totalShare bands)).2 :=
    Nat.le_trans later enough
  have second : Words.Enough (words.sample (RewardBand.totalShare bands)).2
      (b.pay (words.sample (RewardBand.totalShare bands)).2).2 := Nat.le_trans enough kept
  rw [Words.sample_followedBy first] at picked' drawn'
  cases picked.symm.trans picked'
  rw [drawn', drawn, RewardBand.pay_followedBy second]

/-- Only the bands that count matter to a draw that is not refused. -/
theorem drawReward_congr {others : List RewardBand}
    (same : others.filter (·.Counts) = bands.filter (·.Counts)) :
    (drawReward others words).2 = (drawReward bands words).2
      ∧ ∀ amount, (drawReward others words).1 = .ok amount
        ↔ (drawReward bands words).1 = .ok amount := by
  have total : RewardBand.totalShare others = RewardBand.totalShare bands := by
    rw [← RewardBand.totalShare_filter, same, RewardBand.totalShare_filter]
  by_cases exceeds : Amount.greatestCount < RewardBand.totalShare bands
  · rw [drawReward_of_overflow _ exceeds, drawReward_of_overflow _ (total ▸ exceeds)]
    exact ⟨rfl, fun _ => .rfl⟩
  by_cases none : RewardBand.totalShare bands = 0
  · rw [drawReward_of_weightless _ none, drawReward_of_weightless _ (total ▸ none)]
    exact ⟨rfl, fun _ => ⟨nofun, nofun⟩⟩
  have positive := Nat.pos_of_ne_zero none
  have count := Nat.le_of_not_lt exceeds
  obtain ⟨b, picked, drawn⟩ := drawReward_eq_pay words positive count
  obtain ⟨b', picked', drawn'⟩ := drawReward_eq_pay words (total ▸ positive) (total ▸ count)
  rw [total, ← RewardBand.atPlace?_filter, same, RewardBand.atPlace?_filter] at picked'
  rw [total] at drawn'
  cases picked.symm.trans picked'
  rw [drawn, drawn']
  exact ⟨rfl, fun _ => .rfl⟩

/-- **A draw that is not refused** grants what a band of positive weight pays. -/
theorem drawReward_grants (positive : 0 < RewardBand.totalShare bands)
    (count : RewardBand.totalShare bands ≤ Amount.greatestCount) :
    ∃ b ∈ bands, 0 < b.weight
      ∧ ∃ left, drawReward bands words = (.ok (b.pay left).1, (b.pay left).2) := by
  obtain ⟨b, picked, drawn⟩ := drawReward_eq_pay words positive count
  exact ⟨b, RewardBand.mem_of_atPlace? picked, RewardBand.weight_pos_of_atPlace? picked, _, drawn⟩

/-- A draw is refused for its weights only. -/
theorem drawReward_refused_iff : (∃ detail, (drawReward bands words).1 = .error (.config detail))
    ↔ Amount.greatestCount < RewardBand.totalShare bands ∨ RewardBand.totalShare bands = 0 := by
  constructor
  · rintro ⟨detail, refused⟩
    refine Decidable.byContradiction fun weights => ?_
    obtain ⟨b, -, -, left, drawn⟩ :=
      @drawReward_grants bands words (by omega) (by omega)
    rw [drawn] at refused
    cases refused
  · rintro (exceeds | none)
    · exact ⟨_, congrArg (·.1) (drawReward_of_overflow words exceeds)⟩
    · exact ⟨_, congrArg (·.1) (drawReward_of_weightless words none)⟩

/-- The walk along the bands does not run past the last of them. -/
theorem drawReward_ne_past : (drawReward bands words).1
    ≠ .error (.config "reward band walk ran past the last band") := by
  intro past
  rcases (drawReward_refused_iff words).1 ⟨_, past⟩ with exceeds | none
  · rw [drawReward_of_overflow words exceeds] at past
    injection past with same
    injection same with same
    exact absurd same (by decide)
  · -- the two wordings part after eleven characters
    rw [drawReward_of_weightless words none] at past
    injection past with same
    injection same with same
    have parted := congrArg (fun text : String => text.toList.take 12) same
    simp only [String.toList_append, List.append_assoc] at parted
    rw [List.take_append_of_le_length (by decide)] at parted
    exact absurd parted (by decide)

/-- **A draw is exact**: it ends with an error exactly if the weights have no sum that can be
drawn below, and otherwise with an amount of a band that counts. -/
structure DrawsExactly (bands : List RewardBand) (words : Words) : Prop where
  /-- It is refused as misconfigured exactly if the weights come to nothing, or to more than a
  count. -/
  refused_iff : (∃ detail, (drawReward bands words).1 = .error (.config detail))
    ↔ Amount.greatestCount < RewardBand.positiveWeight bands
      ∨ RewardBand.positiveWeight bands = 0
  overflow : Amount.greatestCount < RewardBand.positiveWeight bands →
    drawReward bands words = (.error (.config "reward band weights overflow"), words)
  weightless : RewardBand.positiveWeight bands = 0 →
    drawReward bands words = (.error (.config ("reward bands have no positive weight ("
      ++ Text.ofNat bands.length ++ " bands)")), words)
  /-- Otherwise there is an amount, and it lies in a band that counts. -/
  granted : ¬ (Amount.greatestCount < RewardBand.positiveWeight bands
      ∨ RewardBand.positiveWeight bands = 0) →
    ∃ amount, (drawReward bands words).1 = .ok amount ∧ ∃ b ∈ bands, 0 < b.weight
      ∧ (b.min ≤ amount ∧ amount < b.max ∨ b.max ≤ b.min ∧ amount = b.min)
  neverPast : (drawReward bands words).1
    ≠ .error (.config "reward band walk ran past the last band")
  /-- Nothing leaves its width on the way. -/
  inWidth : Machine.draw? bands words = some (drawReward bands words)
  /-- Bands without weight change neither the amount nor the words that are taken. -/
  idle : ∀ others : List RewardBand, others.filter (·.Counts) = bands.filter (·.Counts) →
    (drawReward others words).2 = (drawReward bands words).2
      ∧ ∀ amount, (drawReward others words).1 = .ok amount
        ↔ (drawReward bands words).1 = .ok amount
  /-- When the words that are given are enough, it does not matter what comes after them. -/
  unread : words.Enough (drawReward bands words).2 → ∀ more,
    drawReward bands (words.followedBy more)
      = ((drawReward bands words).1, (drawReward bands words).2.followedBy more)

/-- **Draws are exact.** For every list of bands of amounts and all random words: a draw is
refused exactly if the positive weights come to nothing or to more than a count, and ends
with an amount of a band of positive weight otherwise. The walk never runs past the last
band, no number leaves its width, and bands without weight do not matter. -/
theorem draws_exactly (fits : ∀ b ∈ bands, b.Fits) : DrawsExactly bands words := by
  have total := RewardBand.totalShare_eq bands
  refine ⟨?_, fun exceeds => drawReward_of_overflow words (by omega),
    fun none => drawReward_of_weightless words (by omega), fun weights => ?_,
    drawReward_ne_past words, Machine.draw?_eq fits words,
    fun others same => drawReward_congr words same, fun enough => drawReward_followedBy enough⟩
  · rw [drawReward_refused_iff]
    omega
  · obtain ⟨b, hb, positive, left, drawn⟩ :=
      @drawReward_grants bands words (by omega) (by omega)
    exact ⟨_, congrArg (·.1) drawn, b, hb, positive, RewardBand.place_pay b left⟩

/-- The weights come to the greatest count, the band that is picked reaches from the least
amount to the greatest, and the first random word is rejected. -/
theorem draws_exactly_at_the_ends :
    let bands : List RewardBand := [⟨.low, Amount.least, Amount.greatest, Amount.greatest⟩,
      ⟨.low, 7, 9, -3⟩, ⟨.low, 5, 5, Amount.greatest⟩, ⟨.low, 0, 1, 1⟩]
    let words : Words := ⟨[1, 0, 18446744073709551615], 0⟩
    RewardBand.positiveWeight bands = Amount.greatestCount
      ∧ drawReward bands words = (.ok (Amount.greatest - 1), ⟨[], 3⟩)
      ∧ DrawsExactly bands words := by
  intro bands words
  refine ⟨by decide, by decide +kernel, draws_exactly words fun b hb => ?_⟩
  simp only [bands, List.mem_cons, List.not_mem_nil, or_false] at hb
  rcases hb with rfl | rfl | rfl | rfl <;> exact ⟨by decide, by decide, by decide⟩

end Draw

end RewardLedger
