import RewardLedger.Error
import RewardLedger.Reward

/-!
# Drawing a reward

A reward is drawn in two steps. A band is picked with probability proportional
to its weight, then an amount is taken uniformly from the band. Both steps
sample a whole number below a bound from random words of sixty-four bits, by
widening multiplication with rejection: of the two halves of `word · bound`,
the upper one is the sample, and the lower one decides whether the word is
used, so that every sample has the same number of words.
-/

namespace RewardLedger

/-- A supply of random words: those that are given, then zeros for ever. -/
structure Words where
  /-- The words still to come before the zeros. -/
  ahead : List UInt64
  /-- How many words were taken so far. -/
  taken : Nat
  deriving DecidableEq, Repr

namespace Words

/-- The words of a list, none of them taken. -/
def ofList (words : List Nat) : Words := ⟨words.map UInt64.ofNat, 0⟩

/-- The number of words there are. -/
def modulus : Nat := 2 ^ 64

/-- The zero bits above the leading bit of a bound. -/
def leadingZeros (bound : Nat) : Nat := 63 - bound.log2

/-- The greatest lower half with which a word is used: the bound moved up to
the top bit, less one. -/
def zone (bound : Nat) : Nat := bound * 2 ^ leadingZeros bound - 1

/-- A word is **accepted** under a bound when the lower half of its product
lies in the zone. -/
def Accepts (bound word : Nat) : Prop := word * bound % modulus ≤ zone bound

instance (bound word : Nat) : Decidable (Accepts bound word) :=
  inferInstanceAs (Decidable (_ ≤ _))

/-- The sample that an accepted word gives. -/
def scale (bound word : Nat) : Nat := word * bound / modulus

theorem accepts_zero (bound : Nat) : Accepts bound 0 := by simp [Accepts]

/-- A sample is below the bound. -/
theorem scale_lt {bound word : Nat} (hb : 0 < bound) (hw : word < modulus) :
    scale bound word < bound := by
  unfold scale
  exact Nat.div_lt_of_lt_mul (Nat.mul_lt_mul_of_pos_right hw hb)

/-- Take words until one is accepted. Zero always is, so the search ends with
the words that are given. -/
def sampleFrom (bound : Nat) : List UInt64 → Nat → Nat × Words
  | [], taken => (scale bound 0, ⟨[], taken + 1⟩)
  | word :: rest, taken =>
    if Accepts bound word.toNat then (scale bound word.toNat, ⟨rest, taken + 1⟩)
    else sampleFrom bound rest (taken + 1)

/-- A uniform sample below a bound, and the words that are left. -/
def sample (w : Words) (bound : Nat) : Nat × Words := sampleFrom bound w.ahead w.taken

theorem sampleFrom_lt {bound : Nat} (hb : 0 < bound) :
    ∀ (words : List UInt64) (taken : Nat), (sampleFrom bound words taken).1 < bound
  | [], _ => scale_lt hb (Nat.two_pow_pos 64)
  | word :: rest, taken => by
    unfold sampleFrom
    split
    · exact scale_lt hb word.toNat_lt
    · exact sampleFrom_lt hb rest (taken + 1)

theorem sample_lt {bound : Nat} (hb : 0 < bound) (w : Words) : (w.sample bound).1 < bound :=
  sampleFrom_lt hb w.ahead w.taken

end Words

namespace RewardBand

/-- The weight of a band in the draw; a negative weight counts as none. -/
def share (b : RewardBand) : Nat := b.weight.toNat

/-- The weights of all bands together. -/
def totalShare (bands : List RewardBand) : Nat := (bands.map share).sum

/-- The band in which a place on the line of all weights falls. -/
def atPlace? : List RewardBand → Nat → Option RewardBand
  | [], _ => none
  | b :: rest, place =>
    if place < b.share then some b else atPlace? rest (place - b.share)

/-- A place before the end of the line falls in a band. -/
theorem atPlace?_isSome : ∀ {bands : List RewardBand} {place : Nat},
    place < totalShare bands → (atPlace? bands place).isSome
  | [], place, h => by simp [totalShare] at h
  | b :: rest, place, h => by
    unfold atPlace?
    split
    · rfl
    · next hp =>
      refine atPlace?_isSome ?_
      simp only [totalShare, List.map_cons, List.sum_cons] at h ⊢
      omega

/-- Only a band of positive weight is ever picked. -/
theorem weight_pos_of_atPlace? : ∀ {bands : List RewardBand} {place : Nat} {b : RewardBand},
    atPlace? bands place = some b → 0 < b.weight
  | [], _, _, h => by simp [atPlace?] at h
  | c :: rest, place, b, h => by
    unfold atPlace? at h
    split at h
    · next hp =>
      cases h
      simp only [share] at hp
      omega
    · exact weight_pos_of_atPlace? h

/-- The band that is picked is one of the list. -/
theorem mem_of_atPlace? : ∀ {bands : List RewardBand} {place : Nat} {b : RewardBand},
    atPlace? bands place = some b → b ∈ bands
  | [], _, _, h => by simp [atPlace?] at h
  | c :: rest, place, b, h => by
    unfold atPlace? at h
    split at h
    · cases h
      exact List.mem_cons_self
    · exact List.mem_cons_of_mem c (mem_of_atPlace? h)

/-- **A band gives an amount** if the amount lies in it, or is the minimum of a band
that has no room. -/
def Gives (b : RewardBand) (amount : Int) : Prop :=
  if b.max ≤ b.min then amount = b.min else b.min ≤ amount ∧ amount < b.max

end RewardBand

/-- Draw an amount. The weights may not exceed the largest count, and one of
them has to be positive. A band whose maximum is not above its minimum gives
its minimum and takes no second word. -/
def drawReward (bands : List RewardBand) (words : Words) : Except Error Int × Words :=
  let total := RewardBand.totalShare bands
  if Amount.greatestCount < total then
    (.error (.config "reward band weights overflow"), words)
  else if total = 0 then
    (.error (.config ("reward bands have no positive weight ("
      ++ Text.ofNat bands.length ++ " bands)")), words)
  else
    let (place, words) := words.sample total
    match RewardBand.atPlace? bands place with
    | none => (.error (.config "reward band walk ran past the last band"), words)
    | some band =>
      if band.max ≤ band.min then (.ok band.min, words)
      else
        let (step, words) := words.sample (band.max - band.min).toNat
        (.ok (band.min + step), words)

/-- **What is drawn is given by a band of positive weight.** -/
theorem gives_of_drawReward {bands : List RewardBand} {words : Words} {amount : Int}
    (h : (drawReward bands words).1 = .ok amount) :
    ∃ b ∈ bands, 0 < b.weight ∧ b.Gives amount := by
  unfold drawReward at h
  dsimp only at h
  split at h
  · cases h
  · split at h
    · cases h
    · split at h
      · cases h
      · next b picked =>
        refine ⟨b, RewardBand.mem_of_atPlace? picked,
          RewardBand.weight_pos_of_atPlace? picked, ?_⟩
        unfold RewardBand.Gives
        split at h
        · next noRoom =>
          cases h
          rw [if_pos noRoom]
        · next room =>
          cases h
          have some : 0 < (b.max - b.min).toNat := by omega
          have below := Words.sample_lt some (words.sample (RewardBand.totalShare bands)).2
          rw [if_neg room]
          omega

end RewardLedger
