import RewardLedger.Proofs.Wire.Digits
import RewardLedger.Wire.Ledger

/-!
# What a client reads from a frame

A client of the feed learns how many are online from the texts that it is sent. The member
of a frame that tells it comes first and is a whole number, so it is read off the beginning
of a payload. The text of any frame tells exactly what the frame does
(`Frame.online?_text`), and a text that begins otherwise tells nothing.
-/

namespace RewardLedger

/-- **An object begins with its first member**, and behind that comes a comma or the end. -/
theorem Json.toList_text_obj (name : String) (v : Json) (rest : List (String × Json)) :
    ∃ (c : Char) (tail : List Char), c.isDigit = false ∧ (Json.obj ((name, v) :: rest)).text.toList
      = '\x7b' :: quote name ++ ':' :: (chars v ++ c :: tail) := by
  rw [text, String.toList_ofList, chars]
  cases rest with
  | nil => exact ⟨'\x7d', [], by decide, by simp [memberChars]⟩
  | cons m rest =>
    exact ⟨',', memberChars (m :: rest) ++ ['\x7d'], by decide, by simp [memberChars]⟩

namespace Frame

/-- How a payload begins that tells how many are online. -/
def heading : List Char := '\x7b' :: Json.quote "users_online" ++ [':']

/-- How many are online, according to a payload, if it says so. -/
def online? (payload : String) : Option Nat :=
  if heading <+: payload.toList then
    some (Text.ofDigits ((payload.toList.drop heading.length).takeWhile Char.isDigit))
  else none

/-- The number is what stands between the heading and the next sign. -/
theorem online?_of_heading {payload : String} {n : Nat} {c : Char} {tail : List Char}
    (other : c.isDigit = false) (reads : payload.toList = heading ++ (Text.digits n ++ c :: tail)) :
    online? payload = some n := by
  unfold online?
  rw [reads, if_pos (List.prefix_append _ _), List.drop_left, Text.takeWhile_digits n other,
    Text.ofDigits_digits]

/-- Nothing is told by what begins otherwise. -/
theorem online?_of_parted {payload : String} (start : List Char)
    (reads : start <+: payload.toList) (parted : heading.take start.length ≠ start)
    (short : start.length ≤ heading.length) : online? payload = none := by
  refine if_neg fun told => parted ?_
  have first := List.prefix_of_prefix_length_le reads told short
  exact (List.prefix_iff_eq_take.1 first).symm

/-- **The text of a frame tells what the frame does.** -/
theorem online?_text (f : Frame) : online? f.text = f.usersOnline := by
  obtain ⟨usersOnline, latest, notice⟩ := f
  cases usersOnline with
  | some n =>
    obtain ⟨c, tail, other, reads⟩ := Json.toList_text_obj "users_online" (.int n)
      (Json.optionalMember "latest_incomes" (.ofList IncomeNotice.json) latest
        ++ Json.optionalMember "delta_income" IncomeNotice.json notice)
    have number : (Json.int n).chars = Text.digits n := by
      rw [Json.chars]
      exact String.toList_ofList
    rw [number] at reads
    have same : '\x7b' :: Json.quote "users_online" ++ ':' :: (Text.digits n ++ c :: tail)
        = heading ++ (Text.digits n ++ c :: tail) := by
      rw [heading, List.append_assoc]
      rfl
    exact online?_of_heading other (reads.trans same)
  | none =>
    -- other frames part from it at the third character, if not before
    cases latest with
    | some incomes =>
      obtain ⟨c, tail, -, reads⟩ := Json.toList_text_obj "latest_incomes"
        (.ofList IncomeNotice.json incomes)
        (Json.optionalMember "delta_income" IncomeNotice.json notice)
      exact online?_of_parted ['\x7b', '"', 'l'] (reads ▸ ⟨_, rfl⟩) (by decide) (by decide)
    | none =>
      cases notice with
      | some income =>
        obtain ⟨c, tail, -, reads⟩ := Json.toList_text_obj "delta_income" income.json []
        exact online?_of_parted ['\x7b', '"', 'd'] (reads ▸ ⟨_, rfl⟩) (by decide) (by decide)
      | none => decide

theorem online?_ofUsersOnline (count : Nat) : online? (ofUsersOnline count).text = some count :=
  online?_text (ofUsersOnline count)

theorem online?_snapshot (count : Nat) (latest : List IncomeNotice) :
    online? (snapshot count latest).text = some count :=
  online?_text (snapshot count latest)

theorem online?_ofNotice (n : IncomeNotice) : online? (ofNotice n).text = none :=
  online?_text (ofNotice n)

end Frame

end RewardLedger
