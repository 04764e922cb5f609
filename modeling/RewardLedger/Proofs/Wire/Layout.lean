import Mathlib.Tactic.FinCases
import RewardLedger.Json.Reader
import RewardLedger.Proofs.Wire.Digits

/-!
# Documents of values

A value that is written and laid out again comes to a document of its own
(`Json.layout`): every string to itself, whatever had to be escaped in it, every whole number
to its digits, every list and every object to its parts in their order. That holds of all
values without doubles (`Json.ofText_chars`), whose texts are laid out to their end.
-/

namespace RewardLedger.Json

open Document

/-! ## Strings -/

section Pieces

variable {fuel : Nat} {cs : List Char} {c e : Char}

/-- One more piece in front of what was read. -/
def addPiece (p : Piece) : List Piece × List Char → List Piece × List Char :=
  fun (pieces, rest) => (p :: pieces, rest)

/-- A short escape is read as the character that it stands for. -/
theorem stringPieces?_short (short : shortEscape? e = some c) :
    stringPieces? (fuel + 1) ('\\' :: e :: cs)
      = (stringPieces? fuel cs).map (addPiece (.char c)) := by
  have other : e ≠ 'u' := by
    rintro rfl
    cases short
  rw [stringPieces?]
  · simp only [short, Option.bind_eq_bind, Option.bind_some]
    cases stringPieces? fuel cs <;> rfl
  · exact other

/-- A character that needs no escape is read as itself. -/
theorem stringPieces?_plain (quote : c ≠ '"') (slash : c ≠ '\\') (plain : ¬ c.toNat < 0x20) :
    stringPieces? (fuel + 1) (c :: cs)
      = (stringPieces? fuel cs).map (addPiece (.char c)) := by
  rw [stringPieces?, if_neg plain]
  · cases stringPieces? fuel cs <;> rfl
  · exact quote
  · exact fun _ same => absurd same slash
  · exact fun _ _ same => absurd same slash
  · exact fun same => absurd same slash

/-- The digits of the escape of a control character. -/
theorem hexValue?_hexDigit {n : Nat} (digit : n < 16) : hexValue? (hexDigit n) = some n := by
  revert n
  decide

/-- The escape of a control character is read as its number. -/
theorem stringPieces?_control {n : Nat} (control : n < 0x20) :
    stringPieces? (fuel + 1)
        ('\\' :: 'u' :: '0' :: '0' :: hexDigit (n / 16) :: hexDigit (n % 16) :: cs)
      = (stringPieces? fuel cs).map (addPiece (.unit n)) := by
  have zero : hexValue? '0' = some 0 := rfl
  have first := hexValue?_hexDigit (n := n / 16) (by omega)
  have second := hexValue?_hexDigit (n := n % 16) (by omega)
  have both : ((0 * 16 + 0) * 16 + n / 16) * 16 + n % 16 = n := by omega
  simp only [stringPieces?, hexUnit?, zero, first, second, both, Option.bind_eq_bind,
    Option.bind_some]
  cases stringPieces? fuel cs <;> rfl

end Pieces

/-- A character is written as a short escape, as the number of a control character, or as
it is. -/
theorem escapeChar_cases (c : Char) :
    (∃ e, shortEscape? e = some c ∧ escapeChar c = ['\\', e])
      ∨ (c.toNat < 0x20 ∧ escapeChar c
        = ['\\', 'u', '0', '0', hexDigit (c.toNat / 16), hexDigit (c.toNat % 16)])
      ∨ (c ≠ '"' ∧ c ≠ '\\' ∧ ¬ c.toNat < 0x20 ∧ escapeChar c = [c]) := by
  by_cases short : c ∈ ['"', '\\', '\x08', '\x0c', '\n', '\r', '\t']
  · refine .inl ?_
    fin_cases short
    all_goals exact ⟨_, rfl, rfl⟩
  · simp only [List.mem_cons, List.not_mem_nil, or_false, not_or] at short
    obtain ⟨h₁, h₂, h₃, h₄, h₅, h₆, h₇⟩ := short
    unfold escapeChar
    rw [if_neg h₁, if_neg h₂, if_neg h₃, if_neg h₄, if_neg h₅, if_neg h₆, if_neg h₇]
    split
    · next control => exact .inr (.inl ⟨control, rfl⟩)
    · next plain => exact .inr (.inr ⟨h₁, h₂, plain, rfl⟩)

/-- **What is written for a character is read as one piece**, which stands for that
character. -/
theorem exists_piece (c : Char) : ∃ p : Piece,
    (∀ fuel cs, stringPieces? (fuel + 1) (escapeChar c ++ cs)
      = (stringPieces? fuel cs).map (addPiece p))
    ∧ ∀ pieces, joinPieces? (p :: pieces) = (joinPieces? pieces).map (c :: ·) := by
  obtain ⟨e, short, text⟩ | ⟨control, text⟩ | ⟨quote, slash, plain, text⟩ := escapeChar_cases c
  · rw [text]
    exact ⟨.char c, fun _ _ => stringPieces?_short short, fun _ => rfl⟩
  · rw [text]
    refine ⟨.unit c.toNat, fun _ _ => stringPieces?_control control, fun pieces => ?_⟩
    have stands : joinPieces? (.unit c.toNat :: pieces)
        = (joinPieces? pieces).map (Char.ofNat c.toNat :: ·) := by
      have outside : c.toNat < 0xD800 ∨ 0xDFFF < c.toNat := .inl (by omega)
      conv_lhs => unfold joinPieces?
      exact if_pos outside
    rw [stands, Char.ofNat_toNat]
  · rw [text]
    exact ⟨.char c, fun _ _ => stringPieces?_plain quote slash plain, fun _ => rfl⟩

/-- **A string is read as it was written**, up to its closing quote. -/
theorem exists_pieces (cs : List Char) : ∃ pieces : List Piece,
    (∀ fuel rest, cs.length < fuel →
      stringPieces? fuel (cs.flatMap escapeChar ++ '"' :: rest) = some (pieces, rest))
    ∧ joinPieces? pieces = some cs := by
  induction cs with
  | nil =>
    refine ⟨[], fun fuel rest enough => ?_, rfl⟩
    obtain ⟨fuel, rfl⟩ := Nat.exists_eq_add_one.2 enough
    rfl
  | cons c cs ih =>
    obtain ⟨p, read, stands⟩ := exists_piece c
    obtain ⟨pieces, others, joined⟩ := ih
    refine ⟨p :: pieces, fun fuel rest enough => ?_, by rw [stands, joined]; rfl⟩
    obtain ⟨fuel, rfl⟩ := Nat.exists_eq_add_one.2 (Nat.zero_lt_of_lt enough)
    rw [List.flatMap_cons, List.append_assoc, read,
      others fuel rest (by simpa using enough)]
    rfl

/-! ## Numerals -/

/-- **A value has ended**: the text breaks off, or goes on with a sign that stands behind
values. -/
def Ended (rest : List Char) : Prop :=
  ∀ c tail, rest = c :: tail → c = ',' ∨ c = ']' ∨ c = '\x7d'

theorem ended_nil : Ended [] := nofun

theorem ended_comma (tail : List Char) : Ended (',' :: tail) := by
  rintro _ _ ⟨⟩
  exact .inl rfl

theorem ended_bracket (tail : List Char) : Ended (']' :: tail) := by
  rintro _ _ ⟨⟩
  exact .inr (.inl rfl)

theorem ended_brace (tail : List Char) : Ended ('\x7d' :: tail) := by
  rintro _ _ ⟨⟩
  exact .inr (.inr rfl)

/-- **The numeral of a whole number**: its digits, behind a sign if it is negative. -/
def Numeral.ofInt (n : Int) : Numeral := ⟨decide (n < 0), Text.digits n.natAbs, none, none⟩

theorem toList_ofInt (n : Int) : (Text.ofInt n).toList
    = if n < 0 then '-' :: Text.digits n.natAbs else Text.digits n.natAbs := by
  cases n with
  | ofNat n =>
    have unsigned : ¬ Int.ofNat n < 0 := Int.not_lt.2 (Int.natCast_nonneg n)
    rw [if_neg unsigned]
    exact String.toList_ofList
  | negSucc n =>
    rw [if_pos (by omega), Text.ofInt, String.toList_append]
    exact congrArg ('-' :: ·) String.toList_ofList

/-- Digits are read up to where the value has ended. -/
theorem spanDigits_digits (m : Nat) {rest : List Char} (ended : Ended rest) :
    spanDigits (Text.digits m ++ rest) = (Text.digits m, rest) := by
  have all : ∀ d ∈ Text.digits m, d.isDigit = true := fun _ => Text.isDigit_of_mem_digits
  unfold spanDigits
  rw [List.takeWhile_append_of_pos all, List.dropWhile_append_of_pos all]
  cases rest with
  | nil => simp
  | cons c tail =>
    have other : c.isDigit = false := by
      obtain rfl | rfl | rfl := ended c tail rfl <;> decide
    rw [List.takeWhile_cons_of_neg (by simp [other]), List.dropWhile_cons_of_neg (by simp [other]),
      List.append_nil]

theorem wholePart?_digits (m : Nat) {rest : List Char} (ended : Ended rest) :
    wholePart? (Text.digits m ++ rest) = some (Text.digits m, rest) := by
  unfold wholePart?
  rw [spanDigits_digits m ended]
  split
  · next none =>
    exact absurd (congrArg Prod.fst none) Text.digits_ne_nil
  · next read =>
    cases read
    refine if_neg fun ⟨zero, long⟩ => long ?_
    rw [Text.eq_zero_of_head?_digits zero]
    rfl

/-- **A whole number is read as its numeral.** -/
theorem numeral?_ofInt (n : Int) {rest : List Char} (ended : Ended rest) :
    numeral? ((Text.ofInt n).toList ++ rest) = some (Numeral.ofInt n, rest) := by
  have fraction : fractionPart? rest = some (none, rest) := by
    cases rest with
    | nil => rfl
    | cons c tail => obtain rfl | rfl | rfl := ended c tail rfl <;> rfl
  have exponent : exponentPart? rest = some (none, rest) := by
    cases rest with
    | nil => rfl
    | cons c tail => obtain rfl | rfl | rfl := ended c tail rfl <;> rfl
  have whole := wholePart?_digits n.natAbs ended
  rw [toList_ofInt]
  unfold numeral?
  by_cases negative : n < 0
  · rw [if_pos negative]
    simp only [List.cons_append, whole, fraction, exponent, Option.bind_eq_bind,
      Option.bind_some, Numeral.ofInt, negative, decide_true]
  · rw [if_neg negative]
    obtain ⟨d, ds, digits, digit⟩ := Text.exists_digits n.natAbs
    have unsigned : d ≠ '-' := by
      rintro rfl
      exact absurd digit (by decide)
    split
    next negative' rest' sign =>
    have read : (negative', rest') = (false, Text.digits n.natAbs ++ rest) := by
      rw [← sign, digits, List.cons_append]
      split
      · next h =>
        cases h
        exact absurd rfl unsigned
      · rfl
    cases read
    simp only [whole, fraction, exponent, Option.bind_eq_bind, Option.bind_some, Numeral.ofInt,
      negative, decide_false]

/-- Digits are taken while what they come to fits. -/
theorem Numeral.takeDigits_of_le (s : Nat) (ds : List Char)
    (fits : ds.foldl (fun n c => 10 * n + (c.toNat - '0'.toNat)) s ≤ greatestSignificand) :
    takeDigits s ds
      = (ds.foldl (fun n c => 10 * n + (c.toNat - '0'.toNat)) s, ds.length, []) := by
  have grows (s : Nat) (ds : List Char) :
      s ≤ ds.foldl (fun n c => 10 * n + (c.toNat - '0'.toNat)) s := by
    induction ds generalizing s with
    | nil => exact Nat.le_refl s
    | cons c ds ih => exact Nat.le_trans (show s ≤ 10 * s + _ by omega) (ih _)
  induction ds generalizing s with
  | nil => rfl
  | cons c ds ih =>
    have small := Nat.le_trans (grows _ ds) fits
    unfold takeDigits
    rw [if_neg (Nat.not_lt.2 small), ih _ fits]
    rfl

/-- **The numeral of a whole number stands for it** if it fits sixty-four bits. -/
theorem Numeral.value_ofInt {n : Int} (least : -2 ^ 63 ≤ n) (most : n < 2 ^ 64) :
    (Numeral.ofInt n).value = .int n := by
  have digits : (Text.digits n.natAbs).foldl (fun n c => 10 * n + (c.toNat - '0'.toNat)) 0
      = n.natAbs := Text.ofDigits_digits n.natAbs
  have taken := takeDigits_of_le 0 (Text.digits n.natAbs) (by
    rw [digits]
    unfold greatestSignificand
    omega)
  rw [digits] at taken
  unfold value ofInt
  simp only [taken]
  rw [if_neg (not_not_intro rfl)]
  by_cases negative : n < 0
  · have held : n.natAbs ≠ 0 ∧ n.natAbs ≤ 2 ^ 63 := by omega
    have same : -(n.natAbs : Int) = n := by omega
    rw [if_neg (by simp [negative]), if_pos held, same]
  · have same : (n.natAbs : Int) = n := by omega
    rw [if_pos (by simp [negative]), same]

/-! ## Values -/

mutual

/-- **The document of a value.** -/
def layout : Json → Document
  | .null => .null
  | .bool b => .bool b
  | .int n => .number (.ofInt n)
  | .double d => ofPrefix (doubleText d)
  | .str s => .string (some s)
  | .arr items => .array (layoutItems items)
  | .obj members => .object (layoutMembers members)

/-- The documents of items. -/
def layoutItems : List Json → Items
  | [] => .closed
  | v :: rest => .item v.layout (layoutItems rest)

/-- The documents of members. -/
def layoutMembers : List (String × Json) → Members
  | [] => .closed
  | (name, v) :: rest => .member (some name) v.layout (layoutMembers rest)

end

/-- **A value is plain** if there are no doubles in it. -/
inductive Plain : Json → Prop
  | null : Plain .null
  | bool (b : Bool) : Plain (.bool b)
  | int (n : Int) : Plain (.int n)
  | str (s : String) : Plain (.str s)
  | arr {items : List Json} (all : ∀ v ∈ items, Plain v) : Plain (.arr items)
  | obj {members : List (String × Json)} (all : ∀ m ∈ members, Plain m.2) : Plain (.obj members)

/-- **A value is laid out as its document**, up to where it ends. Every sign of the text is
worth two steps. -/
def LaysOut (v : Json) : Prop :=
  ∀ fuel rest, 2 * v.chars.length ≤ fuel → Ended rest →
    value fuel (v.chars ++ rest) = (v.layout, some rest)

/-- There are no blanks in front of what begins with something else. -/
theorem skipSpace_cons {c : Char} {cs : List Char} (solid : isSpace c = false) :
    skipSpace (c :: cs) = c :: cs :=
  List.dropWhile_cons_of_neg (by simp [solid])

/-- No digit is a blank. -/
theorem isSpace_of_isDigit {c : Char} (digit : c.isDigit = true) : isSpace c = false := by
  rw [Bool.eq_false_iff]
  intro space
  simp only [isSpace, Bool.or_eq_true, decide_eq_true_eq, or_assoc] at space
  obtain rfl | rfl | rfl | rfl := space <;> exact absurd digit (by decide)

/-- What begins with a digit is read as a numeral. -/
theorem value_of_digit {c : Char} (digit : c.isDigit = true) (fuel : Nat) (cs : List Char) :
    value (fuel + 1) (c :: cs) = leaf .number (numeral? (c :: cs)) := by
  unfold value
  rw [skipSpace_cons (isSpace_of_isDigit digit)]
  split
  case h_7 same =>
    cases same
    exact if_pos (.inr digit)
  case h_8 same => cases same
  all_goals
    next same =>
      cases same
      exact absurd digit (by decide)

theorem laysOut_int (n : Int) : LaysOut (.int n) := by
  intro fuel rest enough ended
  have read := numeral?_ofInt n ended
  have text := toList_ofInt n
  unfold chars at enough ⊢
  by_cases negative : n < 0
  · rw [if_pos negative] at text
    rw [text] at read enough ⊢
    obtain ⟨fuel, rfl⟩ := Nat.exists_eq_add_one.2 (Nat.zero_lt_of_lt enough)
    show leaf .number (numeral? ('-' :: Text.digits n.natAbs ++ rest)) = _
    rw [read]
    rfl
  · rw [if_neg negative] at text
    rw [text] at read enough ⊢
    obtain ⟨d, ds, digits, digit⟩ := Text.exists_digits n.natAbs
    rw [digits] at read enough ⊢
    obtain ⟨fuel, rfl⟩ := Nat.exists_eq_add_one.2 (Nat.zero_lt_of_lt enough)
    rw [List.cons_append] at read ⊢
    rw [value_of_digit digit, read]
    rfl

/-- Something is written for every character. -/
theorem escapeChar_ne_nil (c : Char) : escapeChar c ≠ [] := by
  obtain ⟨e, -, text⟩ | ⟨-, text⟩ | ⟨-, -, -, text⟩ := escapeChar_cases c
  all_goals
    rw [text]
    exact List.cons_ne_nil _ _

/-- **A string is laid out as itself**, up to its closing quote. -/
theorem stringPieces?_quote (s : String) (rest : List Char) :
    let inside := s.toList.flatMap escapeChar ++ '"' :: rest
    ∃ pieces, stringPieces? (inside.length + 1) inside = some (pieces, rest)
      ∧ (joinPieces? pieces).map String.ofList = some s := by
  intro inside
  obtain ⟨pieces, read, joined⟩ := exists_pieces s.toList
  have grows (cs : List Char) : cs.length ≤ (cs.flatMap escapeChar).length := by
    induction cs with
    | nil => exact Nat.le_refl 0
    | cons c cs ih =>
      have one := List.length_pos_iff.2 (escapeChar_ne_nil c)
      rw [List.flatMap_cons, List.length_append, List.length_cons]
      omega
  have enough : s.toList.length < inside.length + 1 := by
    have := grows s.toList
    rw [List.length_append]
    omega
  refine ⟨pieces, read _ rest enough, ?_⟩
  rw [joined, Option.map_some, String.ofList_toList]

theorem laysOut_str (s : String) : LaysOut (.str s) := by
  intro fuel rest enough ended
  obtain ⟨pieces, read, joined⟩ := stringPieces?_quote s rest
  obtain ⟨fuel, rfl⟩ := Nat.exists_eq_add_one.2 (Nat.zero_lt_of_lt enough)
  have text : chars (.str s) ++ rest = '"' :: (s.toList.flatMap escapeChar ++ '"' :: rest) := by
    simp [chars, quote]
  rw [text]
  show leaf (fun pieces => .string ((joinPieces? pieces).map String.ofList))
    (stringPieces? _ _) = _
  rw [read]
  show (Document.string ((joinPieces? pieces).map String.ofList), some rest) = _
  rw [joined]
  rfl

/-- The text of a plain value begins neither with a blank nor with the end of a list. -/
theorem Plain.exists_chars {v : Json} (plain : v.Plain) :
    ∃ c tail, v.chars = c :: tail ∧ isSpace c = false ∧ c ≠ ']' := by
  cases plain with
  | null => exact ⟨_, _, rfl, by decide, by decide⟩
  | bool b => cases b <;> exact ⟨_, _, rfl, by decide, by decide⟩
  | int n =>
    unfold chars
    rw [toList_ofInt]
    obtain ⟨d, ds, digits, digit⟩ := Text.exists_digits n.natAbs
    split
    · exact ⟨_, _, rfl, by decide, by decide⟩
    · refine ⟨d, ds, digits, isSpace_of_isDigit digit, ?_⟩
      rintro rfl
      exact absurd digit (by decide)
  | str s => exact ⟨_, _, rfl, by decide, by decide⟩
  | arr all => exact ⟨_, _, rfl, by decide, by decide⟩
  | obj all => exact ⟨_, _, rfl, by decide, by decide⟩

/-- **Items are laid out one after the other**, up to the closing bracket. -/
theorem item_itemChars {v : Json} {vs : List Json} (all : ∀ w ∈ v :: vs, w.LaysOut)
    {fuel : Nat} (enough : 2 * (itemChars (v :: vs)).length < fuel) (rest : List Char) :
    item fuel (itemChars (v :: vs) ++ ']' :: rest) = (layoutItems (v :: vs), some rest) := by
  -- an item takes a step more than its own signs are worth, for which the comma pays
  induction vs generalizing v fuel with
  | nil =>
    obtain ⟨fuel, rfl⟩ := Nat.exists_eq_add_one.2 (Nat.zero_lt_of_lt enough)
    have read := all v List.mem_cons_self fuel (']' :: rest) (Nat.le_of_lt_succ enough)
      (ended_bracket rest)
    unfold item
    rw [itemChars, read]
    rfl
  | cons w ws ih =>
    obtain ⟨fuel, rfl⟩ := Nat.exists_eq_add_one.2 (Nat.zero_lt_of_lt enough)
    have text : itemChars (v :: w :: ws) = v.chars ++ ',' :: itemChars (w :: ws) := rfl
    rw [text, List.length_append, List.length_cons] at enough
    have read := all v List.mem_cons_self fuel (',' :: (itemChars (w :: ws) ++ ']' :: rest))
      (by omega) (ended_comma _)
    have others : item fuel (itemChars (w :: ws) ++ ']' :: rest) = _ :=
      ih (fun x hx => all x (List.mem_cons_of_mem _ hx)) (by omega)
    unfold item
    rw [text, List.append_assoc, List.cons_append, read]
    show (Items.item v.layout (item fuel (itemChars (w :: ws) ++ ']' :: rest)).1,
      (item fuel (itemChars (w :: ws) ++ ']' :: rest)).2) = _
    rw [others]
    rfl

/-- The name of a member is read, and then its value. -/
theorem member_quote (name : String) (fuel : Nat) (cs : List Char) :
    member (fuel + 1) (quote name ++ ':' :: cs) = match value fuel cs with
      | (v, none) => (.member (some name) v .broken, none)
      | (v, some cs) =>
        match skipSpace cs with
        | '\x7d' :: rest => (.member (some name) v .closed, some rest)
        | ',' :: rest =>
          let (tail, rest) := member fuel rest
          (.member (some name) v tail, rest)
        | _ => (.member (some name) v .broken, none) := by
  obtain ⟨pieces, read, joined⟩ := stringPieces?_quote name (':' :: cs)
  have text : quote name ++ ':' :: cs
      = '"' :: (name.toList.flatMap escapeChar ++ '"' :: ':' :: cs) := by simp [quote]
  conv_lhs => unfold member
  rw [text, skipSpace_cons (by decide)]
  split
  · next same =>
    cases same
    rw [read]
    dsimp only
    rw [joined, skipSpace_cons (by decide)]
    rfl
  · next other => exact absurd rfl (other _)

/-- **Members are laid out one after the other**, up to the closing brace. -/
theorem member_memberChars {m : String × Json} {ms : List (String × Json)}
    (all : ∀ w ∈ m :: ms, w.2.LaysOut) {fuel : Nat}
    (enough : 2 * (memberChars (m :: ms)).length < fuel) (rest : List Char) :
    member fuel (memberChars (m :: ms) ++ '\x7d' :: rest)
      = (layoutMembers (m :: ms), some rest) := by
  induction ms generalizing m fuel with
  | nil =>
    obtain ⟨fuel, rfl⟩ := Nat.exists_eq_add_one.2 (Nat.zero_lt_of_lt enough)
    obtain ⟨name, v⟩ := m
    have text : memberChars [(name, v)] = quote name ++ ':' :: v.chars := rfl
    rw [text, List.length_append, List.length_cons] at enough
    have read := all (name, v) List.mem_cons_self fuel ('\x7d' :: rest)
      (show 2 * v.chars.length ≤ fuel by omega) (ended_brace rest)
    rw [text, List.append_assoc, List.cons_append, member_quote, read]
    rfl
  | cons w ws ih =>
    obtain ⟨fuel, rfl⟩ := Nat.exists_eq_add_one.2 (Nat.zero_lt_of_lt enough)
    obtain ⟨name, v⟩ := m
    have text : memberChars ((name, v) :: w :: ws)
        = quote name ++ ':' :: v.chars ++ ',' :: memberChars (w :: ws) := rfl
    rw [text, List.length_append, List.length_append, List.length_cons, List.length_cons]
      at enough
    have read := all (name, v) List.mem_cons_self fuel
      (',' :: (memberChars (w :: ws) ++ '\x7d' :: rest))
      (show 2 * v.chars.length ≤ fuel by omega) (ended_comma _)
    have others : member fuel (memberChars (w :: ws) ++ '\x7d' :: rest) = _ :=
      ih (fun x hx => all x (List.mem_cons_of_mem _ hx)) (by omega)
    rw [text, List.append_assoc, List.append_assoc, List.cons_append, List.cons_append,
      member_quote, read]
    show (Members.member (some name) v.layout
        (member fuel (memberChars (w :: ws) ++ '\x7d' :: rest)).1,
      (member fuel (memberChars (w :: ws) ++ '\x7d' :: rest)).2) = _
    rw [others]
    rfl

/-- The members of an object begin with the quote of a name. -/
theorem exists_memberChars (m : String × Json) (ms : List (String × Json)) :
    ∃ tail, memberChars (m :: ms) = '"' :: tail := by
  obtain ⟨name, v⟩ := m
  cases ms with
  | nil => exact ⟨_, rfl⟩
  | cons => exact ⟨_, rfl⟩

/-- The items of an array begin as the first of them does. -/
theorem exists_itemChars (v : Json) (vs : List Json) :
    ∃ tail, itemChars (v :: vs) = v.chars ++ tail := by
  cases vs with
  | nil => exact ⟨[], (List.append_nil _).symm⟩
  | cons => exact ⟨_, rfl⟩

/-- There are items where the array does not end at once. -/
theorem firstItem_cons {c : Char} {cs : List Char} (solid : isSpace c = false) (other : c ≠ ']')
    (fuel : Nat) : firstItem (fuel + 1) (c :: cs) = item fuel (c :: cs) := by
  unfold firstItem
  rw [skipSpace_cons solid]
  split
  · next same =>
    cases same
    exact absurd rfl other
  · rfl

theorem laysOut_arr {items : List Json} (plain : ∀ v ∈ items, v.Plain)
    (all : ∀ v ∈ items, v.LaysOut) : LaysOut (.arr items) := by
  intro fuel rest enough ended
  have text : chars (.arr items) = '[' :: (itemChars items ++ [']']) := rfl
  rw [text, List.length_cons, List.length_append, List.length_singleton] at enough
  obtain ⟨fuel, rfl⟩ : ∃ n, fuel = n + 2 := ⟨fuel - 2, by omega⟩
  rw [text, List.cons_append, List.append_assoc, List.singleton_append]
  show (Document.array (firstItem (fuel + 1) (itemChars items ++ ']' :: rest)).1,
    (firstItem (fuel + 1) (itemChars items ++ ']' :: rest)).2) = _
  cases items with
  | nil => rfl
  | cons v vs =>
    -- nothing is skipped, and the array does not end at once
    obtain ⟨c, first, begins, solid, other⟩ := (plain v List.mem_cons_self).exists_chars
    obtain ⟨tail, cut⟩ := exists_itemChars v vs
    have read : item fuel (itemChars (v :: vs) ++ ']' :: rest) = _ :=
      item_itemChars all (by omega) rest
    rw [cut, begins, List.cons_append, List.cons_append] at read ⊢
    rw [firstItem_cons solid other, read]
    rfl

theorem laysOut_obj {members : List (String × Json)} (all : ∀ m ∈ members, m.2.LaysOut) :
    LaysOut (.obj members) := by
  intro fuel rest enough ended
  have text : chars (.obj members) = '\x7b' :: (memberChars members ++ ['\x7d']) := rfl
  rw [text, List.length_cons, List.length_append, List.length_singleton] at enough
  obtain ⟨fuel, rfl⟩ : ∃ n, fuel = n + 2 := ⟨fuel - 2, by omega⟩
  rw [text, List.cons_append, List.append_assoc, List.singleton_append]
  show (Document.object (firstMember (fuel + 1) (memberChars members ++ '\x7d' :: rest)).1,
    (firstMember (fuel + 1) (memberChars members ++ '\x7d' :: rest)).2) = _
  cases members with
  | nil => rfl
  | cons m ms =>
    obtain ⟨tail, cut⟩ := exists_memberChars m ms
    have read : member fuel (memberChars (m :: ms) ++ '\x7d' :: rest) = _ :=
      member_memberChars all (by omega) rest
    have enters (cs : List Char) : firstMember (fuel + 1) ('"' :: cs) = member fuel ('"' :: cs) :=
      rfl
    rw [cut, List.cons_append] at read ⊢
    rw [enters, read]
    rfl

/-- **Every plain value is laid out as its document.** -/
theorem Plain.laysOut {v : Json} (plain : v.Plain) : v.LaysOut := by
  induction plain with
  | null =>
    intro fuel rest enough ended
    obtain ⟨fuel, rfl⟩ := Nat.exists_eq_add_one.2 (Nat.zero_lt_of_lt enough)
    rfl
  | bool b =>
    intro fuel rest enough ended
    cases b with
    | true =>
      obtain ⟨fuel, rfl⟩ := Nat.exists_eq_add_one.2 (Nat.zero_lt_of_lt enough)
      rfl
    | false =>
      obtain ⟨fuel, rfl⟩ := Nat.exists_eq_add_one.2 (Nat.zero_lt_of_lt enough)
      rfl
  | int n => exact laysOut_int n
  | str s => exact laysOut_str s
  | arr all ih => exact laysOut_arr all ih
  | obj _ ih => exact laysOut_obj ih

/-- **The whole text of a plain value is its document**, and nothing is left over. -/
theorem Plain.ofText_chars {v : Json} (plain : v.Plain) :
    ofText v.chars = (v.layout, true) := by
  have read := plain.laysOut (fuelFor v.chars) [] (by unfold fuelFor; omega) ended_nil
  unfold ofText
  rw [List.append_nil] at read
  rw [read]
  rfl

/-- **The text of a plain value begins with its document.** -/
theorem Plain.ofPrefix_chars {v : Json} (plain : v.Plain) : ofPrefix v.chars = v.layout := by
  have read := plain.laysOut (fuelFor v.chars) [] (by unfold fuelFor; omega) ended_nil
  rw [List.append_nil] at read
  unfold ofPrefix
  rw [read]

end RewardLedger.Json
