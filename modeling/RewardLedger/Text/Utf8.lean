/-!
# UTF-8

Bytes as text. A character is one to four bytes; the first tells how many
follow, and between which bounds the second has to lie, which rules out long
forms, surrogates and numbers beyond the last character.

Decoding goes through the bytes once. Where they do not form a character, the
longest beginning of one counts as one fault, and decoding goes on at the byte
that broke it.
-/

namespace RewardLedger.Text.Utf8

/-- A character of which some bytes are still missing. -/
structure Unfinished where
  /-- The number that the bytes so far stand for. -/
  value : Nat
  /-- The bytes still missing, less one. -/
  further : Nat
  /-- The least next byte. -/
  low : Nat
  /-- The greatest next byte. -/
  high : Nat
  deriving DecidableEq, Repr

/-- What the first byte of a character says. -/
inductive Leading where
  | whole (c : Char)
  | first (u : Unfinished)
  /-- No character begins with this byte. -/
  | none
  deriving DecidableEq, Repr

/-- What a byte says when a character should begin. -/
def leading (b : Nat) : Leading :=
  if b < 0x80 then .whole (Char.ofNat b)
  else if b < 0xC2 then .none
  else if b < 0xE0 then .first ⟨b - 0xC0, 0, 0x80, 0xBF⟩
  else if b = 0xE0 then .first ⟨0, 1, 0xA0, 0xBF⟩
  else if b = 0xED then .first ⟨0xD, 1, 0x80, 0x9F⟩
  else if b < 0xF0 then .first ⟨b - 0xE0, 1, 0x80, 0xBF⟩
  else if b = 0xF0 then .first ⟨0, 2, 0x90, 0xBF⟩
  else if b < 0xF4 then .first ⟨b - 0xF0, 2, 0x80, 0xBF⟩
  else if b = 0xF4 then .first ⟨4, 2, 0x80, 0x8F⟩
  else .none

/-- The characters of bytes, with `none` for every fault, after the bytes of an
unfinished character if there is one. -/
def decodeFrom : Option Unfinished → List Nat → List (Option Char)
  | none, [] => []
  | some _, [] => [none]
  | none, b :: rest =>
    match leading b with
    | .whole c => some c :: decodeFrom none rest
    | .first u => decodeFrom (some u) rest
    | .none => none :: decodeFrom none rest
  | some u, b :: rest =>
    if u.low ≤ b ∧ b ≤ u.high then
      let value := u.value * 64 + (b - 0x80)
      match u.further with
      | 0 => some (Char.ofNat value) :: decodeFrom none rest
      | further + 1 => decodeFrom (some ⟨value, further, 0x80, 0xBF⟩) rest
    else
      match leading b with
      | .whole c => none :: some c :: decodeFrom none rest
      | .first u => none :: decodeFrom (some u) rest
      | .none => none :: none :: decodeFrom none rest

/-- The characters of bytes, with `none` for every fault. -/
def decode (bytes : List Nat) : List (Option Char) := decodeFrom none bytes

/-- The text of bytes without a fault. -/
def decode? (bytes : List Nat) : Option (List Char) := (decode bytes).mapM id

/-- The text of bytes, with the replacement character for every fault. -/
def decodeLossy (bytes : List Nat) : List Char :=
  (decode bytes).map fun c => c.getD '\ufffd'

/-- The bytes of a character. -/
def encodeChar (c : Char) : List Nat :=
  let n := c.toNat
  if n < 0x80 then [n]
  else if n < 0x800 then [0xC0 + n / 64, 0x80 + n % 64]
  else if n < 0x10000 then [0xE0 + n / 4096, 0x80 + n / 64 % 64, 0x80 + n % 64]
  else [0xF0 + n / 262144, 0x80 + n / 4096 % 64, 0x80 + n / 64 % 64, 0x80 + n % 64]

/-- The bytes of a text. -/
def encode (cs : List Char) : List Nat := cs.flatMap encodeChar

end RewardLedger.Text.Utf8
