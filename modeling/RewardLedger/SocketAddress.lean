import RewardLedger.Text.Decimal

/-!
# Socket addresses

The address that the service listens on: an internet address of either
version, and a port. Addresses of version six are written with the longest run
of zero groups left out and stand between brackets.
-/

namespace RewardLedger

/-- An address and a port. -/
inductive SocketAddress where
  /-- Four bytes. -/
  | v4 (bytes : List Nat) (port : Nat)
  /-- Eight groups of sixteen bits, and the zone that a link-local address
  belongs to. -/
  | v6 (groups : List Nat) (zone : Nat) (port : Nat)
  deriving DecidableEq, Repr

namespace SocketAddress

open Text

/-! ## Reading -/

/-- The value of a digit in a base of at most sixteen. -/
def digitIn? (base : Nat) (c : Char) : Option Nat :=
  let v? :=
    if c.isDigit then some (c.toNat - '0'.toNat)
    else if 'a' ≤ c ∧ c ≤ 'f' then some (c.toNat - 'a'.toNat + 10)
    else if 'A' ≤ c ∧ c ≤ 'F' then some (c.toNat - 'A'.toNat + 10)
    else none
  v?.filter (· < base)

/-- All digits at the head of a text, as long as they stand for a number below
the bound, and the text after them. -/
def number? (base bound : Nat) (cs : List Char) : Option (Nat × List Char) :=
  let ds := (cs.takeWhile fun c => (digitIn? base c).isSome)
  let n := ds.foldl (fun n c => base * n + (digitIn? base c).getD 0) 0
  if ds = [] ∨ bound ≤ n then none else some (n, cs.drop ds.length)

/-- The text after a mark. -/
def after? (mark : Char) : List Char → Option (List Char)
  | c :: rest => if c = mark then some rest else none
  | [] => none

/-- One byte: up to three digits, and no zero in front of others. -/
def byte? (cs : List Char) : Option (Nat × List Char) := do
  let (n, rest) ← number? 10 256 cs
  let width := cs.length - rest.length
  if 3 < width ∨ (1 < width ∧ cs.head? = some '0') then none else some (n, rest)

/-- Four bytes with points between them. -/
def bytes? (cs : List Char) : Option (List Nat × List Char) := do
  let (a, cs) ← byte? cs
  let (b, cs) ← byte? (← after? '.' cs)
  let (c, cs) ← byte? (← after? '.' cs)
  let (d, cs) ← byte? (← after? '.' cs)
  some ([a, b, c, d], cs)

/-- A group of up to four hexadecimal digits. -/
def group? (cs : List Char) : Option (Nat × List Char) := do
  let (n, rest) ← number? 16 65536 cs
  if 4 < cs.length - rest.length then none else some (n, rest)

/-- The text after the colon that separates a group from the one before. -/
def separated? (first : Bool) (cs : List Char) : Option (List Char) :=
  if first then some cs else after? ':' cs

/-- Up to `limit` groups, whether the last two were written as four bytes, and
the text after them. -/
def groups (first : Bool) : Nat → List Char → List Nat × Bool × List Char
  | 0, cs => ([], false, cs)
  | limit + 1, cs =>
    match (if 1 ≤ limit then (separated? first cs).bind bytes? else none) with
    | some ([a, b, c, d], rest) => ([a * 256 + b, c * 256 + d], true, rest)
    | _ =>
      match (separated? first cs).bind group? with
      | none => ([], false, cs)
      | some (g, rest) =>
        let (gs, bytes, rest) := groups false limit rest
        (g :: gs, bytes, rest)

/-- Eight groups, of which a run of zeros may be left out. -/
def eightGroups? (cs : List Char) : Option (List Nat × List Char) :=
  let (head, bytes, cs) := groups true 8 cs
  if head.length = 8 then some (head, cs)
  else if bytes then none
  else do
    let cs ← after? ':' (← after? ':' cs)
    let (tail, _, cs) := groups true (7 - head.length) cs
    some (head ++ List.replicate (8 - head.length - tail.length) 0 ++ tail, cs)

/-- A port at the end of a text. -/
def port? (cs : List Char) : Option Nat := do
  let (port, cs) ← number? 10 65536 (← after? ':' cs)
  if cs = [] then some port else none

/-- An address of version four with a port. -/
def parseV4? (cs : List Char) : Option SocketAddress := do
  let (bytes, cs) ← bytes? cs
  let port ← port? cs
  some (.v4 bytes port)

/-- An address of version six between brackets, with a port. -/
def parseV6? (cs : List Char) : Option SocketAddress := do
  let (groups, cs) ← eightGroups? (← after? '[' cs)
  let (zone, cs) ←
    match cs with
    | '%' :: rest => number? 10 (2 ^ 32) rest
    | _ => some (0, cs)
  let port ← port? (← after? ']' cs)
  some (.v6 groups zone port)

/-- The address that a text stands for. -/
def parse? (s : String) : Option SocketAddress :=
  (parseV4? s.toList).or (parseV6? s.toList)

/-! ## Writing -/

/-- A group in hexadecimal, without zeros in front. -/
def groupChars (n : Nat) : List Char := Nat.toDigits 16 n

/-- Numbers with a mark between them. -/
def joined (mark : Char) (f : Nat → List Char) : List Nat → List Char
  | [] => []
  | [n] => f n
  | n :: rest => f n ++ mark :: joined mark f rest

/-- The number of zeros at the head of a list. -/
def zeroRun (gs : List Nat) : Nat := (gs.takeWhile (· = 0)).length

/-- Where the longest run of zeros begins, the first of several, and how long
it is. -/
def longestZeroRun (gs : List Nat) : Nat × Nat :=
  (List.range gs.length).foldl
    (fun best i => if best.2 < zeroRun (gs.drop i) then (i, zeroRun (gs.drop i)) else best)
    (0, 0)

/-- The text of eight groups. An address that stands for one of version four
shows its bytes. -/
def groupsChars (gs : List Nat) : List Char :=
  match gs with
  | [0, 0, 0, 0, 0, 0xFFFF, a, b] =>
    "::ffff:".toList ++ joined '.' digits [a / 256, a % 256, b / 256, b % 256]
  | _ =>
    let (start, length) := longestZeroRun gs
    if 1 < length then
      joined ':' groupChars (gs.take start) ++ [':', ':']
        ++ joined ':' groupChars (gs.drop (start + length))
    else joined ':' groupChars gs

/-- The text of an address. -/
def text : SocketAddress → String
  | v4 bytes port => String.ofList (joined '.' digits bytes ++ ':' :: digits port)
  | v6 groups zone port =>
    let zoneChars := if zone = 0 then [] else '%' :: digits zone
    String.ofList ('[' :: groupsChars groups ++ zoneChars ++ ']' :: ':' :: digits port)

end SocketAddress

end RewardLedger
