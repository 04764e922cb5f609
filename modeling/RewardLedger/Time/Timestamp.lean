import RewardLedger.Text.Blank
import RewardLedger.Text.Decimal
import RewardLedger.Time.Instant

/-!
# Timestamps and days as text

Instants are written in the profile of RFC 3339: universal time with a `Z`,
and a fraction of three, six or nine digits, the fewest that are exact, or none
when it is zero. A leap second is written as second sixty. Years outside four
digits carry a sign.

Reading is more generous: any offset below a day, a blank for the `T`, either
case of the letters, months and days of one digit, and blanks between the
parts.
-/

namespace RewardLedger

namespace Timestamp

open Text

/-! ## Writing -/

/-- A year: four digits, and a sign when they do not suffice. -/
def yearChars (year : Int) : List Char :=
  if 0 ≤ year ∧ year ≤ 9999 then paddedDigits 4 year.toNat
  else (if year < 0 then '-' else '+') :: paddedDigits 4 year.natAbs

/-- A date. -/
def dateChars (d : Date) : List Char :=
  yearChars d.year ++ '-' :: paddedDigits 2 d.month ++ '-' :: paddedDigits 2 d.day

/-- A fraction of a second. -/
def fractionChars (nanos : Nat) : List Char :=
  if nanos = 0 then []
  else if nanos % 1000000 = 0 then '.' :: paddedDigits 3 (nanos / 1000000)
  else if nanos % 1000 = 0 then '.' :: paddedDigits 6 (nanos / 1000)
  else '.' :: paddedDigits 9 nanos

/-- The date and the time of an instant. -/
def dateTimeChars (t : Instant) : List Char :=
  let second := (t.seconds % 86400).toNat
  let leap := Instant.nanosPerSecond ≤ t.nanos
  let nanos := if leap then t.nanos - Instant.nanosPerSecond else t.nanos
  dateChars t.day.toDate ++ 'T' :: paddedDigits 2 (second / 3600)
    ++ ':' :: paddedDigits 2 (second / 60 % 60)
    ++ ':' :: paddedDigits 2 (second % 60 + if leap then 1 else 0)
    ++ fractionChars nanos

/-- The text of an instant. -/
def chars (t : Instant) : List Char := dateTimeChars t ++ ['Z']

/-- The text of an instant. -/
def text (t : Instant) : String := String.ofList (chars t)

/-- The text of an instant with the offset written out. -/
def offsetText (t : Instant) : String :=
  String.ofList (dateTimeChars t ++ "+00:00".toList)

/-- The text of a day. -/
def dayText (d : Day) : String := String.ofList (dateChars d.toDate)

/-! ## Reading -/

/-- A number of one to `width` digits after any blanks, and the text after
it. -/
def number? (width : Nat) (cs : List Char) : Option (Nat × List Char) :=
  let cs := trimLeft cs
  match (cs.take width).takeWhile Char.isDigit with
  | [] => none
  | ds => some (ofDigits ds, cs.drop ds.length)

/-- A year: up to four digits, or a sign and any number of digits. -/
def year? (cs : List Char) : Option (Int × List Char) :=
  match trimLeft cs with
  | '-' :: rest =>
    match rest.takeWhile Char.isDigit with
    | [] => none
    | ds => some (-(ofDigits ds : Int), rest.drop ds.length)
  | '+' :: rest =>
    match rest.takeWhile Char.isDigit with
    | [] => none
    | ds => some (ofDigits ds, rest.drop ds.length)
  | cs => (number? 4 cs).map fun (n, rest) => (n, rest)

/-- The text after a mark that may have blanks before it. -/
def after? (mark : Char) (cs : List Char) : Option (List Char) :=
  match trimLeft cs with
  | c :: rest => if c = mark then some rest else none
  | [] => none

/-- A date and the text after it. -/
def date? (cs : List Char) : Option (Date × List Char) := do
  let (year, cs) ← year? cs
  let cs ← after? '-' cs
  let (month, cs) ← number? 2 cs
  let cs ← after? '-' cs
  let (day, cs) ← number? 2 cs
  some (⟨year, month, day⟩, cs)

/-- A fraction of a second in nanoseconds; what is finer is dropped. -/
def fraction? : List Char → Option (Nat × List Char)
  | '.' :: rest =>
    match rest.takeWhile Char.isDigit with
    | [] => none
    | ds =>
      let kept := ds.take 9
      some (ofDigits kept * 10 ^ (9 - kept.length), rest.drop ds.length)
  | cs => some (0, cs)

/-- Two digits and the text after them. -/
def twoDigits? : List Char → Option (Nat × List Char)
  | a :: b :: rest =>
    if a.isDigit ∧ b.isDigit then some (ofDigits [a, b], rest) else none
  | _ => none

/-- The offset from universal time in seconds, and the text after it. -/
def offset? (cs : List Char) : Option (Int × List Char) :=
  match cs with
  | 'Z' :: rest => some (0, rest)
  | 'z' :: rest => some (0, rest)
  | u :: t :: c :: rest =>
    if u.toLower = 'u' ∧ t.toLower = 't' ∧ c.toLower = 'c' then some (0, rest)
    else
      let sign? : Option Int :=
        if u = '+' then some 1 else if u = '-' ∨ u = '\u2212' then some (-1) else none
      do
        let sign ← sign?
        let (hours, cs) ← twoDigits? (t :: c :: rest)
        let (minutes, cs) ← twoDigits? (cs.dropWhile fun c => c = ':' || isBlank c)
        if 60 ≤ minutes then none
        else some (sign * (hours * 3600 + minutes * 60), cs)
  | _ => none

/-- The instant that a text stands for. -/
def parse? (cs : List Char) : Option Instant := do
  let (date, cs) ← date? cs
  let cs ←
    match cs with
    | c :: rest => if c = 'T' ∨ c = 't' ∨ c = ' ' then some rest else none
    | [] => none
  let (hour, cs) ← number? 2 cs
  let cs ← after? ':' cs
  let (minute, cs) ← number? 2 cs
  let cs ← after? ':' cs
  let (second, cs) ← number? 2 cs
  let (nanos, cs) ← fraction? cs
  let (offset, cs) ← offset? (trimLeft cs)
  if trimLeft cs ≠ [] ∨ 24 ≤ hour ∨ 60 ≤ minute ∨ 61 ≤ second then none
  else if offset ≤ -86400 ∨ 86400 ≤ offset then none
  else
    let day ← Day.ofDate? date
    let ofDay : Nat := hour * 3600 + minute * 60 + min second 59
    let t : Instant :=
      ⟨day.number * 86400 + ofDay - offset,
        if second = 60 then nanos + Instant.nanosPerSecond else nanos⟩
    if t.day.Admitted then some t else none

/-- The day that a text stands for. -/
def parseDay? (cs : List Char) : Option Day := do
  let (date, cs) ← date? cs
  if trimLeft cs ≠ [] then none else Day.ofDate? date

end Timestamp

end RewardLedger
