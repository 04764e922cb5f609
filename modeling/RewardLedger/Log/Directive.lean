import RewardLedger.Log.Basic
import RewardLedger.Text.Alphanumeric
import RewardLedger.Text.Blank
import RewardLedger.Text.Cut
import RewardLedger.Text.Decimal

/-!
# Directives of a log filter

A directive is a level by itself, or it has up to three parts: how the names of
the origins begin to which it applies, conditions between brackets, and a level
after an equals sign. The conditions are the name of a span and, between braces,
a field of the line, which may have to have a value. Without a level everything
is heard.

Blanks at the ends of a directive are passed over when its marks are looked
for. But the parts are cut out of the whole text, at the positions that the
marks have after the blanks. So a directive is read as it is meant only if no
blank is at its head; and the cut may fall inside a character.
-/

namespace RewardLedger

/-- A field that a line has to have. -/
structure LogField where
  name : List Char
  /-- The value that it has to have. -/
  value : Option (List Char)
  deriving DecidableEq, Repr

/-- One directive of a filter. -/
structure LogDirective where
  /-- How the names begin of the origins to which it applies. -/
  origin : List Char
  /-- The span inside of which it applies. -/
  span : Option (List Char)
  /-- The field of the lines to which it applies. -/
  field : Option LogField
  /-- The rank up to which lines are heard; nothing at zero. -/
  rank : Nat
  deriving DecidableEq, Repr

namespace LogDirective

/-- Why a text is no directive. -/
inductive Fault where
  | malformed
  | unknownLevel
  /-- A part would have to be cut out in the middle of a character. -/
  | insideCharacter
  deriving DecidableEq, Repr

/-- What is said of a text that is no directive. -/
def Fault.message : Fault → String
  | malformed | insideCharacter => "invalid filter directive"
  | unknownLevel =>
    "error parsing level filter: expected one of \"off\", \"error\", \"warn\", \"info\", "
      ++ "\"debug\", \"trace\", or a number 0-5"

/-- The greatest rank. -/
def greatestRank : Nat := LogLevel.trace.rank

/-- The rank that a text names, in letters of either case or as a number. -/
def rank? (cs : List Char) : Option Nat :=
  let digits := match cs with
    | '+' :: rest => rest
    | _ => cs
  match Text.readDigits? digits with
  | some n => if n ≤ greatestRank then some n else none
  | none =>
    let name := String.ofList (cs.map Char.toUpper)
    if name = "OFF" then some 0
    else (LogLevel.all.find? fun l => name = l.title).map (·.rank)

/-- A directive while it is read. -/
structure Scan where
  /-- The whole text. -/
  text : List Char
  /-- What has not been looked at yet, of the text without the blanks at its
  ends. -/
  rest : List Char
  /-- The number of bytes that have been looked at. -/
  position : Nat
  deriving DecidableEq, Repr

namespace Scan

/-- Begin with a text. -/
def ofText (text : List Char) : Scan := ⟨text, Text.trimRight (Text.trimLeft text), 0⟩

/-- Go on to the next of some marks, or to the end. -/
def goTo (s : Scan) (marks : List Char) : Scan :=
  { s with
    rest := s.rest.dropWhile (· ∉ marks)
    position := s.position + Text.byteCount (s.rest.takeWhile (· ∉ marks)) }

/-- Go on behind a mark. -/
def pastMark (s : Scan) : Scan := { s with rest := s.rest.drop 1, position := s.position + 1 }

/-- The part of the text from one position to another. -/
def partTo (s t : Scan) : Except Fault (List Char) :=
  match Text.cut? s.position t.position s.text with
  | some part => .ok part
  | none => .error .insideCharacter

/-- The level that the rest of the text names. -/
def level (s : Scan) : Except Fault Nat :=
  match Text.dropBytes? s.position s.text with
  | none => .error .insideCharacter
  | some [] => .ok greatestRank
  | some cs =>
    match rank? cs with
    | some rank => .ok rank
    | none => .error .unknownLevel

/-- The level after the conditions. -/
def levelAfterConditions (s : Scan) : Except Fault Nat :=
  match s.rest with
  | [] => .ok greatestRank
  | '=' :: _ => s.pastMark.level
  | _ => .error .malformed

/-- The field that a text between braces describes. -/
def field (text : List Char) : LogField :=
  ⟨text.takeWhile (· ≠ '='),
    match text.dropWhile (· ≠ '=') with
    | [] => none
    | _ :: value => some (value.takeWhile (· ≠ '='))⟩

/-- The conditions behind their opening bracket, and the level. -/
def conditions (s : Scan) (origin : List Char) : Except Fault LogDirective := do
  let t := s.goTo [']', '\x7b']
  match t.rest with
  | [] => .error .malformed
  | ']' :: _ =>
    let span ← s.partTo t
    let rank ← t.pastMark.levelAfterConditions
    .ok ⟨origin, some span, none, rank⟩
  | _ :: _ =>
    let span ← s.partTo t
    let u := t.pastMark.goTo ['\x7d']
    match u.rest with
    | [] => .error .malformed
    | _ :: rest =>
      let inner ← t.pastMark.partTo u
      if inner = [] ∨ rest.head? ≠ some ']' then .error .malformed
      let rank ← u.pastMark.pastMark.levelAfterConditions
      .ok ⟨origin, if span = [] then none else some span, some (field inner), rank⟩

end Scan

/-- The characters that a directive may begin with, apart from a bracket. -/
def isInitial (c : Char) : Bool :=
  Text.isAlphanumeric c || c = '_' || c = ':' || c = '-'

/-- A text without a mark: a level for everything, or else an origin from which
everything is heard. -/
def ofUnmarked (text : List Char) : LogDirective :=
  match rank? text with
  | some rank => ⟨[], none, none, rank⟩
  | none => ⟨text, none, none, greatestRank⟩

/-- Read a directive. -/
def parse (text : List Char) : Except Fault LogDirective := do
  let s := Scan.ofText text
  match s.rest with
  | [] => .error .malformed
  | '[' :: _ => s.pastMark.conditions []
  | c :: _ =>
    if ¬ isInitial c then .error .malformed
    let t := s.goTo ['=', '[']
    match t.rest with
    | [] => .ok (ofUnmarked text)
    | '=' :: _ =>
      let origin ← s.partTo t
      let rank ← t.pastMark.level
      .ok ⟨origin, none, none, rank⟩
    | _ :: _ => t.pastMark.conditions (← s.partTo t)

/-- Lines themselves decide whether the directive applies to them. Spans and
values of fields are decided by the surroundings of a line, and the service
opens no spans. -/
def IsStatic (d : LogDirective) : Prop :=
  d.span = none ∧ ∀ f ∈ d.field, f.value = none

instance (d : LogDirective) : Decidable d.IsStatic := inferInstanceAs (Decidable (_ ∧ _))

/-- The directive applies to what comes from a part of the program. -/
def Applies (d : LogDirective) (origin : String) : Prop :=
  d.IsStatic ∧ d.origin.isPrefixOf origin.toList = true
    ∧ ∀ f ∈ d.field, f.name ∈ LogLine.fieldNames

instance (d : LogDirective) (origin : String) : Decidable (d.Applies origin) :=
  inferInstanceAs (Decidable (_ ∧ _ ∧ _))

/-- One directive says at least as much as another about the lines to which it
applies: its origin is longer, or as long and it does not lack a field that the
other has. -/
def AsSpecific (d e : LogDirective) : Prop :=
  e.origin.length < d.origin.length
    ∨ e.origin.length = d.origin.length ∧ (e.field.isSome → d.field.isSome)

instance (d e : LogDirective) : Decidable (d.AsSpecific e) :=
  inferInstanceAs (Decidable (_ ∨ _))

end LogDirective

end RewardLedger
