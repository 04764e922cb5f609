import RewardLedger.Log.Directive

/-!
# Log filters

How much of the log the operator wants to hear: a list of directives with commas
between them. Of the directives that apply to a line the most specific decides,
and of several that are as specific the last.
-/

namespace RewardLedger

/-- A filter. -/
structure LogFilter where
  directives : List LogDirective
  deriving DecidableEq, Repr

namespace LogFilter

/-- The texts between the commas. -/
def texts (text : String) : List (List Char) :=
  (text.toList.splitOnP (· = ',')).filter (· ≠ [])

/-- A filter without a directive lets errors through. -/
def ofDirectives (ds : List LogDirective) : LogFilter :=
  ⟨if ds = [] then [⟨[], none, none, LogLevel.error.rank⟩] else ds⟩

/-- The filter that a text gives if each of its directives is one. -/
def parse (text : String) : Except LogDirective.Fault LogFilter :=
  ((texts text).mapM LogDirective.parse).map ofDirectives

/-- A filter, and what is said about the directives that it leaves out. -/
structure Reading where
  filter : LogFilter
  remarks : List String
  deriving DecidableEq, Repr

/-- What is said about a text that is no directive. -/
def remark (text : List Char) (f : LogDirective.Fault) : String :=
  "ignoring `" ++ String.ofList text ++ "`: " ++ f.message

/-- Read directives one after the other. What is no directive is left out, and
reading ends without a result where a text cannot be cut into its parts. -/
def readAll : List (List Char) → Option (List LogDirective × List String)
  | [] => some ([], [])
  | text :: rest =>
    match LogDirective.parse text with
    | .ok d => (readAll rest).map fun (ds, remarks) => (d :: ds, remarks)
    | .error .insideCharacter => none
    | .error f => (readAll rest).map fun (ds, remarks) => (ds, remark text f :: remarks)

/-- The filter that a text gives, without what is no directive. -/
def parseLenient (text : String) : Option Reading :=
  (readAll (texts text)).map fun (ds, remarks) => ⟨ofDirectives ds, remarks⟩

/-- The rank up to which lines from a part of the program are heard. -/
def rankFor (f : LogFilter) (origin : String) : Nat :=
  match f.directives.filter (·.Applies origin) with
  | [] => 0
  | first :: rest => (rest.foldl (fun best d => if d.AsSpecific best then d else best) first).rank

/-- The line is heard. -/
def Hears (f : LogFilter) (l : LogLine) : Prop := l.level.rank ≤ f.rankFor l.origin

instance (f : LogFilter) (l : LogLine) : Decidable (f.Hears l) :=
  inferInstanceAs (Decidable (_ ≤ _))

/-- The filter of a service: the one that the operator asks for, if it is one,
or else the configured level for everything, with little from the transport.
There is none where a text cannot be cut into its parts. -/
def ofSettings (asked : Option String) (level : String) : Option Reading :=
  match asked.map parse with
  | some (.ok f) => some ⟨f, []⟩
  | some (.error .insideCharacter) => none
  | some (.error _) | none => parseLenient (level ++ ",tower_http=warn")

end LogFilter

end RewardLedger
