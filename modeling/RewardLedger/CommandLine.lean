import RewardLedger.Api.Route
import RewardLedger.Config.File
import RewardLedger.Log.Filter
import RewardLedger.Store.Opening

/-!
# The command line

How the program is started: where its configuration is, which address it
listens on, and what it reports until it serves. An argument wins over the
variable of the environment with the same meaning.
-/

namespace RewardLedger

/-- What the arguments say. -/
structure Arguments where
  config : Option String
  bind : Option String
  deriving DecidableEq, Repr

/-- What the environment says. -/
structure Environment where
  config : Option String
  bind : Option String
  /-- The filter of the log. -/
  log : Option String
  deriving DecidableEq, Repr

/-- Why the program ends before it does anything. -/
inductive Ending where
  /-- The arguments ask for information. -/
  | informed
  /-- The arguments cannot be understood. -/
  | misused
  deriving DecidableEq, Repr

namespace Arguments

/-- No arguments. -/
def none : Arguments := ⟨.none, .none⟩

/-- Take the value of an option that was not given before. A configuration has
to have a name. -/
def set (a : Arguments) (name value : String) : Except Ending Arguments :=
  match name with
  | "config" =>
    if a.config.isSome ∨ value = "" then .error .misused
    else .ok { a with config := some value }
  | "bind" =>
    if a.bind.isSome then .error .misused else .ok { a with bind := some value }
  | _ => .error .misused

/-- The text may be the value of the option before it: it does not look like an
option itself. -/
def IsValue (text : String) : Prop := text.toList.head? ≠ some '-' ∨ text = "-"

instance (text : String) : Decidable (IsValue text) := inferInstanceAs (Decidable (_ ∨ _))

/-- What one argument is. -/
inductive Shape where
  /-- An option by its long name, with a value if one is attached. -/
  | long (name : String) (value : Option String)
  /-- Options by their letters. -/
  | short (letters : List Char)
  /-- The mark after which no options come. -/
  | endMark
  | other
  deriving DecidableEq, Repr

/-- What an argument is. -/
def shape (text : String) : Shape :=
  match text.toList with
  | ['-', '-'] => .endMark
  | '-' :: '-' :: rest =>
    let name := String.ofList (rest.takeWhile (· ≠ '='))
    match rest.dropWhile (· ≠ '=') with
    | [] => .long name .none
    | _ :: value => .long name (some (String.ofList value))
  | '-' :: letter :: letters => .short (letter :: letters)
  | _ => .other

/-- Read arguments from first to last. -/
def read : List String → Arguments → Except Ending Arguments
  | [], a => .ok a
  | text :: rest, a =>
    match shape text with
    | .endMark => if rest = [] then .ok a else .error .misused
    | .short letters =>
      if letters.head? = some 'h' ∨ letters.head? = some 'V' then .error .informed
      else .error .misused
    | .other => .error .misused
    | .long name (some value) => do
      let a ← a.set name value
      read rest a
    | .long name .none =>
      if name = "help" ∨ name = "version" then .error .informed
      else
        match rest with
        | [] => .error .misused
        | value :: rest =>
          if IsValue value then do
            let a ← a.set name value
            read rest a
          else .error .misused

/-- Fill in from the environment what the arguments do not say. -/
def complete (a : Arguments) (e : Environment) : Except Ending Arguments :=
  if a.config = .none ∧ e.config = some "" then .error .misused
  else .ok ⟨a.config.or e.config, a.bind.or e.bind⟩

/-- What a command line and an environment say together. -/
def ofCommandLine (args : List String) (e : Environment) : Except Ending Arguments :=
  (read args .none).bind (·.complete e)

end Arguments

/-- What starting the program comes to. -/
inductive Start where
  /-- It serves until it is told to stop. -/
  | serving (config : Config) (interface : Interface) (base : Api.BasePath)
  /-- It ends with an exit code, and perhaps with a reason. -/
  | ended (code : Nat) (reason : Option String)

/-- The start of the program: what it logged and what it came to. -/
structure Startup where
  filter : LogFilter
  /-- What it says about the settings of the log before it logs anything. -/
  remarks : List String
  /-- Whether heard or not, oldest first. -/
  lines : List LogLine
  start : Start

namespace Startup

/-- The exit code after a failure. -/
def failureCode : Nat := 1

/-- The exit code after a misuse of the command line. -/
def misuseCode : Nat := 2

/-- The exit code after a fault. -/
def faultCode : Nat := 101

/-- The part of the program that starts it. -/
def mainOrigin : String := "faucet_api"

/-- The part of the program that serves. -/
def serverOrigin : String := "faucet_api::rest"

/-- The part of the program that keeps the cache. -/
def cacheOrigin : String := "faucet_ledger::cache"

/-- A line of general interest. -/
def report (origin message : String) : LogLine := ⟨.info, origin, message⟩

/-- The line about the store. -/
def storageLine (c : Config) : LogLine :=
  report mainOrigin ("Using " ++ c.storage.kind.title ++ " storage")

/-- The line about the cache, which is filled at the start. -/
def cacheLine : LogLine := ⟨.debug, cacheOrigin, "Rate cache refreshed"⟩

/-- The line about scheduled withdrawals, if there are any. -/
def withdrawalLines (c : Config) : List LogLine :=
  if c.withdrawal.enabled then
    [report mainOrigin ("Scheduled withdrawals every "
      ++ Text.ofNat c.withdrawal.intervalSeconds ++ "s for balances >= "
      ++ Text.ofInt c.withdrawal.minBalance)]
  else []

/-- The line before the routes are set up. -/
def startingLine (i : Interface) : LogLine :=
  report serverOrigin ("Starting faucet-api API server on " ++ i.address.text)

/-- The line once the address is taken. -/
def listeningLine (i : Interface) : LogLine :=
  report serverOrigin ("Listening on " ++ i.address.text)

/-- The line when the program is told to stop. -/
def stoppingLine : LogLine := report mainOrigin "Shutting down"

/-- Start with a configuration: what is logged, and what it comes to. -/
def steps (c : Config) : List LogLine × Start :=
  let fail (lines : List LogLine) (reason : String) : List LogLine × Start :=
    (lines, .ended failureCode (some reason))
  match c.storage.opening with
  | .refused _ | .database _ => fail [storageLine c] "Failed to create ledger store"
  | .memory =>
    let lines := storageLine c :: cacheLine :: withdrawalLines c
    match Interface.ofConfig? c.http with
    | none => fail lines "invalid socket address syntax"
    | some i =>
      match Api.BasePath.ofInterface? i.basePath with
      | none => (lines ++ [startingLine i], .ended faultCode none)
      | some base => (lines ++ [startingLine i, listeningLine i], .serving c i base)

/-- The program ends without a word in its log. -/
def silent (code : Nat) (reason : Option String) : Startup :=
  ⟨⟨[]⟩, [], [], .ended code reason⟩

/-- Start with a configuration and the filter of the log that the operator asks
for. -/
def ofConfig (c : Config) (log : Option String) : Startup :=
  match LogFilter.ofSettings log c.logLevel with
  | none => silent faultCode none
  | some reading =>
    let (lines, start) := steps c
    ⟨reading.filter, reading.remarks, lines, start⟩

/-- Start with arguments, the bytes of the configuration file that they name,
and the filter of the log that the operator asks for. -/
def ofArguments (a : Arguments) (file : Option ByteArray) (log : Option String) : Startup :=
  let loaded := a.config.elim (.ok .initial) fun _ => Config.ofFile file
  match loaded with
  | .error _ =>
    silent failureCode
      (a.config.map fun path => "Failed to load configuration from " ++ path)
  | .ok c =>
    ofConfig (a.bind.elim c fun bind => { c with http.bindAddress := bind }) log

/-- Start as a command line says, given what it means. -/
def ofCommandLine (parsed : Except Ending Arguments) (file : Option ByteArray)
    (log : Option String) : Startup :=
  match parsed with
  | .error .informed => silent 0 none
  | .error .misused => silent misuseCode none
  | .ok a => ofArguments a file log

/-- The path of the configuration file that a command line names. -/
def configPath? (parsed : Except Ending Arguments) : Option String :=
  match parsed with
  | .ok a => a.config
  | .error _ => none

/-- What the program says apart from its log, in lines. -/
def complaints (s : Startup) : List String :=
  match s.start with
  | .ended _ (some reason) => s.remarks ++ ["Error: " ++ reason]
  | .ended _ none | .serving .. => s.remarks

end Startup

end RewardLedger
