/-!
# The log

What the service tells its operator: lines of text, each with a level and with
the part of the program that it comes from.
-/

namespace RewardLedger

/-- The levels of lines, the most urgent first. -/
inductive LogLevel where
  | error
  | warn
  | info
  | debug
  | trace
  deriving DecidableEq, Repr

namespace LogLevel

def all : List LogLevel := [error, warn, info, debug, trace]

/-- The name of a level at the head of a line. -/
def title : LogLevel → String
  | error => "ERROR"
  | warn => "WARN"
  | info => "INFO"
  | debug => "DEBUG"
  | trace => "TRACE"

/-- How much is heard at a level: everything up to its rank. -/
def rank : LogLevel → Nat
  | error => 1
  | warn => 2
  | info => 3
  | debug => 4
  | trace => 5

end LogLevel

/-- One line of the log, and the part of the program that it comes from. -/
structure LogLine where
  level : LogLevel
  origin : String
  message : String
  deriving DecidableEq, Repr

namespace LogLine

/-- The line as it is printed. -/
def text (l : LogLine) : String := l.level.title ++ " " ++ l.message

/-- The names of the fields of a line: it has its message and nothing else. -/
def fieldNames : List (List Char) := ["message".toList]

end LogLine

end RewardLedger
