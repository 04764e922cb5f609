import RewardLedger.Api.Router
import RewardLedger.CommandLine
import RewardLedger.Jobs
import RewardLedger.Service
import RewardLedger.Store.Memory

/-!
# The program

Starts the service as the command line says, and then answers requests: one
JSON object to a line on standard input, with the method, the target, the
headers, the body and the moment at which the request came in; one JSON object
to a line on standard output, with the status and the content. It stops at the
end of the input.
-/

namespace RewardLedger.Main

/-- A request, and when it came in. -/
structure Arrival where
  moment : Instant
  request : Api.Request

/-- The fields of a line of input. -/
@[reducible] def fields : List Json.Field :=
  [.required "moment" Instant.reader, .withDefault "method" .text "GET",
    .required "target" .text, .withDefault "headers" (.dictionary .text) [],
    .withDefault "body" .text ""]

/-- Read a line of input. -/
def arrival : Json.Reader Arrival :=
  .record fields fun (moment, method, target, headers, body, ()) =>
    ⟨moment, ⟨method, target, headers, body, false⟩⟩

/-- The content of a response. -/
def contentMembers : Api.Content → List (String × Json)
  | .json v => [("body", v)]
  | .text s => [("text", .str s)]
  | .none | .explanation => []

/-- A line of output. -/
def responseLine (r : Api.Response) : String :=
  (Json.obj (("status", .int r.status) :: contentMembers r.content)).text

/-- Run a program of the service on a store in memory. -/
def run {α : Type} (p : ServiceStep α) (s : Service Memory) : Outcome α × Service Memory :=
  Program.run (fun e s => s.handle Memory.answer e) p.run s

/-- Answer one request, after the jobs for which it is time. -/
def answer (server : Api.Server) (config : Config) (a : Arrival) (words : List Nat)
    (jobs : Jobs) (s : Service Memory) : String × Jobs × Service Memory :=
  let (done, s) := run (jobs.run config a.moment)
    { s with time := a.moment, words := .ofList words }
  let jobs := match done with
    | .ok jobs => jobs
    | .error _ => jobs
  match run (server.respond a.request) s with
  | (.ok r, s) => (responseLine r, jobs, s)
  | (.error _, s) => (responseLine (.unusable 500), jobs, s)

/-- Words from chance, as many as a draw usually takes. -/
def chance : IO (List Nat) := do
  let bytes ← IO.getRandomBytes 64
  return (List.range 8).map fun i =>
    (bytes.extract (8 * i) (8 * i + 8)).foldl (fun n b => n * 256 + b.toNat) 0

/-- Answer requests until the input ends. The service starts with the first of
them. -/
partial def serve (server : Api.Server) (config : Config) (jobs : Option Jobs)
    (s : Service Memory) : IO Unit := do
  let line ← (← IO.getStdin).getLine
  if line = "" then
    return
  match arrival.wholeText line with
  | .error _ =>
    IO.println (responseLine (.unusable 400))
    serve server config jobs s
  | .ok a =>
    let started := jobs.getD (.startingAt a.moment)
    let (text, jobs, s) := answer server config a (← chance) started s
    IO.println text
    (← IO.getStdout).flush
    serve server config (some jobs) s

/-- The bytes of a file, if it can be read. -/
def bytes? (path : String) : IO (Option ByteArray) := do
  try
    return some (← IO.FS.readBinFile path)
  catch _ =>
    return none

/-- Print the lines that are heard. -/
def printLines (f : LogFilter) (lines : List LogLine) : IO Unit := do
  for l in lines do
    if f.Hears l then
      IO.println l.text

/-- Start the program, and serve if that is what it comes to. -/
def start (args : List String) : IO UInt32 := do
  let environment : Environment :=
    ⟨← IO.getEnv "FAUCET_CONFIG", ← IO.getEnv "FAUCET_BIND", ← IO.getEnv "RUST_LOG"⟩
  let parsed := Arguments.ofCommandLine args environment
  let file ← bytes? ((Startup.configPath? parsed).getD "")
  let startup := Startup.ofCommandLine parsed file environment.log
  printLines startup.filter startup.lines
  for complaint in startup.complaints do
    IO.eprintln complaint
  match startup.start with
  | .ended code _ => return code.toUInt32
  | .serving config interface base =>
    let server : Api.Server := ⟨base, interface.metrics, config.http.callbackToken⟩
    let service := Service.new Memory.empty config.cache.latestIncomes .epoch
    serve server config none (service.register "storage" .store)
    printLines startup.filter [Startup.stoppingLine]
    return 0

end RewardLedger.Main

/-- Start the program. -/
def main (args : List String) : IO UInt32 := RewardLedger.Main.start args
