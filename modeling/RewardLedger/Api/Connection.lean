import RewardLedger.Effect
import RewardLedger.Wire.Ledger

/-!
# Connections to the feed

What the service does with a client from the moment its connection is handed
over. The client is first shown how many are online and the latest incomes; all
others are then told the new number; only then does the hub hold the connection
and the client gets what is broadcast. A client that leaves is counted out
again, unless the hub had evicted it before.
-/

namespace RewardLedger.Api.Connection

open ServiceStep

/-- Tell everybody how many clients are online. -/
def announce (count : Nat) : ServiceStep PUnit :=
  perform (.broadcast (Frame.ofUsersOnline count).text)

/-- Let a client join; the number of its connection, unless it left before it
was shown anything. -/
def join (client : Nat) : ServiceStep (Option Nat) := do
  let online := (← perform .activeCount) + 1
  let latest ← perform (.cache .latest)
  if ← perform (.write client (Frame.snapshot online latest).text) then
    announce online
    return some (← perform (.subscribe client))
  else
    return none

/-- One message of a client. -/
inductive Message where
  | text (s : String)
  | binary (bytes : List Nat)
  /-- The client closes the connection. -/
  | close
  /-- The connection broke. -/
  | lost
  deriving DecidableEq, Repr

/-- Take a message; whether the connection goes on. Only one word is
answered. -/
def receive (client : Nat) : Message → ServiceStep Bool
  | .text s => if s = "ping" then perform (.write client "pong") else pure true
  | .binary _ => pure true
  | .close | .lost => pure false

/-- Take the messages of a client, until one of them ends the connection or there
are no more. -/
def attend (client : Nat) : List Message → ServiceStep PUnit
  | [] => pure ⟨⟩
  | message :: rest => do
    if ← receive client message then
      attend client rest

/-- Let a connection go. -/
def leave (id : Nat) : ServiceStep PUnit := do
  if ← perform (.unsubscribe id) then
    announce (← perform .activeCount)

/-- **A client from first to last**, with all the messages that it sends. -/
def serve (client : Nat) (messages : List Message) : ServiceStep PUnit := do
  if let some id ← join client then
    attend client messages
    leave id

end RewardLedger.Api.Connection
