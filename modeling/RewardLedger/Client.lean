import RewardLedger.Hub

/-!
# Clients of the feed

A client as the hub sees it: it takes what is written, or it fails, or it takes
its time. The hub waits for a write no longer than a fixed time.
-/

namespace RewardLedger

/-- What a client does with what is written to it. -/
inductive Behaviour where
  /-- It takes everything at once. -/
  | prompt
  /-- It takes so many writes, and fails after that. -/
  | failAfter (writes : Nat)
  /-- It takes so many writes, and never finishes another one. -/
  | stallAfter (writes : Nat)
  /-- It takes every write after so many milliseconds. -/
  | slow (millis : Nat)
  deriving DecidableEq, Repr

/-- A client. -/
structure Client where
  behaviour : Behaviour
  /-- What it took and nobody looked at yet, newest first. -/
  unread : List String
  /-- How many writes it took in all. -/
  taken : Nat
  deriving DecidableEq, Repr

namespace Client

/-- A new client. -/
def new (behaviour : Behaviour) : Client := ⟨behaviour, [], 0⟩

/-- What comes of a write, and after how many milliseconds that is known. -/
def response (c : Client) (timeout : Nat) : WriteResult × Nat :=
  match c.behaviour with
  | .prompt => (.taken, 0)
  | .failAfter writes => (if c.taken < writes then .taken else .failed, 0)
  | .stallAfter writes => if c.taken < writes then (.taken, 0) else (.late, timeout)
  | .slow millis => (if millis ≤ timeout then .taken else .late, min millis timeout)

/-- The client once a write came to its end. -/
def afterWrite (c : Client) (r : WriteResult) (payload : String) : Client :=
  if r.Succeeded then { c with unread := payload :: c.unread, taken := c.taken + 1 } else c

/-- The client once somebody looked at what it took. -/
def read (c : Client) : Client := { c with unread := [] }

/-- The client once it left. -/
def gone (c : Client) : Client := { c with behaviour := .failAfter 0 }

end Client

end RewardLedger
