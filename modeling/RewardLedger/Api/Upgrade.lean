import RewardLedger.Api.Exchange

/-!
# Joining the feed over HTTP

A client of the feed begins with a request whose headers ask to hand the
connection over.
-/

namespace RewardLedger.Api.Upgrade

/-- The version of the protocol that is spoken on the feed. -/
def version : String := "13"

/-- The request asks to hand the connection over, in the words that the
protocol demands. -/
def Asks (r : Request) : Prop :=
  (∃ c ∈ r.header? "connection", "upgrade".toList <:+: c.toLower.toList)
    ∧ (r.header? "upgrade").map String.toLower = some "websocket"
    ∧ r.header? "sec-websocket-version" = some version
    ∧ (r.header? "sec-websocket-key").isSome

instance (r : Request) : Decidable (Asks r) :=
  inferInstanceAs (Decidable (_ ∧ _ ∧ _ ∧ _))

/-- The status with which a request to join is refused, if it is. -/
def refusal? (r : Request) : Option Nat :=
  if r.method ≠ "GET" then some 405
  else if ¬ Asks r then some 400
  else if ¬ r.upgradable then some 426
  else none

end RewardLedger.Api.Upgrade
