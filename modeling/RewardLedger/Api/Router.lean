import RewardLedger.Api.Handler
import RewardLedger.Api.Health
import RewardLedger.Api.Upgrade
import RewardLedger.Crediting
import RewardLedger.Settlement
import RewardLedger.Text.Quoted

/-!
# The interface

What each route does, and how a request finds its route.
-/

namespace RewardLedger.Api

open Handler

/-- What a service is set up with. -/
structure Server where
  base : BasePath
  /-- The metrics are served. -/
  metrics : Bool
  /-- The secret that partners have to present, if there is one. -/
  token : Option String
  deriving DecidableEq, Repr

/-! ## Users -/

/-- The referrer that a sign-up names, if it is known. -/
def knownReferrer (named : Option Int) : Handler (Option Int) := do
  match named with
  | none => return none
  | some id =>
    match ← serve (ServiceStep.observe (ServiceStep.ask (.user id))) with
    | .ok user => return some user.id
    | .error (.error (.notFound _)) => return none
    | .error e => serve (throw e)

/-- Register a user. -/
def signup (s : Signup) : Handler User := do
  let email := Text.trim s.email
  if email = "" ∨ '@' ∉ email.toList then
    fail (.badRequest ("invalid email " ++ Text.quoted s.email))
  let address := Text.trim s.address
  if address = "" then
    fail (.ofError (.invalidAddress address))
  let rewardInterval := s.rewardInterval.getD NewUser.defaultRewardInterval
  if rewardInterval ≤ 0 then
    fail (.badRequest
      ("reward interval must be positive, got " ++ Text.ofInt rewardInterval))
  let referrer ← knownReferrer s.referrer
  let now ← perform .now
  ask (.createUser { email, address, referrer, rewardInterval } now)

/-- The users that a user referred. -/
def listReferees (id : Int) (p : PageRequest) : Handler RefereePage := do
  let _ ← ask (.user id)
  return ⟨← ask (.referees id p.pageLimit p.pageOffset)⟩

/-! ## Incomes -/

/-- A page of incomes with the number of all of them. -/
def incomePage (id : Int) (source : Option IncomeSource) (p : PageRequest) :
    Handler IncomePage := do
  let count ← ask (.countIncomes id source)
  return ⟨count, ← ask (.incomes id source p.pageLimit p.pageOffset)⟩

/-- The income source of a name. -/
def knownSource (name : String) : Handler IncomeSource :=
  match IncomeSource.ofName? name with
  | some source => pure source
  | none => fail (.ofError (.invalidSource name))

/-- The incomes of a user. -/
def listIncomes (id : Int) (sourceName : Option String) (p : PageRequest) :
    Handler IncomePage := do
  let source ← sourceName.mapM knownSource
  let _ ← ask (.user id)
  incomePage id source p

/-- The scheduled rewards of a user, for the referrer of the user. -/
def listRefereeRewards (id referee : Int) (p : PageRequest) : Handler IncomePage := do
  let user ← ask (.user referee)
  if user.referrer ≠ some id then
    fail (.forbidden ("user " ++ Text.ofInt referee ++ " was not referred by user "
      ++ Text.ofInt id))
  incomePage referee (some .reward) p

/-- Pay a scheduled reward. -/
def claimReward (id : Int) : Handler Income := do
  let now ← perform .now
  serve (Crediting.draw id now)

/-- The request presents the secret. A header with other than plain characters
presents nothing. -/
def Presents (r : Request) (token : String) : Prop :=
  r.header? Request.tokenHeader = some token
    ∧ ∀ c ∈ token.toList, (0x20 ≤ c.toNat ∧ c.toNat < 0x7F) ∨ c = '\t'

instance (r : Request) (token : String) : Decidable (Presents r token) :=
  inferInstanceAs (Decidable (_ ∧ ∀ c ∈ token.toList, _))

/-- What partners are told when an event is credited, now or before. -/
def acknowledgement : Response := ⟨200, none, .text "1", false⟩

/-- Take a partner's notice. A second delivery is acknowledged like the first,
so that the partner stops; every other refusal is a failure. -/
def takeNotice (token : Option String) (source : String) (r : Request)
    (n : PartnerNotice) : Handler Response := do
  if ∃ t ∈ token, ¬ Presents r t then
    fail (.unauthorized "invalid callback token")
  let source ← knownSource source
  let credit := Crediting.creditPartner source n.key n.user n.amount
  match ← serve (ServiceStep.observe credit) with
  | .ok _ => return acknowledgement
  | .error (.error cause) =>
    if cause.IsDuplicate then return acknowledgement else fail (.ofError cause)
  | .error .outOfRange => serve (throw .outOfRange)

/-! ## Withdrawals -/

/-- Withdraw to the address that is given, or else to the user's own. -/
def withdraw (id : Int) (p : Payout) : Handler Withdrawal := do
  let address ←
    match p.address with
    | some address => pure address
    | none => pure (← ask (.user id)).address
  serve (Settlement.request id address p.amount)

/-- The withdrawals of a user. -/
def listWithdrawals (id : Int) (p : PageRequest) : Handler WithdrawalPage := do
  return ⟨← ask (.withdrawals id p.pageLimit p.pageOffset)⟩

/-- Move a batch of withdrawals. -/
def advance (a : Advance) : Handler Advanced := do
  if a.ids = [] then
    fail (.badRequest "no withdrawal ids given")
  return ⟨← serve (Settlement.advance a.ids a.current a.next a.transaction)⟩

/-! ## The service itself -/

/-- The name of the service. -/
def serviceName : String := "faucet-api"

/-- The version of the service. -/
def serviceVersion : String := "0.1.0"

/-- What the service says about itself. -/
def statusReport : Handler StatusReport := do
  let usersOnline ← perform .activeCount
  let today ← perform .now
  let pool ← perform (.cache (.pool today))
  let uptime ← perform .uptime
  let now ← perform .now
  return ⟨serviceName, serviceVersion, uptime, Timestamp.offsetText now,
    [("users_online", .int usersOnline), ("total_reward_today", .int pool)]⟩

/-! ## Routes -/

/-- Answer a request of a route whose method is allowed. -/
def handle (server : Server) (found : Found) (r : Request) : Handler Response := do
  let id (part : List Char) : Handler Int := identifier found.captured part
  match found.route with
  | .health => return .ofJson 200 (← serve Health.report).json
  | .status => return .ofData (← statusReport).json
  | .metrics => return .ofJson 200 (.obj (← perform .metrics))
  | .feed =>
    match Upgrade.refusal? r with
    | some status => reject status
    | none => return ⟨Response.switching, none, .none, false⟩
  | .users => return .ofData (← signup (← body Signup.reader r)).json
  | .user part => return .ofData (← ask (.user (← id part))).json
  | .referees part => do
    let id ← id part
    return .ofData (← listReferees id (← page r)).json
  | .rewards part => return .ofData (← claimReward (← id part)).json
  | .incomes part => do
    let id ← id part
    let source ← field? (Text.Form.pairs r.query) "source"
    return .ofData (← listIncomes id source (← page r)).json
  | .refereeIncomes part referee => do
    let (id, referee) ← identifiers found.captured part referee
    return .ofData (← listRefereeRewards id referee (← page r)).json
  | .withdrawals part => do
    let id ← id part
    if r.method = "POST" then
      return .ofData (← withdraw id (← body Payout.reader r)).json
    else
      return .ofData (← listWithdrawals id (← page r)).json
  | .advance => return .ofData (← advance (← body Advance.reader r)).json
  | .callbacks part => do
    let source ← onlyName found.captured part
    takeNotice server.token (String.ofList source) r (← body PartnerNotice.reader r)

/-- The response that a handler comes to. -/
def Handler.response (h : Handler Response) : ServiceStep Response := do
  match ← h.run with
  | .ok response => return response
  | .error rejection => return rejection.response

/-- The response without its content. That a request was not understood can
still be told from the head. -/
def Response.withoutContent (r : Response) : Response :=
  match r.content with
  | .explanation => r
  | _ => { r with content := .none }

/-- Answer a request. Questions of browsers about other origins are answered on
every path; what is only asked for its head is answered without content. -/
def Server.respond (server : Server) (r : Request) : ServiceStep Response := do
  let found? := findRoute? server.base server.metrics r.path
  let response ←
    if r.method = "OPTIONS" then
      pure ⟨200, found?.map (·.route.methods), .text "", true⟩
    else
      match found? with
      | none => pure (.unusable 404)
      | some found =>
        if r.method ∈ found.route.methods then (handle server found r).response
        else pure { Response.unusable 405 with allow := some found.route.methods }
  return if r.method = "HEAD" then response.withoutContent else response

end RewardLedger.Api
