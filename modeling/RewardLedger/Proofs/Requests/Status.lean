import RewardLedger.Proofs.Requests.Answering

/-!
# The status of a response

Whoever asks for a credit or a withdrawal decides by the status alone whether to ask
again, so the status has to be right about the ledger: a request that was carried out
made the one write that it orders, and one that was not left no trace.
-/

namespace RewardLedger.Api

/-- **The status tells the truth** about the ledger. -/
structure TellsTruth (server : Server) (r : Request) (s : Service Memory) (response : Response)
    (s' : Service Memory) : Prop where
  /-- A request that was not carried out left no trace. -/
  failed : ¬ response.Succeeded → s.Kept s'
  /-- Only what is posted changes anything. -/
  looked : response.Succeeded → r.method ≠ "POST" → s.Same s'
  /-- What was posted and carried out made the one write that it orders. -/
  written : response.Succeeded → r.method = "POST" →
    ∃ found, findRoute? server.base server.metrics r.path = some found
      ∧ Done s found r response s'

/-- **The status tells the truth about the ledger**, whatever is asked and however it is
worded. In every state that can be reached a request is abandoned, or it is answered; and
when it is answered with another status than one of success nothing happened, when it
was only to look nothing happened either, and else the write that it orders was made,
and no other. An event that was credited before is acknowledged without a write. -/
theorem status_tells_truth (server : Server) (r : Request) {s : Service Memory}
    (reach : s.store.Reachable) :
    Ends (TellsTruth server r s) ((server.respond r).serve s) := by
  refine (ends_respond server r reach).mono fun response s' answered => ?_
  refine ⟨answered.kept, fun succeeded reading => ?_, fun succeeded post => ?_⟩
  · cases answered with
    | failed told => exact absurd succeeded told
    | looked _ same => exact same
    | carriedOut post => exact absurd post reading
  · cases answered with
    | failed told => exact absurd succeeded told
    | looked reading => exact absurd post reading
    | carriedOut _ route done => exact ⟨_, route, done⟩

/-- A notice that comes again, with another amount, is acknowledged and leaves the one
income that there is. -/
theorem status_tells_truth_of_repeated_notice :
    let credit : PartnerCredit := ⟨.offerwow, "k", 1, 5, 0, ⟨0, 0⟩⟩
    let m := Memory.empty.after
      [.request (.createUser ⟨"a@x", "addr", none, 300⟩ ⟨0, 0⟩), .request (.creditPartner credit)]
    let s : Service Memory := Service.new m 10 ⟨0, 0⟩
    let server : Server := ⟨.root, false, none⟩
    let r : Request := ⟨"POST", "/callbacks/offerwow", [("Content-Type", "application/json")],
      "\x7b\"external_key\": \"k\", \"user_id\": 1, \"amount\": 7\x7d", false⟩
    let served := (server.respond r).serve s
    m.Reachable ∧ Ends (TellsTruth server r s) served
      ∧ served.1.map (·.status) = .ok 200
      ∧ served.2.store.tables.incomes.map (·.amount) = [5] := by
  intro credit m s server r served
  have reach : m.Reachable := Memory.Reachable.empty.after _
  exact ⟨reach, status_tells_truth server r reach, by decide +kernel, by decide +kernel⟩

end RewardLedger.Api
