import RewardLedger.Proofs.Requests.Answering
import RewardLedger.Proofs.Settling

/-!
# What a request may ask for

What a request does depends on what it is told, by the store, the cache and the clock.
Which write it may ask for does not: that is the one that it orders (`Orders`), by the
route that it found and by what it says. Here that is said of the handlers as programs,
so it holds whatever the store replies and whatever others do in between, and not only
of a request that is served with nobody else around.
-/

namespace RewardLedger

/-- **An effect writes to the store**, if it does at all, only what it may. -/
def Effect.WritesOnly (W : StoreOp → Prop) : Effect → Prop :=
  AsksOnly fun op => op.IsWrite → W op

/-- What only looks writes nothing. -/
theorem Effect.Looks.writesOnly {e : Effect} (looks : e.Looks) (W : StoreOp → Prop) :
    e.WritesOnly W := by
  cases e with
  | store op => exact fun write => absurd write looks
  | _ => trivial

namespace Api

namespace Handler

variable {W : StoreOp → Prop}

theorem performs_signup (form : Signup)
    (may : 0 < form.rewardInterval.getD NewUser.defaultRewardInterval → ∀ referrer now,
      W (.createUser ⟨Text.trim form.email, Text.trim form.address, referrer,
        form.rewardInterval.getD NewUser.defaultRewardInterval⟩ now)) :
    (signup form).Performs (Effect.WritesOnly W) fun _ => True := by
  unfold signup
  refine performs_check _ fun _ => performs_check _ fun _ => performs_check _ fun positive => ?_
  have known := (performs_knownReferrer form.referrer).mono fun e looks => looks.writesOnly W
  refine known.bind fun _ _ => .bind (performs_perform trivial) fun _ _ => ?_
  exact performs_ask (E := Effect.WritesOnly W) fun _ => may (Int.not_le.1 positive) _ _

theorem performs_claimReward (id : Int) (may : ∀ c, c.user = id → W (.creditReward c)) :
    (claimReward id).Performs (Effect.WritesOnly W) fun _ => True :=
  (performs_perform trivial).bind fun _ _ => performs_serve
    (Crediting.performs_draw (fun write => absurd write not_false) fun _ _ _ => may _ rfl)

theorem performs_takeNotice (token : Option String) (name : String) (r : Request)
    (n : PartnerNotice) (may : ∀ source share now, IncomeSource.ofName? name = some source →
      W (.creditPartner ⟨source, n.key, n.user, n.amount, share, now⟩)) :
    (takeNotice token name r n).Performs (Effect.WritesOnly W) fun _ => True := by
  unfold takeNotice
  refine performs_check _ fun _ => (performs_knownSource name).bind fun source named => ?_
  refine (performs_serve (ServiceStep.performs_observe
    (Crediting.performs_creditPartner fun _ _ now _ =>
      may source _ now named))).bind fun o _ => ?_
  split
  · exact performs_pure trivial
  · split
    · exact performs_pure trivial
    · exact performs_fail _
  · exact performs_serve trivial

theorem performs_withdraw (id : Int) (p : Payout)
    (may : ∀ address now, (∀ given ∈ p.address, address = given) →
      W (.createWithdrawal ⟨id, address, p.amount, now⟩)) :
    (withdraw id p).Performs (Effect.WritesOnly W) fun _ => True := by
  have requested (address : String) (own : ∀ given ∈ p.address, address = given) :
      (serve (Settlement.request id address p.amount)).Performs (Effect.WritesOnly W)
        fun _ => True :=
    performs_serve (Settlement.performs_request fun _ now _ => may address now own)
  unfold withdraw
  dsimp only
  split
  · next given _ =>
    exact (performs_pure (P := (· = given)) rfl).bind fun address equal =>
      requested address (by simp_all)
  · next absent =>
    exact (performs_ask fun write => absurd write not_false).bind fun u _ =>
      (performs_pure trivial).bind fun address (_ : True) => requested address (by simp_all)

theorem performs_advance (a : Advance)
    (may : ∀ now, W (.advanceWithdrawals a.ids a.current a.next a.transaction now)) :
    (advance a).Performs (Effect.WritesOnly W) fun _ => True := by
  unfold advance
  refine performs_check _ fun _ => .bind (performs_serve ?_) fun _ _ => performs_pure trivial
  exact Settlement.performs_advance fun _ now _ => may now

/-- **A request asks for no other write than the one that it orders**, whatever it is told
on the way. -/
theorem performs_handle (server : Server) {found : Found} {r : Request}
    (allowed : r.method ∈ found.route.methods) :
    (handle server found r).Performs (Effect.WritesOnly (Orders found r)) fun _ => True := by
  by_cases post : r.method = "POST"
  · obtain ⟨route, captured⟩ := found
    rw [post] at allowed
    cases route with
    | users =>
      exact .bind (performs_body _ r) fun form read =>
        .bind (performs_signup form fun _ _ _ => .signup rfl read) fun _ _ => performs_pure trivial
    | rewards part =>
      refine .bind (performs_identifier _ _) fun id ⟨name, named, user⟩ =>
        .bind (performs_claimReward id ?_) fun _ _ => performs_pure trivial
      rintro c rfl
      exact .reward rfl named user
    | withdrawals part =>
      refine .bind (performs_identifier _ _) fun id ⟨name, named, user⟩ => ?_
      rw [if_pos post]
      exact .bind (performs_body _ r) fun p read =>
        .bind (performs_withdraw id p fun _ _ own => .payout rfl named user read own)
          fun _ _ => performs_pure trivial
    | advance =>
      exact .bind (performs_body _ r) fun a read =>
        .bind (performs_advance a fun _ => .batch rfl read) fun _ _ => performs_pure trivial
    | callbacks part =>
      exact .bind (performs_onlyName _ _) fun name named => .bind (performs_body _ r) fun n read =>
        performs_takeNotice _ _ r n fun _ _ _ known => .event rfl named known read
    | _ => exact absurd allowed (show "POST" ∉ ["GET", "HEAD"] by decide)
  · exact (performs_handle_of_reading server post allowed).mono fun e looks => looks.writesOnly _

end Handler

/-- **A request is answered at once, or its route handles it.** -/
theorem Server.respond_cases (server : Server) (r : Request) :
    (∃ response, server.respond r = pure response)
      ∨ ∃ (found : Found) (finish : Response → Response),
        findRoute? server.base server.metrics r.path = some found
        ∧ r.method ∈ found.route.methods
        ∧ server.respond r
          = (do
            let response ← (handle server found r).response
            return finish response) := by
  unfold Server.respond
  dsimp only
  split
  · exact .inl ⟨_, rfl⟩
  · split
    · exact .inl ⟨_, rfl⟩
    · next found route =>
      split
      · next allowed => exact .inr ⟨found, _, route, allowed, rfl⟩
      · exact .inl ⟨_, rfl⟩

/-- **A server lets a request perform what its handler performs.** -/
theorem performs_respond_of {E : Effect → Prop} (server : Server) {r : Request}
    (handled : ∀ found, findRoute? server.base server.metrics r.path = some found →
      r.method ∈ found.route.methods → (handle server found r).Performs E fun _ => True) :
    (server.respond r).run.Performs E := by
  obtain ⟨response, same⟩ | ⟨found, finish, route, allowed, same⟩ := server.respond_cases r
  · rw [same]
    trivial
  · rw [same]
    have performed := (handled found route allowed).program.performs
    refine ServiceStep.performs_bind (ServiceStep.performs_bind performed fun o => ?_)
      fun _ => trivial
    cases o <;> trivial

/-- A server lets a request ask for no other write than the one that it orders. -/
theorem performs_respond (server : Server) (r : Request) :
    (server.respond r).run.Performs (Effect.WritesOnly fun op =>
      ∃ found, findRoute? server.base server.metrics r.path = some found
        ∧ Orders found r op) := by
  refine performs_respond_of server fun found route allowed => ?_
  refine (Handler.performs_handle server allowed).mono fun e writes => ?_
  cases e with
  | store op => exact fun write => ⟨found, route, writes write⟩
  | _ => trivial

end Api

end RewardLedger
