import RewardLedger.Proofs.Delivery
import RewardLedger.Proofs.Requests.Handling

/-!
# What an answered request did

A request that is answered was rejected, or it only looked, or the one write that it
orders was made. What it orders is read off the route that it found, the name in its
path and its body (`Orders`). A request to join the feed is answered before the hub
hears of the client, so it is one of those that only look.
-/

namespace RewardLedger

/-- A delivery that the service refuses as a duplicate is of an event that was
remembered, and leaves everything as it was. -/
theorem Crediting.known_of_duplicate {s s' : Service Memory} (reach : s.store.Reachable)
    {source : IncomeSource} {key : String} {user amount : Int} {cause : Error}
    (served : (creditPartner source key user amount).serve s = (.error (.error cause), s'))
    (duplicate : cause.IsDuplicate) :
    ⟨source, key, user⟩ ∈ s.store.tables.events ∧ s.Same s' := by
  obtain ⟨cause', fresh, refused⟩ | ⟨-, -, goes⟩ := creditPartner_cases source key user amount
  · rw [refused] at served
    cases served
    exact absurd duplicate fresh
  · rw [goes] at served
    let c : PartnerCredit :=
      ⟨source, key, user, amount, referrerShare amount s.cache.policy.referrerRate, s.time⟩
    rw [ServiceStep.serve_perform_bind, ServiceStep.serve_perform_bind] at served
    change (ServiceStep.ask (.creditPartner c) >>= fun receipt => do
      publish receipt
      return receipt.income).serve s = _ at served
    have asked : (ServiceStep.ask (.creditPartner c)).serve s
        = ((s.store.answer (.creditPartner c)).1,
          { s with store := (s.store.answer (.creditPartner c)).2 }) :=
      ServiceStep.serve_ask _
    cases replied : (s.store.answer (.creditPartner c)).1 with
    | ok receipt =>
      rw [replied] at asked
      rw [ServiceStep.serve_bind_of_ok asked] at served
      cases served
    | error fault =>
      rw [replied] at asked
      rw [ServiceStep.serve_bind_of_error asked] at served
      cases served
      have ends := reach.writes (show (StoreOp.creditPartner c).IsWrite from trivial)
      have mild (p : FailPoint) : p.failure ≠ cause := fun same =>
        Memory.not_isDuplicate_failure p (same ▸ duplicate)
      exact ⟨ends.known_of_duplicate replied duplicate,
        (ends.eq_of_refused replied).trans (Memory.disarmedBy_of_ne mild), rfl, rfl⟩

namespace Api

open Handler

/-! ## What a request orders -/

/-- **The write that a request orders**, by the route that it found and by what it
says. -/
inductive Orders (found : Found) (r : Request) : StoreOp → Prop
  | signup {form : Signup} {referrer : Option Int} {now : Instant}
    (route : found.route = .users) (read : Signup.reader.headOfText r.body = .ok form) :
    Orders found r (.createUser ⟨Text.trim form.email, Text.trim form.address, referrer,
      form.rewardInterval.getD NewUser.defaultRewardInterval⟩ now)
  | reward {part name : List Char} {c : RewardCredit} (route : found.route = .rewards part)
    (named : Names found.captured part name) (user : Text.readAmount? name = some c.user) :
    Orders found r (.creditReward c)
  | event {part name : List Char} {source : IncomeSource} {n : PartnerNotice} {share : Int}
    {now : Instant} (route : found.route = .callbacks part)
    (named : Names found.captured part name)
    (known : IncomeSource.ofName? (String.ofList name) = some source)
    (read : PartnerNotice.reader.headOfText r.body = .ok n) :
    Orders found r (.creditPartner ⟨source, n.key, n.user, n.amount, share, now⟩)
  | payout {part name : List Char} {id : Int} {p : Payout} {address : String} {now : Instant}
    (route : found.route = .withdrawals part) (named : Names found.captured part name)
    (user : Text.readAmount? name = some id) (read : Payout.reader.headOfText r.body = .ok p)
    (own : ∀ given ∈ p.address, address = given) :
    Orders found r (.createWithdrawal ⟨id, address, p.amount, now⟩)
  | batch {a : Advance} {now : Instant} (route : found.route = .advance)
    (read : Advance.reader.headOfText r.body = .ok a) :
    Orders found r (.advanceWithdrawals a.ids a.current a.next a.transaction now)

/-- **The response tells of a write** that was kept. -/
def Tells (response : Response) : (op : StoreOp) → op.Answer → Prop
  | .createUser .., u => response = .ofData u.json
  | .creditReward _, receipt => response = .ofData receipt.income.json
  | .creditPartner _, _ => response = acknowledgement
  | .createWithdrawal _, w => response = .ofData w.json
  | .advanceWithdrawals .., n => response = .ofData (Advanced.mk n).json
  | _, _ => False

/-- A write is told of as a success. -/
theorem Tells.succeeded {response : Response} {op : StoreOp} {a : op.Answer}
    (tells : Tells response op a) : response.Succeeded := by
  cases op with
  | createUser | creditReward | creditPartner | createWithdrawal | advanceWithdrawals =>
    rw [show response = _ from tells]
    exact of_decide_eq_true rfl
  | _ => exact tells.elim

/-- **A request was carried out.** -/
inductive Done (s : Service Memory) (found : Found) (r : Request) :
    Response → Service Memory → Prop
  /-- The write that it orders was made. -/
  | written {response : Response} {op : StoreOp} {a : op.Answer} {s' : Service Memory}
    (ordered : Orders found r op) (committed : s.Committed op a s') (tells : Tells response op a) :
    Done s found r response s'
  /-- The event that it tells of had been credited before. -/
  | repeated {c : PartnerCredit} {s' : Service Memory} (ordered : Orders found r (.creditPartner c))
    (known : c.event ∈ s.store.tables.events) (same : s.Same s') :
    Done s found r acknowledgement s'

theorem Done.succeeded {s s' : Service Memory} {found : Found} {r : Request}
    {response : Response} (done : Done s found r response s') : response.Succeeded := by
  cases done with
  | written _ _ tells => exact tells.succeeded
  | repeated => decide

/-! ## What the handlers come to -/

section Handlers

variable {s s₁ : Service Memory} (reach : s.store.Reachable) (same : s.Same s₁)

include reach same

/-- **A write that the store is asked for** by a handler. -/
theorem ends_ask {op : StoreOp} (write : op.IsWrite) :
    Handler.Ends s (s.Committed op) ((ask op).conclude s₁) :=
  ends_serve (ServiceStep.ends_ask write reach same)

theorem ends_signup (form : Signup) :
    Handler.Ends s (fun u s' => ∃ referrer now, s.Committed (.createUser ⟨Text.trim form.email,
      Text.trim form.address, referrer,
      form.rewardInterval.getD NewUser.defaultRewardInterval⟩ now) u s')
      ((signup form).conclude s₁) := by
  unfold signup
  refine ends_check _ _ same.kept fun _ => ends_check _ _ same.kept fun _ => ?_
  refine ends_check _ _ same.kept fun _ => ?_
  refine .after (performs_knownReferrer form.referrer) same fun referrer s₂ same _ => ?_
  refine .after (performs_perform trivial) same fun now s₃ same _ => ?_
  have write : (StoreOp.createUser ⟨Text.trim form.email, Text.trim form.address, referrer,
    form.rewardInterval.getD NewUser.defaultRewardInterval⟩ now).IsWrite := trivial
  exact (ends_ask reach same write).mono fun u s' committed => ⟨referrer, now, committed⟩

theorem ends_claimReward (id : Int) :
    Handler.Ends s (fun i s' => ∃ (c : RewardCredit) (receipt : Receipt), c.user = id
      ∧ s.Committed (.creditReward c) receipt s' ∧ i = receipt.income)
      ((claimReward id).conclude s₁) := by
  refine .after (performs_perform trivial) same fun now s₂ same _ => ?_
  exact ends_serve (Crediting.ends_draw reach same id now)

theorem ends_withdraw (id : Int) (p : Payout) :
    Handler.Ends s (fun w s' => ∃ address now, (∀ given ∈ p.address, address = given)
      ∧ s.Committed (.createWithdrawal ⟨id, address, p.amount, now⟩) w s')
      ((withdraw id p).conclude s₁) := by
  have paid {address : String} {s₂ : Service Memory} (same : s.Same s₂)
      (own : ∀ given ∈ p.address, address = given) :
      Handler.Ends s (fun w s' => ∃ address now, (∀ given ∈ p.address, address = given)
        ∧ s.Committed (.createWithdrawal ⟨id, address, p.amount, now⟩) w s')
        (conclude (serve (Settlement.request id address p.amount)) s₂) :=
    (ends_serve (Settlement.ends_request reach same id address p.amount)).mono
      fun w s' ⟨now, committed⟩ => ⟨address, now, own, committed⟩
  unfold withdraw
  dsimp only
  split
  · next given _ =>
    refine .after (performs_pure (P := (· = given)) rfl) same fun address s₂ same equal => ?_
    exact paid same (by simp_all)
  · next absent =>
    refine .after (performs_ask not_false) same fun u s₂ same _ => ?_
    refine .after (performs_pure (P := fun _ => True) trivial) same fun address s₃ same _ => ?_
    exact paid same (by simp_all)

theorem ends_advance (a : Advance) :
    Handler.Ends s (fun n s' => ∃ now, s.Committed
      (.advanceWithdrawals a.ids a.current a.next a.transaction now) n.count s')
      ((advance a).conclude s₁) := by
  unfold advance
  refine ends_check _ _ same.kept fun _ => ?_
  refine .bind (ends_serve (Settlement.ends_advance reach same _ _ _ _)) fun n s' committed => ?_
  exact .done committed

/-- A notice is rejected, or its event was credited, now or before. -/
theorem ends_takeNotice (token : Option String) (name : String) (r : Request)
    (n : PartnerNotice) :
    Handler.Ends s (fun response s' => response = acknowledgement
      ∧ ∃ source share now, IncomeSource.ofName? name = some source
        ∧ let c : PartnerCredit := ⟨source, n.key, n.user, n.amount, share, now⟩
          (∃ receipt, s.Committed (.creditPartner c) receipt s')
            ∨ (c.event ∈ s.store.tables.events ∧ s.Same s'))
      ((takeNotice token name r n).conclude s₁) := by
  unfold takeNotice
  refine ends_check _ _ same.kept fun _ => ?_
  refine .after (performs_knownSource name) same fun source s₂ same known => ?_
  have watched : ServiceStep.Ends s (fun o s' =>
      (Crediting.creditPartner source n.key n.user n.amount).serve s₂ = (o, s'))
      ((ServiceStep.observe (Crediting.creditPartner source n.key n.user n.amount)).serve s₂) := by
    rw [ServiceStep.serve_observe]
    exact .done rfl
  refine (ends_serve watched).bind fun o s' served => ?_
  have ends := Crediting.ends_creditPartner reach same source n.key n.user n.amount
  rw [served] at ends
  cases ends with
  | abandoned => exact .abandoned
  | @refused cause _ kept =>
    by_cases duplicate : cause.IsDuplicate
    · have reach₂ : s₂.store.Reachable := same.store ▸ reach
      obtain ⟨known', same'⟩ := Crediting.known_of_duplicate reach₂ served duplicate
      show Handler.Ends s _ (conclude (if cause.IsDuplicate then _ else _) s')
      rw [if_pos duplicate]
      exact .done ⟨rfl, source, 0, ⟨0, 0⟩, known, .inr ⟨same.store ▸ known', same.trans same'⟩⟩
    · show Handler.Ends s _ (conclude (if cause.IsDuplicate then _ else _) s')
      rw [if_neg duplicate]
      exact ends_fail _ kept
  | done holds =>
    obtain ⟨share, now, receipt, committed, -⟩ := holds
    exact .done ⟨rfl, source, share, now, known, .inl ⟨receipt, committed⟩⟩

/-- **A request that is posted** is rejected, or it is carried out. -/
theorem ends_handle (server : Server) {found : Found} {r : Request} (post : r.method = "POST")
    (allowed : r.method ∈ found.route.methods) :
    Handler.Ends s (Done s found r) ((handle server found r).conclude s₁) := by
  obtain ⟨route, captured⟩ := found
  rw [post] at allowed
  cases route with
  | users =>
    refine .after (performs_body Signup.reader r) same fun form s₂ same read => ?_
    refine .bind (ends_signup reach same form) fun u s' ⟨referrer, now, committed⟩ => ?_
    exact .done (.written (.signup rfl read) committed rfl)
  | rewards part =>
    refine .after (performs_identifier captured part) same fun id s₂ same ⟨name, named, user⟩ => ?_
    refine .bind (ends_claimReward reach same id) ?_
    rintro i s' ⟨c, receipt, rfl, committed, rfl⟩
    exact .done (.written (.reward rfl named user) committed rfl)
  | withdrawals part =>
    refine .after (performs_identifier captured part) same fun id s₂ same ⟨name, named, user⟩ => ?_
    rw [if_pos post]
    refine .after (performs_body Payout.reader r) same fun p s₃ same read => ?_
    refine .bind (ends_withdraw reach same id p) fun w s' ⟨address, now, own, committed⟩ => ?_
    exact .done (.written (.payout rfl named user read own) committed rfl)
  | advance =>
    refine .after (performs_body Advance.reader r) same fun a s₂ same read => ?_
    refine .bind (ends_advance reach same a) fun n s' ⟨now, committed⟩ => ?_
    exact .done (.written (.batch rfl read) committed rfl)
  | callbacks part =>
    refine .after (performs_onlyName captured part) same fun name s₂ same named => ?_
    refine .after (performs_body PartnerNotice.reader r) same fun n s₃ same read => ?_
    refine (ends_takeNotice reach same server.token (String.ofList name) r n).mono ?_
    rintro response s' ⟨rfl, source, share, now, known, ⟨receipt, committed⟩ | ⟨before, same⟩⟩
    · exact .written (.event rfl named known read) committed rfl
    · exact .repeated (.event rfl named known read) before same
  | _ => exact absurd allowed (show "POST" ∉ ["GET", "HEAD"] by decide)

end Handlers

/-! ## What a server answers -/

/-- **What a request comes to** that is served: it is abandoned, or it is answered with what
was to be shown. -/
inductive Ends (K : Response → Service Memory → Prop) : Outcome Response × Service Memory → Prop
  | abandoned {s' : Service Memory} : Ends K (.error .outOfRange, s')
  | answered {response : Response} {s' : Service Memory} (holds : K response s') :
    Ends K (.ok response, s')

/-- **What a request did** that is answered. -/
inductive Answered (server : Server) (r : Request) (s : Service Memory) :
    Response → Service Memory → Prop
  | failed {response : Response} {s' : Service Memory} (told : ¬ response.Succeeded)
    (kept : s.Kept s') : Answered server r s response s'
  | looked {response : Response} {s' : Service Memory} (reading : r.method ≠ "POST")
    (same : s.Same s') : Answered server r s response s'
  | carriedOut {found : Found} {response : Response} {s' : Service Memory}
    (post : r.method = "POST")
    (route : findRoute? server.base server.metrics r.path = some found)
    (done : Done s found r response s') : Answered server r s response s'

section Answer

variable {server : Server} {r : Request} {s : Service Memory}

/-- What can be shown of every answer holds if the request is answered. -/
theorem Ends.mono {K L : Response → Service Memory → Prop} {x : Outcome Response × Service Memory}
    (h : Ends K x) (weaker : ∀ response s', K response s' → L response s') : Ends L x := by
  cases h with
  | abandoned => exact .abandoned
  | answered holds => exact .answered (weaker _ _ holds)

/-- The response is made up once the request was served. -/
theorem Ends.finish {K L : Response → Service Memory → Prop} {x : ServiceStep Response}
    {f : Response → Response} (h : Ends K (x.serve s))
    (holds : ∀ response s', K response s' → L (f response) s') :
    Ends L ((x >>= fun response => pure (f response)).serve s) := by
  cases served : x.serve s with
  | mk o s' =>
    rw [served] at h
    cases h with
    | abandoned =>
      rw [ServiceStep.serve_bind_of_error served]
      exact .abandoned
    | answered k =>
      rw [ServiceStep.serve_bind_of_ok served]
      exact .answered (holds _ _ k)

/-- A rejection becomes a response that is none of success. -/
theorem ends_response {K L : Response → Service Memory → Prop} {h : Handler Response}
    (ends : Handler.Ends s K (h.conclude s)) (holds : ∀ response s', K response s' → L response s')
    (fails : ∀ response s', ¬ response.Succeeded → s.Kept s' → L response s') :
    Ends L (h.response.serve s) := by
  unfold Handler.response
  change Handler.Ends s K (ServiceStep.serve h.run s) at ends
  cases served : ServiceStep.serve h.run s with
  | mk o s' =>
    rw [served] at ends
    cases ends with
    | abandoned =>
      rw [ServiceStep.serve_bind_of_error served]
      exact .abandoned
    | rejected told kept =>
      rw [ServiceStep.serve_bind_of_ok served]
      exact .answered (fails _ _ told kept)
    | done k =>
      rw [ServiceStep.serve_bind_of_ok served]
      exact .answered (holds _ _ k)

namespace Answered

variable {response : Response} {s' : Service Memory}

/-- A request that was not carried out left no trace. -/
theorem kept (h : Answered server r s response s') (told : ¬ response.Succeeded) : s.Kept s' := by
  cases h with
  | failed _ kept => exact kept
  | looked _ same => exact same.kept
  | carriedOut _ _ done => exact absurd done.succeeded told

/-- Whoever is answered did not disable the store. -/
theorem disabled (h : Answered server r s response s') :
    s'.store.disabled = s.store.disabled := by
  have undone (kept : s.Kept s') : s'.store.disabled = s.store.disabled := by
    obtain ⟨cause, same⟩ := kept.store
    rw [same]
    unfold Memory.disarmedBy
    split <;> rfl
  cases h with
  | failed _ kept => exact undone kept
  | looked _ same => exact undone same.kept
  | carriedOut _ _ done =>
    cases done with
    | written _ committed => rw [committed.store]
    | repeated _ _ same => exact undone same.kept

/-- A response without its content has the same status. -/
theorem withoutContent (h : Answered server r s response s') (head : r.method = "HEAD") :
    Answered server r s response.withoutContent s' := by
  cases h with
  | failed told kept =>
    refine .failed (fun succeeded => told ?_) kept
    unfold Response.withoutContent at succeeded
    split at succeeded <;> exact succeeded
  | looked reading same => exact .looked reading same
  | carriedOut post =>
    rw [head] at post
    exact absurd post (by decide)

end Answered

/-- **Every request is abandoned or answered**, and its answer is one of these. -/
theorem ends_respond (server : Server) (r : Request) (reach : s.store.Reachable) :
    Ends (Answered server r s) ((server.respond r).serve s) := by
  have finish {x : ServiceStep Response} (h : Ends (Answered server r s) (x.serve s)) :
      Ends (Answered server r s) ((x >>= fun response =>
        pure (if r.method = "HEAD" then response.withoutContent else response)).serve s) := by
    refine h.finish fun response s' answered => ?_
    split
    · next head => exact answered.withoutContent head
    · exact answered
  unfold Server.respond
  dsimp only
  split
  · next options =>
    refine finish (.answered (.looked (fun post => ?_) (.refl s)))
    rw [options] at post
    exact absurd post (by decide)
  · split
    · exact finish (.answered (.failed (by decide) (Service.Same.refl s).kept))
    · next found route =>
      split
      · next allowed =>
        refine finish ?_
        by_cases post : r.method = "POST"
        · exact ends_response (ends_handle reach (.refl s) server post allowed)
            (fun _ _ done => .carriedOut post route done) fun _ _ => .failed
        · exact ends_response ((performs_handle_of_reading server post allowed).looks (.refl s))
            (fun _ _ looked => .looked post looked.1) fun _ _ => .failed
      · exact finish (.answered (.failed (of_decide_eq_false rfl) (Service.Same.refl s).kept))

end Answer

end Api

end RewardLedger
