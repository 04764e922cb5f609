import RewardLedger.Api.Router
import RewardLedger.Proofs.Requests.Ending

/-!
# What a handler leaves

A handler rejects a request for many reasons, and each of them becomes a status of
its own. None of these statuses says that the request was carried out, and whoever
is rejected finds everything as it was.

Which effects a handler may perform, and which values it may come to, is said of it as
a program, whatever it is told (`Handler.Performs`). Taking a request apart performs
nothing, and asking the ledger performs only what looks. A handler that performs only
what looks comes to its value, or to a rejection, without anything having happened
(`Performs.looks`), so what it comes to in the end is settled by the parts that write.
-/

namespace RewardLedger.Api

/-- **The status says that the request was carried out.** -/
def Response.Succeeded (r : Response) : Prop := 200 ≤ r.status ∧ r.status < 300

instance (r : Response) : Decidable r.Succeeded := inferInstanceAs (Decidable (_ ∧ _))

/-- No failure is told like a success. -/
theorem Response.not_succeeded_ofFailure (f : Failure) : ¬ (Response.ofFailure f).Succeeded := by
  cases f <;> exact of_decide_eq_false rfl

/-- A status that refuses to hand a connection over is none of success. -/
theorem Upgrade.not_succeeded_refusal {r : Request} {status : Nat}
    (refused : refusal? r = some status) : ¬ (Response.unusable status).Succeeded := by
  have statuses : status ∈ [405, 400, 426] := by
    unfold refusal? at refused
    split at refused
    · simp_all
    · split at refused
      · simp_all
      · split at refused <;> simp_all
  have all : ∀ status ∈ [405, 400, 426], ¬ (Response.unusable status).Succeeded := by decide
  exact all status statuses

namespace Handler

variable {α β : Type}

/-! ## The ends of a handler -/

/-- **A handler is served to its end**, with nothing in between. -/
def conclude (h : Handler α) (s : Service Memory) :
    Outcome (Except Rejection α) × Service Memory :=
  ServiceStep.serve h.run s

/-- **What a handler comes to** that is served for a request which found a service: it is
abandoned, or it rejects the request and nothing happened, or it comes to a value with
what was to be shown of it. -/
inductive Ends (s : Service Memory) (K : α → Service Memory → Prop) :
    Outcome (Except Rejection α) × Service Memory → Prop
  | abandoned {s' : Service Memory} : Ends s K (.error .outOfRange, s')
  | rejected {why : Rejection} {s' : Service Memory} (told : ¬ why.response.Succeeded)
    (kept : s.Kept s') : Ends s K (.ok (.error why), s')
  | done {a : α} {s' : Service Memory} (holds : K a s') : Ends s K (.ok (.ok a), s')

variable {s s₁ : Service Memory} {K : α → Service Memory → Prop} {L : β → Service Memory → Prop}

theorem Ends.mono {K' : α → Service Memory → Prop}
    {r : Outcome (Except Rejection α) × Service Memory} (h : Ends s K r)
    (weaker : ∀ a s', K a s' → K' a s') : Ends s K' r := by
  cases h with
  | abandoned => exact .abandoned
  | rejected told kept => exact .rejected told kept
  | done holds => exact .done (weaker _ _ holds)

/-- A handler in two parts comes to what its parts come to. -/
theorem Ends.bind {x : Handler α} {f : α → Handler β} (hx : Ends s K (x.conclude s₁))
    (hf : ∀ a s', K a s' → Ends s L ((f a).conclude s')) :
    Ends s L ((x >>= f).conclude s₁) := by
  show Ends s L (ServiceStep.serve (x.run >>= ExceptT.bindCont f) s₁)
  change Ends s K (ServiceStep.serve x.run s₁) at hx
  cases first : ServiceStep.serve x.run s₁ with
  | mk o s' =>
    rw [first] at hx
    cases hx with
    | abandoned =>
      rw [ServiceStep.serve_bind_of_error first]
      exact .abandoned
    | rejected told kept =>
      rw [ServiceStep.serve_bind_of_ok first]
      exact .rejected told kept
    | done holds =>
      rw [ServiceStep.serve_bind_of_ok first]
      exact hf _ _ holds

/-- A handler that fails tells so. -/
theorem ends_fail (f : Failure) (kept : s.Kept s₁) :
    Ends s K ((fail f : Handler α).conclude s₁) :=
  have told : ¬ (Rejection.failure f).response.Succeeded := Response.not_succeeded_ofFailure f
  .rejected told kept

/-- A handler that checks something first fails, or it goes on. -/
theorem ends_check {c : Prop} [Decidable c] (f : Failure) (next : PUnit → Handler β)
    (kept : s.Kept s₁) (passed : ¬ c → Ends s L ((next ⟨⟩).conclude s₁)) :
    Ends s L (conclude (if c then fail f >>= next else next ⟨⟩) s₁) := by
  split
  · exact .bind (ends_fail (K := fun _ _ => False) f kept) fun _ _ never => never.elim
  · next failed => exact passed failed

/-- **A handler that lets the service work** comes to what the service comes to. -/
theorem ends_serve {x : ServiceStep α} (h : ServiceStep.Ends s K (x.serve s₁)) :
    Ends s K ((serve x).conclude s₁) := by
  -- watching is never refused, so the handler goes on with the outcome
  have watched : Ends s (fun o s' => x.serve s₁ = (o, s'))
      (conclude (ExceptT.lift (ServiceStep.observe x)) s₁) := by
    show Ends s _ (ServiceStep.serve (Except.ok <$> ServiceStep.observe x) s₁)
    rw [← bind_pure_comp, ServiceStep.serve_bind_of_ok (ServiceStep.serve_observe x)]
    exact .done rfl
  refine watched.bind fun o s' served => ?_
  rw [served] at h
  cases h with
  | abandoned => exact .abandoned
  | refused kept => exact ends_fail _ kept
  | done holds => exact .done holds

/-! ## What a handler performs -/

/-- **What a handler may come to**: a value, or a rejection that does not tell of a
success. It gives up only where a number left its range. -/
def Allowed (P : α → Prop) : Outcome (Except Rejection α) → Prop
  | .ok (.ok a) => P a
  | .ok (.error why) => ¬ why.response.Succeeded
  | .error fault => fault = .outOfRange

/-- **A handler performs only effects that satisfy a condition**, and the values that it
may come to satisfy another. -/
structure Performs (E : Effect → Prop) (P : α → Prop) (h : Handler α) : Prop where
  program : h.run.run.Yields E (Allowed P)

variable {E : Effect → Prop} {P : α → Prop} {Q : β → Prop}

theorem performs_pure {a : α} (h : P a) : (pure a : Handler α).Performs E P := ⟨h⟩

/-- A handler that fails tells so. -/
theorem performs_fail (f : Failure) : (fail f : Handler α).Performs E P :=
  have told : ¬ (Rejection.failure f).response.Succeeded := Response.not_succeeded_ofFailure f
  ⟨told⟩

/-- A status that is none of success rejects a request. -/
theorem performs_reject {status : Nat} (told : ¬ (Response.unusable status).Succeeded) :
    (reject status : Handler α).Performs E P :=
  have told : ¬ (Rejection.unusable status).response.Succeeded := told
  ⟨told⟩

/-- A handler in two parts performs what its parts perform. -/
theorem Performs.bind {x : Handler α} {f : α → Handler β} (hx : x.Performs E P)
    (hf : ∀ a, P a → (f a).Performs E Q) : (x >>= f).Performs E Q := by
  refine ⟨Program.Yields.bind (p := x.run.run) hx.program fun o allowed => ?_⟩
  obtain fault | why | a := o
  · exact allowed
  · exact allowed
  · exact (hf a allowed).program

/-- Effects that satisfy a condition satisfy a weaker one. -/
theorem Performs.mono {E' : Effect → Prop} {x : Handler α} (h : x.Performs E P)
    (weaker : ∀ e, E e → E' e) : x.Performs E' P :=
  ⟨h.program.mono weaker⟩

/-- A handler that checks something first fails, or it performs what follows. -/
theorem performs_check {c : Prop} [Decidable c] (f : Failure) {next : PUnit → Handler β}
    (passed : ¬ c → (next ⟨⟩).Performs E Q) :
    (if c then fail f >>= next else next ⟨⟩ : Handler β).Performs E Q := by
  split
  · exact (performs_fail (P := fun _ => False) f).bind fun _ never => never.elim
  · next fine => exact passed fine

/-- **Letting the service work** performs what the service performs. -/
theorem performs_serve {x : ServiceStep α} (hx : x.run.Performs E) :
    (serve x).Performs E fun _ => True := by
  -- watching is never refused, so the handler goes on with the outcome
  have observed : (ServiceStep.observe x).run.Yields E fun o => ∃ a, o = .ok a :=
    Program.Yields.bind (p := x.run) hx.yields fun o _ => ⟨o, rfl⟩
  have watched : Handler.Performs E (fun _ => True) (ExceptT.lift (ServiceStep.observe x)) := by
    refine ⟨observed.bind fun o watched => ?_⟩
    obtain ⟨a, rfl⟩ := watched
    trivial
  refine watched.bind fun o _ => ?_
  obtain (_ | _) | _ := o
  · exact performs_fail _
  · exact ⟨rfl⟩
  · exact performs_pure trivial

/-- So does asking the store. -/
theorem performs_ask {op : StoreOp} (h : E (.store op)) :
    (ask op).Performs E fun _ => True :=
  performs_serve (ServiceStep.performs_ask h)

theorem performs_perform {e : Effect} (h : E e) : (perform e).Performs E fun _ => True :=
  performs_serve (ServiceStep.performs_perform h)

/-- What stands after a rejection is never reached. -/
theorem performs_reject_bind {status : Nat} (told : ¬ (Response.unusable status).Succeeded)
    (f : β → Handler α) : (reject status >>= f).Performs E P :=
  (performs_reject (P := fun _ => False) told).bind fun _ never => never.elim

/-! ## Taking a request apart -/

theorem performs_need {status : Nat} (told : ¬ (Response.unusable status).Succeeded)
    (a? : Option α) : (need status a?).Performs E fun a => a? = some a := by
  cases a? with
  | none => exact performs_reject told
  | some a => exact performs_pure rfl

theorem performs_names (captured parts : List (List Char)) :
    (names captured parts).Performs E fun texts =>
      (captured ++ parts).mapM Text.pathPart? = some texts :=
  performs_need (by decide) _

/-- **A path names one thing**: what the base path captured and the part are together
one text. -/
def Names (captured : List (List Char)) (part name : List Char) : Prop :=
  (captured ++ [part]).mapM Text.pathPart? = some [name]

theorem performs_onlyName (captured : List (List Char)) (part : List Char) :
    (onlyName captured part).Performs E (Names captured part) := by
  refine (performs_names captured [part]).bind fun texts named => ?_
  obtain _ | ⟨name, _ | _⟩ := texts
  · exact performs_reject (by decide)
  · exact performs_pure named
  · exact performs_reject (by decide)

theorem performs_identifier (captured : List (List Char)) (part : List Char) :
    (identifier captured part).Performs E fun id =>
      ∃ name, Names captured part name ∧ Text.readAmount? name = some id := by
  refine (performs_onlyName captured part).bind fun name named => ?_
  unfold need
  split
  · next id read => exact performs_pure ⟨name, named, read⟩
  · exact performs_reject (by decide)

theorem performs_identifiers (captured : List (List Char)) (first second : List Char) :
    (identifiers captured first second).Performs E fun _ => True := by
  refine (performs_names captured [first, second]).bind fun texts _ => ?_
  obtain _ | ⟨a, _ | ⟨b, _⟩⟩ := texts
  · exact performs_reject (by decide)
  · exact performs_reject (by decide)
  · exact (performs_need (by decide) _).bind fun _ _ =>
      (performs_need (by decide) _).bind fun _ _ => performs_pure trivial

theorem performs_field? (pairs : List (String × String)) (name : String) :
    (field? pairs name).Performs E fun _ => True := by
  unfold field?
  split
  · exact performs_pure trivial
  · exact performs_pure trivial
  · exact performs_reject (by decide)

theorem performs_number? (pairs : List (String × String)) (name : String) :
    (number? pairs name).Performs E fun _ => True := by
  refine (performs_field? pairs name).bind fun value? _ => ?_
  cases value? with
  | none => exact performs_pure trivial
  | some value => exact (performs_need (by decide) _).bind fun _ _ => performs_pure trivial

theorem performs_page (r : Request) : (page r).Performs E fun _ => True :=
  (performs_number? _ "limit").bind fun _ _ =>
    (performs_number? _ "offset").bind fun _ _ => performs_pure trivial

/-- **A body that is understood** is what the reader finds in it. -/
theorem performs_body (reader : Json.Reader α) (r : Request) :
    (body reader r).Performs E fun a => reader.headOfText r.body = .ok a := by
  have unlabelled : ¬ (Response.unusable 415).Succeeded := by decide
  unfold body
  dsimp only
  split
  · next m _ =>
    by_cases json : m.IsJson
    · rw [if_neg (not_not_intro json)]
      by_cases long : bodyLimit < r.body.utf8ByteSize
      · rw [if_pos long]
        exact performs_reject_bind (by decide) _
      · rw [if_neg long]
        split
        · next a found => exact performs_pure found
        · exact performs_reject (by decide)
        · exact performs_reject (by decide)
    · rw [if_pos json]
      exact performs_reject_bind unlabelled _
  · exact performs_reject_bind unlabelled _

/-! ## Asking the ledger -/

theorem performs_knownReferrer (named : Option Int) :
    (knownReferrer named).Performs Effect.Looks fun _ => True := by
  cases named with
  | none => exact performs_pure trivial
  | some id =>
    have asked : (ServiceStep.observe (ServiceStep.ask (.user id))).run.Performs Effect.Looks :=
      ServiceStep.performs_observe (ServiceStep.performs_ask not_false)
    refine (performs_serve asked).bind fun o _ => ?_
    split
    · exact performs_pure trivial
    · exact performs_pure trivial
    · exact performs_serve trivial

theorem performs_knownSource (name : String) :
    (knownSource name).Performs E fun source => IncomeSource.ofName? name = some source := by
  unfold knownSource
  split
  · next source named => exact performs_pure named
  · exact performs_fail _

theorem performs_listReferees (id : Int) (p : PageRequest) :
    (listReferees id p).Performs Effect.Looks fun _ => True :=
  .bind (performs_ask not_false) fun _ _ => .bind (performs_ask not_false) fun _ _ =>
    performs_pure trivial

theorem performs_incomePage (id : Int) (source : Option IncomeSource) (p : PageRequest) :
    (incomePage id source p).Performs Effect.Looks fun _ => True :=
  .bind (performs_ask not_false) fun _ _ => .bind (performs_ask not_false) fun _ _ =>
    performs_pure trivial

theorem performs_listIncomes (id : Int) (sourceName : Option String) (p : PageRequest) :
    (listIncomes id sourceName p).Performs Effect.Looks fun _ => True := by
  have found : (sourceName.mapM knownSource).Performs Effect.Looks fun _ => True := by
    cases sourceName with
    | none => exact performs_pure trivial
    | some name => exact (performs_knownSource name).bind fun _ _ => performs_pure trivial
  exact found.bind fun source _ =>
    .bind (performs_ask not_false) fun _ _ => performs_incomePage id source p

theorem performs_listRefereeRewards (id referee : Int) (p : PageRequest) :
    (listRefereeRewards id referee p).Performs Effect.Looks fun _ => True :=
  .bind (performs_ask not_false) fun _ _ =>
    performs_check _ fun _ => performs_incomePage referee _ p

theorem performs_listWithdrawals (id : Int) (p : PageRequest) :
    (listWithdrawals id p).Performs Effect.Looks fun _ => True :=
  .bind (performs_ask not_false) fun _ _ => performs_pure trivial

/-! ## The service itself -/

theorem performs_runCheck (check : HealthCheck) :
    (Health.run check).run.Performs Effect.Looks := by
  cases check with
  | fixed result => trivial
  | store =>
    refine ServiceStep.performs_bind (ServiceStep.performs_perform not_false) fun reply => ?_
    obtain (cause | _) | _ := reply <;> trivial

theorem performs_report : Health.report.run.Performs Effect.Looks := by
  refine ServiceStep.performs_bind (ServiceStep.performs_perform trivial) fun checks => ?_
  refine ServiceStep.performs_bind (ServiceStep.performs_mapM (fun check => ?_) checks)
    fun results => ServiceStep.performs_bind (ServiceStep.performs_perform trivial) fun _ => trivial
  exact ServiceStep.performs_bind (performs_runCheck check.2) fun _ => trivial

theorem performs_statusReport : statusReport.Performs Effect.Looks fun _ => True :=
  .bind (performs_perform trivial) fun _ _ => .bind (performs_perform trivial) fun _ _ =>
    .bind (performs_perform trivial) fun _ _ => .bind (performs_perform trivial) fun _ _ =>
      .bind (performs_perform trivial) fun _ _ => performs_pure trivial

/-- **A request that is not posted** performs only what looks. -/
theorem performs_handle_of_reading (server : Server) {found : Found} {r : Request}
    (reading : r.method ≠ "POST") (allowed : r.method ∈ found.route.methods) :
    (handle server found r).Performs Effect.Looks fun _ => True := by
  obtain ⟨route, captured⟩ := found
  cases route with
  | health => exact .bind (performs_serve performs_report) fun _ _ => performs_pure trivial
  | status => exact .bind performs_statusReport fun _ _ => performs_pure trivial
  | metrics => exact .bind (performs_perform trivial) fun _ _ => performs_pure trivial
  | feed =>
    unfold handle
    dsimp only
    split
    · next status refused => exact performs_reject (Upgrade.not_succeeded_refusal refused)
    · exact performs_pure trivial
  | user part =>
    exact .bind (performs_identifier _ _) fun _ _ => .bind (performs_ask not_false) fun _ _ =>
      performs_pure trivial
  | referees part =>
    exact .bind (performs_identifier _ _) fun _ _ => .bind (performs_page r) fun _ _ =>
      .bind (performs_listReferees _ _) fun _ _ => performs_pure trivial
  | incomes part =>
    exact .bind (performs_identifier _ _) fun _ _ => .bind (performs_field? _ _) fun _ _ =>
      .bind (performs_page r) fun _ _ => .bind (performs_listIncomes _ _ _) fun _ _ =>
        performs_pure trivial
  | refereeIncomes part referee =>
    exact .bind (performs_identifiers _ _ _) fun _ _ => .bind (performs_page r) fun _ _ =>
      .bind (performs_listRefereeRewards _ _ _) fun _ _ => performs_pure trivial
  | withdrawals part =>
    refine .bind (performs_identifier _ _) fun _ _ => ?_
    rw [if_neg reading]
    exact .bind (performs_page r) fun _ _ => .bind (performs_listWithdrawals _ _) fun _ _ =>
      performs_pure trivial
  | users | rewards | advance | callbacks =>
    exact absurd (List.mem_singleton.1 allowed) reading

/-! ## Looking around -/

/-- **A handler only looks**: it leaves everything as it was, and what it comes to is as
was to be shown. -/
def Looks (h : Handler α) (P : α → Prop) : Prop :=
  ∀ ⦃s s₁ : Service Memory⦄, s.Same s₁ → Ends s (fun a s' => s.Same s' ∧ P a) (h.conclude s₁)

/-- **A handler that performs only what looks** only looks. -/
theorem Performs.looks {h : Handler α} (looks : h.Performs Effect.Looks P) : h.Looks P := by
  intro s s₁ same
  have left : s.Same (h.conclude s₁).2 := same.trans (looks.program.performs.same s₁)
  have allowed : Allowed P (h.conclude s₁).1 := looks.program.run _ s₁
  generalize h.conclude s₁ = r at left allowed ⊢
  obtain ⟨fault | why | a, s'⟩ := r
  · cases allowed
    exact .abandoned
  · exact .rejected allowed left.kept
  · exact .done ⟨left, allowed⟩

/-- A handler that looks first goes on from where nothing happened. -/
theorem Ends.after {x : Handler α} {f : α → Handler β} (hx : x.Performs Effect.Looks P)
    (same : s.Same s₁) (hf : ∀ a s', s.Same s' → P a → Ends s L ((f a).conclude s')) :
    Ends s L ((x >>= f).conclude s₁) :=
  (hx.looks same).bind fun a s' h => hf a s' h.1 h.2

end Handler

end RewardLedger.Api
