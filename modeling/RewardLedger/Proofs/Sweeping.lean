import Mathlib.Data.List.TakeWhile
import RewardLedger.Proofs.Serving
import RewardLedger.Proofs.Settling

/-!
# A sweep pays everybody once

A sweep looks up who holds enough and requests a withdrawal of the whole balance
for one user after the other. A request that is refused is made once more, so it has
to be known of the first that it left nothing behind, and of the second that it was
never made after a request that was granted.

While **nobody else asks the store** (`ServesAlone`) a sweep is a **payout**
(`Memory.PaysOut`): one request for each user comes to an end, with or without a fail
point on its way, and whatever the clock shows. All that a sweep does is read off the
payout by induction on its users.
-/

namespace RewardLedger

namespace Text

/-- A text is blank if nothing is left of it when it is trimmed. -/
theorem trim_eq_empty_iff {s : String} : trim s = "" ↔ Blank s := by
  have trimmed : trim s = "" ↔ trimRight (trimLeft s.toList) = [] := by
    rw [trim, ← String.toList_eq_nil_iff, String.toList_ofList]
  rw [trimmed, trimRight, trimLeft, List.reverse_eq_nil_iff, List.dropWhile_eq_nil_iff]
  constructor
  · intro ends
    have all : s.toList.dropWhile isBlank = [] := by
      rw [List.eq_nil_iff_forall_not_mem]
      intro c hc
      -- what is left of a text begins with a character that is not blank
      have first := List.head_dropWhile_not isBlank (List.ne_nil_of_mem hc)
      have blank := ends _ (List.mem_reverse.2 (List.head_mem (List.ne_nil_of_mem hc)))
      rw [blank] at first
      exact absurd first (by decide)
    exact List.dropWhile_eq_nil_iff.1 all
  · intro blank c hc
    exact blank c ((List.dropWhile_sublist _).subset (List.mem_reverse.1 hc))

end Text

/-! ## A store that nobody else asks -/

/-- **Nobody else asks the store**: its requests are answered one after the other, and
no other effect touches it. What the clock shows and what becomes of all the rest is
left open. -/
structure ServesAlone {σ : Type} (handle : (e : Effect) → σ → e.Reply × σ)
    (store : σ → Memory) : Prop where
  reply : ∀ op s, (handle (.store op) s).1 = ((store s).answer op).1
  answered : ∀ op s, store (handle (.store op) s).2 = ((store s).answer op).2
  aside : ∀ e s, e.AsksOnly (fun _ => False) → store (handle e s).2 = store s

/-- A service alone is one way to be alone with a store. -/
theorem Service.servesAlone : ServesAlone (handle Memory.answer) (·.store) where
  reply _ _ := rfl
  answered _ _ := rfl
  aside e s never := by
    show (s.handle Memory.answer e).2.store = s.store
    rw [Effect.store_handle]
    cases e with
    | store op => exact never.elim
    | _ => rfl

/-- A service whose clock goes on with every effect. -/
def Service.ticking (e : Effect) (s : Service Memory) : e.Reply × Service Memory :=
  let (reply, s') := s.handle Memory.answer e
  (reply, { s' with time := { s'.time with seconds := s'.time.seconds + 1 } })

theorem Service.servesAlone_ticking : ServesAlone ticking (·.store) where
  reply _ _ := rfl
  answered _ _ := rfl
  aside e s never := Service.servesAlone.aside e s never

namespace ServesAlone

variable {σ α : Type} {handle : (e : Effect) → σ → e.Reply × σ} {store : σ → Memory}

/-- Whatever program is run leaves a store that can be reached. -/
theorem reachable_run (alone : ServesAlone handle store) (p : Program Effect Effect.Reply α)
    {s : σ} (reach : (store s).Reachable) : (store (p.run handle s).2).Reachable := by
  induction p generalizing s with
  | done a => exact reach
  | call e next ih =>
    refine ih _ ?_
    cases e with
    | store op =>
      rw [alone.answered]
      exact reach.perform (.request op)
    | _ =>
      rw [alone.aside]
      · exact reach
      · trivial

end ServesAlone

/-! ## One withdrawal -/

/-- What a request without an address is refused for. -/
def Settlement.emptyAddress (user : Int) : Error :=
  .invalidAddress ("empty address for user " ++ Text.ofInt user)

/-- The order of the whole balance of a user, to the user's own address. -/
def User.payout (u : User) (now : Instant) : NewWithdrawal := ⟨u.id, u.address, u.balance, now⟩

namespace Memory

/-- **The store after a withdrawal that was granted at last.** A fail point on its way
stopped the first request and is gone. -/
def afterPayout (m : Memory) (w : Withdrawal) : Memory :=
  ⟨m.tables.payOut w, m.armed.filter (· ≠ .afterDebit), m.disabled⟩

section Order

variable {m : Memory} (reach : m.Reachable) (on : m.disabled = false) {u : User}
  (found : m.tables.users.get? u.id = some u) (positive : 0 < u.balance) (now : Instant)

include reach on found positive

/-- The whole balance is granted, if no fail point is on the way. -/
theorem Reachable.grants_payout (clear : m.armed ≠ some .afterDebit) :
    let w := (u.payout now).row (m.tables.counters.withdrawals + 1)
    m.answer (.createWithdrawal (u.payout now)) = (.ok w, m.afterPayout w) := by
  intro w
  have settles : m.SettlesRequest (u.payout now) := reach.settlesRequest on clear positive
  obtain ⟨v, granted⟩ := settles.granted_iff.2 ⟨u, found, Int.le_refl _⟩
  obtain ⟨rfl, left⟩ := settles.granted v granted
  have armed : m.armed.filter (· ≠ .afterDebit) = m.armed := by
    cases h : m.armed with
    | none => rfl
    | some p =>
      exact Option.filter_some_pos (decide_eq_true fun same => clear (h.trans (same ▸ rfl)))
  refine Prod.ext granted (left.trans ?_)
  unfold afterPayout
  rw [armed]

/-- A fail point on the way stops it, and is gone with that. -/
theorem Reachable.stops_payout (armed : m.armed = some .afterDebit) :
    m.answer (.createWithdrawal (u.payout now))
      = (.refuse FailPoint.afterDebit.failure, { m with armed := none }) := by
  have ends := reach.writes (show (StoreOp.createWithdrawal (u.payout now)).IsWrite from trivial)
  have covered : m.tables.Reaches (.createWithdrawal (u.payout now)) .afterDebit :=
    ⟨u, found, Int.le_refl _⟩
  generalize hr : (m.answer (.createWithdrawal (u.payout now))).1 = r,
    hm : (m.answer (.createWithdrawal (u.payout now))).2 = m' at ends
  refine Prod.ext (hr.trans ?_) (hm.trans ?_)
  all_goals
    cases ends with
    | invalid why => cases why
    | disabled off => exact absurd off (ne_true_of_eq_false on)
    | refused _ why => exact absurd (why.1 u found) (Int.lt_irrefl _)
    | stopped _ armed' =>
      cases armed.symm.trans armed'
      rfl
    | kept _ clear => exact absurd covered (clear _ armed)
    | outOfRange _ why => exact absurd (reach.hasRoom_createWithdrawal on positive) why

end Order

end Memory

namespace Settlement

open ServiceStep

variable {σ : Type} {handle : (e : Effect) → σ → e.Reply × σ} {store : σ → Memory} {s : σ}

/-- A request for the whole balance of a user comes to what the store replies to it, at
the time that the clock shows. -/
theorem runWith_request (alone : ServesAlone handle store) {u : User} (positive : 0 < u.balance)
    (written : ¬ Text.Blank u.address) :
    ∃ now s', (request u.id u.address u.balance).runWith handle s
        = (((store s).answer (.createWithdrawal (u.payout now))).1, s')
      ∧ store s' = ((store s).answer (.createWithdrawal (u.payout now))).2 := by
  let shown := (handle .now s).1
  have looked : store (handle .now s).2 = store s := alone.aside _ _ trivial
  have run : (request u.id u.address u.balance).runWith handle s
      = handle (.store (.createWithdrawal (u.payout shown))) (handle .now s).2 := by
    unfold runWith
    rw [run_request positive written]
    rfl
  refine ⟨shown, _, run.trans (Prod.ext ?_ rfl), ?_⟩
  · rw [alone.reply, looked]
  · rw [alone.answered, looked]

/-- A request that comes to anything but a refusal is made once. -/
theorem runWith_requestTwice_of_ok {user amount : Int} {address : String} {w : Withdrawal}
    {s₁ : σ} (first : (request user address amount).runWith handle s = (.ok w, s₁)) :
    (requestTwice user address amount).runWith handle s = (.ok (.ok w), s₁) := by
  refine (runWith_bind_of_ok (runWith_observe _)).trans ?_
  rw [first]
  rfl

/-- A request that is refused is made again, and comes to what the second one does. -/
theorem runWith_requestTwice_of_refused {user amount : Int} {address : String} {cause : Error}
    {s₁ : σ} (first : (request user address amount).runWith handle s = (.refuse cause, s₁)) :
    (requestTwice user address amount).runWith handle s
      = (.ok ((request user address amount).runWith handle s₁).1,
        ((request user address amount).runWith handle s₁).2) := by
  refine (runWith_bind_of_ok (runWith_observe _)).trans ?_
  rw [first]
  exact runWith_observe _

/-- Without an address both requests are refused, and the store is not asked. -/
theorem runWith_requestTwice_of_blank {user amount : Int} {address : String}
    (positive : 0 < amount) (blank : Text.Blank address) :
    (requestTwice user address amount).runWith handle s
      = (.ok (.refuse (emptyAddress user)), s) := by
  have refused : ∀ s : σ, (request user address amount).runWith handle s
      = (.refuse (emptyAddress user), s) := by
    intro s
    unfold request
    rw [if_neg (Int.not_le.2 positive), if_pos blank]
    rfl
  rw [runWith_requestTwice_of_refused (refused s), refused]

/-- **A request that is made twice at most is granted once.** Whatever fail point is
armed, the user's balance is paid out, and paid out by one withdrawal. -/
theorem runWith_requestTwice (alone : ServesAlone handle store) (reach : (store s).Reachable)
    (on : (store s).disabled = false) {u : User}
    (found : (store s).tables.users.get? u.id = some u) (positive : 0 < u.balance)
    (written : ¬ Text.Blank u.address) :
    ∃ now s', (requestTwice u.id u.address u.balance).runWith handle s
        = (.ok (.ok ((u.payout now).row ((store s).tables.counters.withdrawals + 1))), s')
      ∧ store s' = (store s).afterPayout
        ((u.payout now).row ((store s).tables.counters.withdrawals + 1)) := by
  obtain ⟨shown, s₁, first, left⟩ := runWith_request alone (s := s) positive written
  by_cases armed : (store s).armed = some .afterDebit
  · -- the first request is stopped, and the second finds the same tables
    have reach₁ : (store s₁).Reachable := by
      rw [left]
      exact reach.perform (.request (.createWithdrawal (u.payout shown)))
    rw [reach.stops_payout on found positive shown armed] at first left
    obtain ⟨again, s₂, second, left₂⟩ := runWith_request alone (s := s₁) positive written
    rw [reach₁.grants_payout (by rw [left]; exact on) (by rw [left]; exact found) positive again
      (by rw [left]; exact nofun)] at second left₂
    refine ⟨again, s₂, (runWith_requestTwice_of_refused first).trans ?_, left₂.trans ?_⟩
    · rw [second, left]
    · unfold Memory.afterPayout
      rw [left, armed]
      rfl
  · rw [reach.grants_payout on found positive shown armed] at first left
    exact ⟨shown, s₁, runWith_requestTwice_of_ok first, left⟩

end Settlement

/-! ## One withdrawal after the other -/

namespace Memory

open Settlement (Payments emptyAddress)

/-- **A payout** to one user after the other, with what was paid and the store that it
leaves. -/
inductive PaysOut : Memory → List User → Payments → Memory → Prop
  | done (m : Memory) : PaysOut m [] .none m
  | created {m m' : Memory} {u : User} {users : List User} {p : Payments} (now : Instant)
    (found : m.tables.users.get? u.id = some u) (written : ¬ Text.Blank u.address)
    (rest : (m.afterPayout ((u.payout now).row (m.tables.counters.withdrawals + 1))).PaysOut
      users p m') :
    PaysOut m (u :: users)
      (p.withCreated ((u.payout now).row (m.tables.counters.withdrawals + 1))) m'
  | failed {m m' : Memory} {u : User} {users : List User} {p : Payments}
    (blank : Text.Blank u.address) (rest : m.PaysOut users p m') :
    PaysOut m (u :: users) (p.withFailed u.id (emptyAddress u.id)) m'

/-- A payout of the whole balance leaves nothing. -/
theorem debit_payout (u : User) (now : Instant) (id : Int) :
    u.debit ((u.payout now).row id) = { u with balance := 0 } := by
  have all : ((u.payout now).row id).amountFrom u.id = u.balance := if_pos rfl
  unfold User.debit
  rw [all, Int.sub_self]

/-- Nobody else pays for it. -/
theorem debit_payout_of_ne {u v : User} (other : v.id ≠ u.id) (now : Instant) (id : Int) :
    v.debit ((u.payout now).row id) = v := by
  have none : ((u.payout now).row id).amountFrom v.id = 0 := if_neg other.symm
  unfold User.debit
  rw [none, Int.sub_zero]

namespace PaysOut

variable {m m' : Memory} {users : List User} {p : Payments} (h : m.PaysOut users p m')

include h

/-- The withdrawals are those of the users who have an address. -/
theorem created_users : p.created.map (·.user)
    = (users.filter fun u => ¬ Text.Blank u.address).map (·.id) := by
  induction h with
  | done => rfl
  | @created m m' u users p now _ written _ ih =>
    rw [List.filter_cons_of_pos (by simpa using written), List.map_cons, ← ih]
    rfl
  | failed blank _ ih =>
    rw [List.filter_cons_of_neg (by simpa using blank)]
    exact ih

/-- Each of them is for the whole balance of a user. -/
theorem exists_payout {w : Withdrawal} (made : w ∈ p.created) :
    ∃ u ∈ users, ∃ now id, w = (u.payout now).row id := by
  induction h with
  | done => cases made
  | @created m m' u users p now _ _ _ ih =>
    rcases List.mem_cons.1 made with rfl | later
    · exact ⟨u, List.mem_cons_self, now, _, rfl⟩
    · obtain ⟨v, hv, row⟩ := ih later
      exact ⟨v, List.mem_cons_of_mem u hv, row⟩
  | failed _ _ ih =>
    obtain ⟨v, hv, row⟩ := ih made
    exact ⟨v, List.mem_cons_of_mem _ hv, row⟩

/-- A failure is told of everybody else. -/
theorem failed_eq : p.failed
    = (users.filter fun u => Text.Blank u.address).map fun u => (u.id, emptyAddress u.id) := by
  induction h with
  | done => rfl
  | created now _ written _ ih =>
    rw [List.filter_cons_of_neg (by simpa using written)]
    exact ih
  | @failed m m' u users p blank _ ih =>
    rw [List.filter_cons_of_pos (by simpa using blank), List.map_cons, ← ih]
    rfl

/-- The withdrawals come after those that were there. -/
theorem withdrawals_eq (wf : m.tables.WellFormed) :
    m'.tables.withdrawals.values = m.tables.withdrawals.values ++ p.created := by
  induction h with
  | done => exact (List.append_nil _).symm
  | @created m m' u users p now found _ _ ih =>
    let w := (u.payout now).row (m.tables.counters.withdrawals + 1)
    have last : (m.tables.payOut w).withdrawals.values = m.tables.withdrawals.values ++ [w] :=
      Table.values_insert_of_lt w fun k x hx => Int.lt_add_one_of_le (wf.withdrawal_le k x hx)
    refine (ih (wf.payOut found rfl)).trans ?_
    show (m.tables.payOut w).withdrawals.values ++ p.created = _
    rw [last, List.append_assoc]
    rfl
  | failed _ _ ih => exact ih wf

/-- Whoever is paid has nothing left, and nobody else is touched. -/
theorem get?_users (wf : m.tables.WellFormed) (id : Int) :
    m'.tables.users.get? id = (m.tables.users.get? id).map fun u =>
      if id ∈ p.created.map (·.user) then { u with balance := 0 } else u := by
  induction h with
  | done m =>
    rw [show Payments.none.created = [] from rfl, List.map_nil]
    simp
  | @created m m' u users p now found _ _ ih =>
    let w := (u.payout now).row (m.tables.counters.withdrawals + 1)
    rw [ih (wf.payOut found rfl)]
    show ((m.tables.users.map (·.debit w)).get? id).map _ = _
    rw [Table.get?_map, Option.map_map]
    have member : id ∈ (p.withCreated w).created.map (·.user)
        ↔ id = u.id ∨ id ∈ p.created.map (·.user) := List.mem_cons
    refine Option.map_congr fun v hv => ?_
    rw [Function.comp_apply]
    by_cases paid : id = u.id
    · have same : v = u := by
        rw [paid, found] at hv
        exact (Option.some.inj hv).symm
      rw [same, debit_payout, if_pos (member.2 (.inl paid)), ite_self]
    · have other : v.id ≠ u.id := by rwa [wf.users_keyed id v hv]
      rw [debit_payout_of_ne other]
      exact if_congr (member.trans (or_iff_right paid)).symm rfl rfl
  | failed _ _ ih => exact ih wf

/-- Nothing else of the tables is touched. -/
theorem tables_eq : m'.tables = { m.tables with
    users := m'.tables.users
    withdrawals := m'.tables.withdrawals
    counters := { m.tables.counters with
      withdrawals := m.tables.counters.withdrawals + p.created.length } } := by
  induction h with
  | done => simp [Payments.none]
  | @created m m' u users p now _ _ _ ih =>
    refine ih.trans ?_
    have number : m.tables.counters.withdrawals + 1 + (p.created.length : Int)
        = m.tables.counters.withdrawals + ((p.created.length + 1 : Nat) : Int) := by omega
    show ({ m.tables with
      users := _
      withdrawals := _
      counters := { m.tables.counters with
        withdrawals := m.tables.counters.withdrawals + 1 + (p.created.length : Int) } } : Tables)
      = _
    rw [number]
    rfl
  | failed _ _ ih => exact ih

/-- The fail point on the way is met once, if anything is paid. -/
theorem armed_eq : m'.armed
    = if p.created = [] then m.armed else m.armed.filter (· ≠ .afterDebit) := by
  induction h with
  | done => rfl
  | @created m m' u users p now _ _ _ ih =>
    rw [if_neg (show ¬ (p.withCreated _).created = [] from nofun), ih]
    split
    · rfl
    · show (m.armed.filter _).filter _ = _
      rw [Option.filter_filter]
      simp
  | failed _ _ ih => exact ih

theorem disabled_eq : m'.disabled = m.disabled := by
  induction h with
  | done => rfl
  | created _ _ _ _ ih => exact ih
  | failed _ _ ih => exact ih

end PaysOut

end Memory

/-- **Paying users one after the other is a payout**, if each of them still has the row
that was looked up. -/
theorem Settlement.runWith_payAll {σ : Type} {handle : (e : Effect) → σ → e.Reply × σ}
    {store : σ → Memory} (alone : ServesAlone handle store) {s : σ}
    (reach : (store s).Reachable) (on : (store s).disabled = false) {users : List User}
    (ascending : users.Pairwise fun a b => a.id < b.id)
    (due : ∀ u ∈ users, (store s).tables.users.get? u.id = some u ∧ 0 < u.balance) :
    ∃ p s', (payAll users).runWith handle s = (.ok p, s')
      ∧ (store s).PaysOut users p (store s') := by
  induction users generalizing s with
  | nil => exact ⟨.none, s, rfl, .done _⟩
  | cons u rest ih =>
    obtain ⟨first, ascends⟩ := List.pairwise_cons.1 ascending
    obtain ⟨found, positive⟩ := due u List.mem_cons_self
    by_cases blank : Text.Blank u.address
    · obtain ⟨p, s', ran, pays⟩ :=
        ih reach on ascends fun v hv => due v (List.mem_cons_of_mem u hv)
      refine ⟨p.withFailed u.id (emptyAddress u.id), s', ?_, .failed blank pays⟩
      refine (ServiceStep.runWith_bind_of_ok
        (runWith_requestTwice_of_blank positive blank)).trans ?_
      exact ServiceStep.runWith_bind_of_ok ran
    · obtain ⟨now, s₁, requested, left⟩ :=
        runWith_requestTwice alone reach on found positive blank
      have reach₁ : (store s₁).Reachable := by
        have served := alone.reachable_run (requestTwice u.id u.address u.balance).run reach
        rwa [show (requestTwice u.id u.address u.balance).run.run handle s = _ from requested]
          at served
      have on₁ : (store s₁).disabled = false := by
        rw [left]
        exact on
      -- the rows of those who come later are as they were
      have due₁ : ∀ v ∈ rest, (store s₁).tables.users.get? v.id = some v ∧ 0 < v.balance := by
        intro v hv
        obtain ⟨foundLater, positiveLater⟩ := due v (List.mem_cons_of_mem u hv)
        refine ⟨?_, positiveLater⟩
        rw [left]
        refine Table.get?_map_eq_some_iff.2 ⟨v, foundLater, ?_⟩
        exact Memory.debit_payout_of_ne (Int.ne_of_gt (first v hv)) now _
      obtain ⟨p, s', ran, pays⟩ := ih reach₁ on₁ ascends due₁
      rw [left] at pays
      refine ⟨_, s', ?_, .created now found blank pays⟩
      refine (ServiceStep.runWith_bind_of_ok requested).trans ?_
      exact ServiceStep.runWith_bind_of_ok ran

/-! ## The sweep -/

/-- The user holds enough for a sweep. -/
def User.Due (least : Int) (u : User) : Prop := 0 < u.balance ∧ least ≤ u.balance

instance (least : Int) (u : User) : Decidable (u.Due least) :=
  inferInstanceAs (Decidable (_ ∧ _))

namespace Tables

variable {t : Tables} (wf : t.WellFormed) (least : Int)

include wf

/-- Those who are looked up for a sweep are the users who hold enough. -/
theorem mem_withdrawable {u : User} :
    u ∈ t.withdrawable least ↔ t.users.get? u.id = some u ∧ u.Due least := by
  unfold withdrawable
  rw [List.mem_filter, Table.mem_values_iff_of_keyed wf.users_keyed, decide_eq_true_eq]
  rfl

theorem pairwise_withdrawable : (t.withdrawable least).Pairwise fun a b => a.id < b.id :=
  (Table.pairwise_values wf.users_keyed).filter _

end Tables

namespace Memory

open Settlement (Payments emptyAddress)

/-- **What a sweep comes to**, with what it paid and the store that it leaves. -/
structure Swept (m : Memory) (least : Int) (p : Payments) (m' : Memory) : Prop where
  created_ascends : (p.created.map (·.user)).Pairwise (· < ·)
  failed_ascends : (p.failed.map (·.1)).Pairwise (· < ·)
  disjoint : ∀ id ∈ p.created.map (·.user), id ∉ p.failed.map (·.1)
  /-- Whoever holds enough is told of, and nobody else. -/
  together : ∀ id, id ∈ p.created.map (·.user) ∨ id ∈ p.failed.map (·.1)
    ↔ ∃ u, m.tables.users.get? id = some u ∧ u.Due least
  /-- Those who have no address are refused. -/
  failed : ∀ id cause, (id, cause) ∈ p.failed
    ↔ ∃ u, m.tables.users.get? id = some u ∧ u.Due least ∧ Text.trim u.address = ""
      ∧ cause = .invalidAddress ("empty address for user " ++ Text.ofInt id)
  /-- The others get all that they had, to their own addresses. -/
  created : ∀ w ∈ p.created, ∃ u, m.tables.users.get? w.user = some u ∧ u.Due least
    ∧ w.address = u.address ∧ w.amount = u.balance ∧ w.status = .pending
    ∧ w.transaction = none
    ∧ m'.tables.users.get? w.user = some { u with balance := 0 }
  others : ∀ id, id ∉ p.created.map (·.user) →
    m'.tables.users.get? id = m.tables.users.get? id
  /-- Nobody gets another withdrawal, and those that were there stay as they are. -/
  withdrawals : m'.tables.withdrawals.values = m.tables.withdrawals.values ++ p.created
  rest : m'.tables = { m.tables with
    users := m'.tables.users
    withdrawals := m'.tables.withdrawals
    counters := { m.tables.counters with
      withdrawals := m.tables.counters.withdrawals + p.created.length } }
  /-- A fail point on the way is met once, if anybody is paid. -/
  armed : m'.armed = if p.created = [] then m.armed else m.armed.filter (· ≠ .afterDebit)
  usable : m'.disabled = false

section Swept

variable {m m' : Memory} {least : Int} {p : Payments}
  (h : m.PaysOut (m.tables.withdrawable least) p m') (wf : m.tables.WellFormed)

include h wf

/-- Whoever holds enough and has an address is paid. -/
theorem PaysOut.mem_created_users (id : Int) :
    id ∈ p.created.map (·.user) ↔ ∃ u, m.tables.users.get? id = some u ∧ u.Due least
      ∧ ¬ Text.Blank u.address := by
  rw [h.created_users, List.mem_map]
  constructor
  · rintro ⟨u, hu, rfl⟩
    obtain ⟨due, written⟩ := List.mem_filter.1 hu
    obtain ⟨found, enough⟩ := (Tables.mem_withdrawable wf least).1 due
    exact ⟨u, found, enough, of_decide_eq_true written⟩
  · rintro ⟨u, found, enough, written⟩
    have key := wf.users_keyed id u found
    have due := (Tables.mem_withdrawable wf least).2 ⟨key ▸ found, enough⟩
    exact ⟨u, List.mem_filter.2 ⟨due, decide_eq_true written⟩, key⟩

/-- Whoever holds enough and has no address is refused. -/
theorem PaysOut.mem_failed (id : Int) (cause : Error) :
    (id, cause) ∈ p.failed ↔ ∃ u, m.tables.users.get? id = some u ∧ u.Due least
      ∧ Text.Blank u.address ∧ cause = emptyAddress id := by
  rw [h.failed_eq, List.mem_map]
  constructor
  · rintro ⟨u, hu, same⟩
    obtain ⟨due, blank⟩ := List.mem_filter.1 hu
    obtain ⟨found, enough⟩ := (Tables.mem_withdrawable wf least).1 due
    cases same
    exact ⟨u, found, enough, of_decide_eq_true blank, rfl⟩
  · rintro ⟨u, found, enough, blank, rfl⟩
    have key := wf.users_keyed id u found
    have due := (Tables.mem_withdrawable wf least).2 ⟨key ▸ found, enough⟩
    exact ⟨u, List.mem_filter.2 ⟨due, decide_eq_true blank⟩, by rw [key]⟩

/-- The users of the failures. -/
theorem PaysOut.mem_failed_users (id : Int) :
    id ∈ p.failed.map (·.1) ↔ ∃ u, m.tables.users.get? id = some u ∧ u.Due least
      ∧ Text.Blank u.address := by
  rw [List.mem_map]
  constructor
  · rintro ⟨⟨_, cause⟩, hmem, rfl⟩
    obtain ⟨u, found, enough, blank, -⟩ := (h.mem_failed wf _ cause).1 hmem
    exact ⟨u, found, enough, blank⟩
  · rintro ⟨u, found, enough, blank⟩
    exact ⟨_, (h.mem_failed wf id _).2 ⟨u, found, enough, blank, rfl⟩, rfl⟩

/-- **A payout to all who hold enough is a sweep.** -/
theorem PaysOut.swept (on : m.disabled = false) : m.Swept least p m' where
  created_ascends := by
    rw [h.created_users]
    exact List.pairwise_map.2 ((Tables.pairwise_withdrawable wf least).filter _)
  failed_ascends := by
    rw [h.failed_eq, List.map_map]
    exact List.pairwise_map.2 ((Tables.pairwise_withdrawable wf least).filter _)
  disjoint id paid refused := by
    obtain ⟨u, hu, -, written⟩ := (h.mem_created_users wf id).1 paid
    obtain ⟨v, hv, -, blank⟩ := (h.mem_failed_users wf id).1 refused
    cases hu.symm.trans hv
    exact written blank
  together id := by
    rw [h.mem_created_users wf, h.mem_failed_users wf]
    constructor
    · rintro (⟨u, hu, enough, -⟩ | ⟨u, hu, enough, -⟩) <;> exact ⟨u, hu, enough⟩
    · rintro ⟨u, hu, enough⟩
      by_cases blank : Text.Blank u.address
      · exact .inr ⟨u, hu, enough, blank⟩
      · exact .inl ⟨u, hu, enough, blank⟩
  failed id cause := by
    simp only [h.mem_failed wf, Text.trim_eq_empty_iff]
    rfl
  created w made := by
    obtain ⟨u, due, now, id, rfl⟩ := h.exists_payout made
    obtain ⟨found, enough⟩ := (Tables.mem_withdrawable wf least).1 due
    have paid : u.id ∈ p.created.map (·.user) := List.mem_map.2 ⟨_, made, rfl⟩
    refine ⟨u, found, enough, rfl, rfl, rfl, rfl, (h.get?_users wf u.id).trans ?_⟩
    simp only [found, Option.map_some, if_pos paid]
  others id unpaid := by
    simp only [h.get?_users wf, if_neg unpaid, Option.map_id']
  withdrawals := h.withdrawals_eq wf
  rest := h.tables_eq
  armed := h.armed_eq
  usable := h.disabled_eq.trans on

end Swept

end Memory

namespace Settlement

open ServiceStep

variable {σ : Type} {handle : (e : Effect) → σ → e.Reply × σ} {store : σ → Memory}
  (alone : ServesAlone handle store) {s : σ} (reach : (store s).Reachable)

include alone reach

/-- **A sweep pays everybody once.** For every store that can be reached and is usable,
whichever fail point is armed, whatever the clock shows, and as long as nobody else asks
the store: it ends, and tells of everybody who holds enough exactly once. Those who have
no address are refused and keep what they have. Each of the others gets one withdrawal
of all that there was and has nothing left, so no request is granted twice; and nothing
else of the store is touched. If the store was disabled the sweep is refused before it
pays anybody. -/
theorem sweep_pays_everyone_once (least : Int) :
    ((store s).disabled = false →
        ∃ p s', (sweep least).runWith handle s = (.ok p, s')
          ∧ (store s).Swept least p (store s'))
      ∧ ((store s).disabled = true →
        ∃ s', (sweep least).runWith handle s = (.refuse Memory.disabledError, s')
          ∧ store s' = store s) := by
  have looked : store (handle (.store (.withdrawableUsers least)) s).2 = store s := by
    rw [alone.answered]
    rfl
  have asked : (ask (.withdrawableUsers least)).runWith handle s
      = ((store s).read (·.withdrawable least),
        (handle (.store (.withdrawableUsers least)) s).2) := by
    rw [runWith_ask, alone.reply]
    rfl
  constructor
  · intro on
    have wf := reach.wellFormed on
    rw [Memory.read_of_usable on] at asked
    obtain ⟨p, s', ran, pays⟩ := runWith_payAll alone
      (s := (handle (.store (.withdrawableUsers least)) s).2)
      (by rw [looked]; exact reach) (by rw [looked]; exact on)
      (Tables.pairwise_withdrawable wf least) fun u hu => by
        obtain ⟨found, positive, -⟩ := (Tables.mem_withdrawable wf least).1 hu
        exact ⟨by rw [looked]; exact found, positive⟩
    rw [looked] at pays
    exact ⟨p, s', (runWith_bind_of_ok asked).trans ran, pays.swept wf on⟩
  · intro off
    rw [Memory.read_of_disabled off] at asked
    exact ⟨_, runWith_bind_of_error asked, looked⟩

omit alone reach in
/-- A sweep of four users whose clock goes on with every effect. The first request is
stopped at a fail point and made again; the second user has no address, the third not
enough, and the fourth is paid at once. -/
theorem sweep_pays_everyone_once_of_mixed_users :
    let user (email address : String) : Memory.Command :=
      .request (.createUser ⟨email, address, none, 300⟩ ⟨0, 0⟩)
    let credit (user amount : Int) : Memory.Command :=
      .request (.creditPartner ⟨.offertoro, "k", user, amount, 0, ⟨0, 0⟩⟩)
    let m := Memory.empty.after
      [user "a@x" "one", user "b@x" " ", user "c@x" "three", user "d@x" "four",
        credit 1 100, credit 2 70, credit 3 9, credit 4 10, .arm .afterDebit]
    ∃ s', (sweep 10).runWith Service.ticking (Service.new m 10 ⟨50, 0⟩)
        = (.ok ⟨[⟨1, 1, "one", 100, .pending, none, ⟨53, 0⟩, ⟨53, 0⟩⟩,
              ⟨2, 4, "four", 10, .pending, none, ⟨55, 0⟩, ⟨55, 0⟩⟩],
            [(2, .invalidAddress "empty address for user 2")]⟩, s')
      ∧ m.Swept 10
        ⟨[⟨1, 1, "one", 100, .pending, none, ⟨53, 0⟩, ⟨53, 0⟩⟩,
            ⟨2, 4, "four", 10, .pending, none, ⟨55, 0⟩, ⟨55, 0⟩⟩],
          [(2, .invalidAddress "empty address for user 2")]⟩ s'.store := by
  intro user credit m
  have on : m.disabled = false := by decide +kernel
  obtain ⟨p, s', ran, swept⟩ := (sweep_pays_everyone_once Service.servesAlone_ticking
    (s := Service.new m 10 ⟨50, 0⟩) (Memory.Reachable.empty.after _) 10).1 on
  have paid : ((sweep 10).runWith Service.ticking (Service.new m 10 ⟨50, 0⟩)).1
      = .ok ⟨[⟨1, 1, "one", 100, .pending, none, ⟨53, 0⟩, ⟨53, 0⟩⟩,
          ⟨2, 4, "four", 10, .pending, none, ⟨55, 0⟩, ⟨55, 0⟩⟩],
        [(2, .invalidAddress "empty address for user 2")]⟩ := by decide +kernel
  rw [ran] at paid
  cases paid
  exact ⟨s', ran, swept⟩

omit alone reach in
/-- A sweep of a store that was disabled by a credit is refused, although a user holds
enough. -/
theorem sweep_refused_when_disabled :
    ¬ ∀ s : Service Memory, s.store.Reachable → s.store.armed = none → ∀ least : Int,
      ∃ p s', (sweep least).serve s = (.ok p, s') := by
  intro h
  have overflown := Memory.Reachable.empty.after
    [.request (.createUser ⟨"a@x", "addr", none, 300⟩ ⟨0, 0⟩),
      .request (.creditPartner ⟨.offertoro, "k", 1, 100, 0, ⟨0, 0⟩⟩),
      .request (.creditPartner ⟨.offertoro, "l", 1, Amount.greatest, 0, ⟨0, 0⟩⟩)]
  obtain ⟨p, s', swept⟩ := h (Service.new _ 10 ⟨0, 0⟩) overflown rfl 1
  have refused : (.refuse Memory.disabledError : Outcome Payments) = .ok p :=
    congrArg Prod.fst swept
  cases refused

end Settlement

end RewardLedger
