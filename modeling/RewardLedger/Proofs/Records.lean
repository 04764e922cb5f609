import RewardLedger.Proofs.Store.Run

/-!
# What was recorded stays

Three tables give out identifiers, each from a counter of its own, and a fourth
finds users by their email. Each is written by a different operation, and what
a refused operation wrote is taken back in two different ways. After every run
that did not leave the range of its numbers they still fit together: the
identifiers in use are 1, 2, 3 and so on without a gap, the counters stand at
the last ones, and the emails lead to exactly the users who have them
(`Tables.Gapless`).

Nothing that was recorded is lost or rewritten either. Of a user only the
balance, the totals and the time of the last reward ever change; the rest is
fixed when the user registers, and is called the **profile** here. A later
state **extends** an earlier one (`Tables.Extends`): every user is there with
the same profile, every withdrawal is there, and the incomes begin with the
earlier ones.
-/

namespace RewardLedger

namespace Tables

variable {t t' : Tables}

/-! ## Later states -/

/-- **The second tables extend the first**: nobody is gone and nobody's profile is
another, no withdrawal is gone, and incomes were only added at the end. -/
structure Extends (t t' : Tables) : Prop where
  users : ∀ k u, t.users.get? k = some u →
    ∃ u', t'.users.get? k = some u' ∧ u'.profile = u.profile
  withdrawals : ∀ k w, t.withdrawals.get? k = some w → ∃ w', t'.withdrawals.get? k = some w'
  incomes : t.incomes <+: t'.incomes

namespace Extends

theorem refl (t : Tables) : t.Extends t where
  users _ u hu := ⟨u, hu, rfl⟩
  withdrawals _ w hw := ⟨w, hw⟩
  incomes := List.prefix_rfl

theorem trans {t'' : Tables} (first : t.Extends t') (second : t'.Extends t'') :
    t.Extends t'' where
  users k u hu := by
    obtain ⟨u', hu', same⟩ := first.users k u hu
    obtain ⟨u'', hu'', same'⟩ := second.users k u' hu'
    exact ⟨u'', hu'', same'.trans same⟩
  withdrawals k w hw := by
    obtain ⟨w', hw'⟩ := first.withdrawals k w hw
    exact second.withdrawals k w' hw'
  incomes := first.incomes.trans second.incomes

end Extends

/-- Rows that are changed in place keep everybody's profile if the change does. -/
theorem exists_profile_map {f : User → User} (keeps : ∀ u, (f u).profile = u.profile) {k : Int}
    {u : User} (hu : t.users.get? k = some u) :
    ∃ u', (t.users.map f).get? k = some u' ∧ u'.profile = u.profile :=
  ⟨f u, Table.get?_map_eq_some_iff.2 ⟨u, hu, rfl⟩, keeps u⟩

/-- **Every step extends the tables.** -/
theorem Step.extends (step : t.Step t') (wf : t.WellFormed) : t.Extends t' where
  users k u hu := by
    cases step with
    | register user now => exact ⟨u, wf.get?_register hu rfl, rfl⟩
    | reward => exact exists_profile_map (fun v => v.profile_post _) hu
    | partner => exact exists_profile_map (fun v => v.profile_post _) hu
    | payOut => exact exists_profile_map (fun v => v.profile_debit _) hu
    | advance | policy | band => exact ⟨u, hu, rfl⟩
  withdrawals k w hw := by
    cases step with
    | payOut order =>
      let new := order.row (t.counters.withdrawals + 1)
      have unused : k ≠ new.id := by
        have bound := wf.withdrawal_le k w hw
        show k ≠ t.counters.withdrawals + 1
        omega
      refine ⟨w, ?_⟩
      show (t.withdrawals.insert new.id new).get? k = some w
      rw [Table.get?_insert, if_neg unused, hw]
    | advance batch current next transaction now =>
      exact ⟨_, Table.get?_map_eq_some_iff.2 ⟨w, hw, rfl⟩⟩
    | _ => exact ⟨w, hw⟩
  incomes := step.incomes_prefix

/-! ## Identifiers without a gap -/

/-- **The index of the emails is right**: it leads from an email to a user exactly
if the user has that email. -/
def EmailsIndexed (t : Tables) : Prop :=
  ∀ email id, t.userOfEmail? email = some id ↔ ∃ u, t.users.get? id = some u ∧ u.email = email

/-- **Identifiers are given out in order and none is left out**, and the emails
lead to the users who have them. -/
structure Gapless (t : Tables) : Prop where
  users : t.users.Numbered
  withdrawals : t.withdrawals.Numbered
  incomes : ∀ (n : Nat) (i : Income), t.incomes[n]? = some i → i.id = n + 1
  counters : t.counters = ⟨t.users.size, t.incomes.length, t.withdrawals.size⟩
  emails : t.EmailsIndexed

theorem gapless_empty : Gapless .empty where
  users := Table.numbered_empty
  withdrawals := Table.numbered_empty
  incomes := by intro n i h; cases h
  counters := rfl
  emails := by
    intro email id
    constructor
    · intro h
      cases h
    · rintro ⟨u, hu, -⟩
      cases hu

/-- Two users never have one email. -/
theorem EmailsIndexed.id_unique (h : t.EmailsIndexed) {a b : Int} {u v : User}
    (hu : t.users.get? a = some u) (hv : t.users.get? b = some v) (same : u.email = v.email) :
    a = b := by
  have first := (h v.email a).2 ⟨u, hu, same⟩
  have second := (h v.email b).2 ⟨v, hv, rfl⟩
  rw [first] at second
  exact Option.some.inj second

/-- An email is taken if somebody has it. -/
theorem EmailsIndexed.taken_iff (h : t.EmailsIndexed) (email : String) :
    t.userOfEmail? email ≠ none ↔ ∃ id u, t.users.get? id = some u ∧ u.email = email := by
  rw [Option.ne_none_iff_exists']
  exact exists_congr fun id => h email id

/-- Taking an email out of an index leaves the others. -/
theorem lookup_filter_of_ne {email taken : String} (h : email ≠ taken)
    (emails : List (String × Int)) :
    (emails.filter fun e => e.1 ≠ taken).lookup email = emails.lookup email := by
  induction emails with
  | nil => rfl
  | cons e rest ih =>
    by_cases he : e.1 = taken
    · rw [List.filter_cons_of_neg (by simpa using he), ih, List.lookup_cons,
        beq_false_of_ne fun same => h (same.trans he)]
    · rw [List.filter_cons_of_pos (by simpa using he), List.lookup_cons, List.lookup_cons, ih]

/-- A look-up of an email after a registration finds the new user under the new
email and the old users under all others. -/
theorem userOfEmail?_register (t : Tables) (u : User) (email : String) :
    (t.register u).userOfEmail? email
      = if email = u.email then some u.id else t.userOfEmail? email := by
  show ((u.email, u.id) :: t.emails.filter fun e => e.1 ≠ u.email).lookup email = _
  by_cases h : email = u.email
  · rw [if_pos h, h, List.lookup_cons_self]
  · rw [if_neg h, List.lookup_cons, beq_false_of_ne h]
    exact lookup_filter_of_ne h t.emails

/-- **The index stays right** if somebody new, under a new identifier, is registered
with an email that nobody has. -/
theorem EmailsIndexed.register (h : t.EmailsIndexed) {new : User}
    (fresh : t.users.get? new.id = none) (free : t.userOfEmail? new.email = none) :
    (t.register new).EmailsIndexed := by
  intro email id
  rw [userOfEmail?_register, get?_users_register]
  by_cases same : email = new.email
  · rw [if_pos same]
    by_cases hid : id = new.id
    · rw [if_pos hid, hid]
      exact iff_of_true rfl ⟨new, rfl, same.symm⟩
    · rw [if_neg hid]
      refine iff_of_false (fun found => hid (Option.some.inj found).symm) ?_
      rintro ⟨u, hu, hemail⟩
      -- nobody had the email before
      have taken := (h new.email id).2 ⟨u, hu, hemail.trans same⟩
      rw [free] at taken
      cases taken
  · rw [if_neg same]
    by_cases hid : id = new.id
    · rw [if_pos hid, h, hid, fresh]
      refine iff_of_false (fun ⟨u, hu, _⟩ => nomatch hu) ?_
      rintro ⟨u, hu, hemail⟩
      cases hu
      exact same hemail.symm
    · rw [if_neg hid]
      exact h email id

namespace Gapless

variable (h : t.Gapless)

include h

/-- The next identifier of a user is that of one more row. -/
theorem next_user : t.counters.users + 1 = t.users.size + 1 := by rw [h.counters]

/-- So is the next identifier of a withdrawal. -/
theorem next_withdrawal : t.counters.withdrawals + 1 = t.withdrawals.size + 1 := by
  rw [h.counters]

/-- **A new user** takes the next identifier, and is found by the new email. -/
theorem register (user : NewUser) (now : Instant) (free : t.userOfEmail? user.email = none) :
    (t.register (user.row (t.counters.users + 1) now)).Gapless where
  users := h.users.insert _ h.next_user
  withdrawals := h.withdrawals
  incomes := h.incomes
  counters := by
    show Counters.mk (t.counters.users + 1) t.counters.incomes t.counters.withdrawals
      = ⟨(t.users.insert (t.counters.users + 1) _).size, _, _⟩
    rw [h.users.size_insert _ h.next_user, h.counters]
    rfl
  emails := by
    refine h.emails.register (Option.eq_none_iff_forall_ne_some.2 fun u hu => ?_) free
    have bound : t.counters.users + 1 ≤ t.users.size := ((h.users _).1 ⟨u, hu⟩).2
    have next := h.next_user
    omega

/-- Rows of users may be changed in place, as long as nobody's profile changes. -/
theorem mapUsers {f : User → User} (keeps : ∀ u, (f u).profile = u.profile) :
    { t with users := t.users.map f }.Gapless where
  users := h.users.map f
  withdrawals := h.withdrawals
  incomes := h.incomes
  counters := by
    rw [Table.size_map]
    exact h.counters
  emails := by
    intro email id
    have same (u : User) : (f u).email = u.email := congrArg Profile.email (keeps u)
    refine (h.emails email id).trans ?_
    constructor
    · rintro ⟨u, hu, hemail⟩
      exact ⟨f u, Table.get?_map_eq_some_iff.2 ⟨u, hu, rfl⟩, (same u).trans hemail⟩
    · rintro ⟨v, hv, hemail⟩
      obtain ⟨u, hu, rfl⟩ := Table.get?_map_eq_some_iff.1 hv
      exact ⟨u, hu, (same u).symm.trans hemail⟩

/-- **An income** takes the next number, and comes last. -/
theorem book {i : Income} (next : i.id = t.counters.incomes + 1) : (t.book i).Gapless :=
  have posted := h.mapUsers (f := (·.post i)) fun u => u.profile_post i
  { posted with
    incomes := by
      intro n j hj
      change (t.incomes ++ [i])[n]? = some j at hj
      rw [List.getElem?_append] at hj
      split at hj
      · exact h.incomes n j hj
      · next long =>
        have last : n = t.incomes.length := by
          have bound := (List.getElem?_eq_some_iff.1 hj).1
          rw [List.length_singleton] at bound
          omega
        rw [last, Nat.sub_self] at hj
        cases hj
        rw [next, h.counters, last]
    counters := by
      show Counters.mk t.counters.users i.id t.counters.withdrawals
        = ⟨(t.users.map _).size, (t.incomes ++ [i]).length, t.withdrawals.size⟩
      rw [next, Table.size_map, List.length_append, h.counters]
      rfl }

/-- **A withdrawal** takes the next identifier. -/
theorem payOut {w : Withdrawal} (next : w.id = t.counters.withdrawals + 1) :
    (t.payOut w).Gapless :=
  have debited := h.mapUsers (f := (·.debit w)) fun u => u.profile_debit w
  have number : w.id = t.withdrawals.size + 1 := next.trans h.next_withdrawal
  { debited with
    withdrawals := h.withdrawals.insert w number
    counters := by
      show Counters.mk t.counters.users t.counters.incomes w.id
        = ⟨(t.users.map _).size, t.incomes.length, (t.withdrawals.insert w.id w).size⟩
      rw [h.withdrawals.size_insert w number, Table.size_map, next, h.counters]
      rfl }

/-- Withdrawals that are moved keep their identifiers. -/
theorem advance (batch : List Int) (current next : WithdrawalStatus)
    (transaction : Option String) (now : Instant) :
    (t.advance batch current next transaction now).Gapless :=
  { h with
    withdrawals := h.withdrawals.map _
    counters := by
      show t.counters = ⟨t.users.size, t.incomes.length, (t.withdrawals.map _).size⟩
      rw [Table.size_map]
      exact h.counters }

/-- **No step leaves a gap.** -/
theorem step (step : t.Step t') : t'.Gapless := by
  cases step with
  | register user now free => exact h.register user now free
  | reward amount offered now hu due hi => exact { h.book (congrArg Income.id hi) with }
  | @partner u i source key amount offered now hu hsource fresh hi =>
    have remembered : (t.remember ⟨source, key, u.id⟩).Gapless := { h with }
    exact remembered.book (congrArg Income.id hi)
  | payOut order => exact h.payOut rfl
  | advance batch current next transaction now => exact h.advance batch current next transaction now
  | policy => exact { h with }
  | band => exact { h with }

end Gapless

end Tables

/-! ## Runs -/

namespace Memory

variable {m : Memory}

/-- The identifiers of a store that is usable have no gap. -/
theorem Reachable.gapless (reach : m.Reachable) (on : m.disabled = false) : m.tables.Gapless :=
  reach.tables Tables.gapless_empty (fun _ _ _ h step => h.step step) on

/-- **A run that leaves the store usable** leads to tables that extend those that
it began with. -/
theorem Reachable.extends_after (reach : m.Reachable) (run : List Command)
    (on : (m.after run).disabled = false) : m.tables.Extends (m.after run).tables := by
  induction run generalizing m with
  | nil => exact .refl _
  | cons c rest ih =>
    have later := ih (reach.perform c) on
    cases reach.moves c with
    | same tables => exact tables ▸ later
    | step on' _ step => exact (step.extends (reach.wellFormed on')).trans later
    | fault _ off =>
      exact absurd ((reach.perform c).usable_of_after rest on) (ne_false_of_eq_true off)

/-- **What a sign-up is answered**: that the email is taken, if somebody has it,
and otherwise the row of a new user under the next identifier. -/
theorem Reachable.answer_createUser (reach : m.Reachable) (on : m.disabled = false)
    (user : NewUser) (now : Instant) :
    (m.answer (.createUser user now)).1
      = if (m.tables.userOfEmail? user.email).isSome then .refuse (.duplicateEmail user.email)
        else .ok (user.row (m.tables.users.size + 1) now) := by
  have ends := reach.writes (show (StoreOp.createUser user now).IsWrite from trivial)
  generalize (m.answer (.createUser user now)).1 = r,
    (m.answer (.createUser user now)).2 = m' at ends ⊢
  cases ends with
  | invalid why => cases why
  | disabled off => exact absurd off (ne_true_of_eq_false on)
  | refused _ why =>
    obtain ⟨taken, rfl⟩ := why
    rw [if_pos (Option.isSome_iff_ne_none.2 taken)]
  | @stopped p _ _ reached => cases p <;> exact reached.elim
  | kept _ _ _ did =>
    obtain ⟨free, rfl, -⟩ := did
    rw [free, (reach.gapless on).next_user]
    rfl
  | outOfRange _ why => exact absurd trivial why

/-- **Records stay.** After every run from an empty store that leaves it usable:
users, incomes and withdrawals are numbered from one without a gap, each row
stands under its own identifier, and whatever belongs to a user belongs to one
who is there, incomes with that user's referrer; the emails lead to exactly the
users who have them, no two users have one email, and a sign-up is refused as a
duplicate exactly for an email that somebody has; and what was recorded at any
earlier moment of the run is still there. -/
theorem records_stay (earlier later : List Command)
    (on : (empty.after (earlier ++ later)).disabled = false) :
    let m := empty.after (earlier ++ later)
    m.tables.WellFormed ∧ m.tables.Gapless
      ∧ (∀ a b u v, m.tables.users.get? a = some u → m.tables.users.get? b = some v →
          u.email = v.email → a = b)
      ∧ (∀ user now, (m.answer (.createUser user now)).1
            = .refuse (.duplicateEmail user.email)
          ↔ ∃ id u, m.tables.users.get? id = some u ∧ u.email = user.email)
      ∧ (∀ user now, (∀ id u, m.tables.users.get? id = some u → u.email ≠ user.email) →
          (m.answer (.createUser user now)).1 = .ok (user.row (m.tables.users.size + 1) now))
      ∧ (empty.after earlier).tables.Extends m.tables := by
  intro m
  have begun : (empty.after earlier).Reachable := Reachable.empty.after earlier
  have reach : m.Reachable := Reachable.empty.after _
  have gapless := reach.gapless on
  have extended : (empty.after earlier).tables.Extends m.tables := by
    show Tables.Extends _ (empty.after (earlier ++ later)).tables
    rw [after_append] at on ⊢
    exact begun.extends_after later on
  refine ⟨reach.wellFormed on, gapless, fun _ _ _ _ => gapless.emails.id_unique, ?_, ?_,
    extended⟩
  · intro user now
    rw [reach.answer_createUser on, ← gapless.emails.taken_iff user.email,
      ← Option.isSome_iff_ne_none]
    split
    · next taken => exact iff_of_true rfl taken
    · next free => exact iff_of_false (fun answered => nomatch answered) free
  · intro user now unused
    rw [reach.answer_createUser on, if_neg]
    rw [Option.isSome_iff_ne_none, gapless.emails.taken_iff user.email]
    rintro ⟨id, u, hu, same⟩
    exact unused id u hu same

/-- A credit that a fail point stopped, an email that was taken, a credit to
nobody and a withdrawal that stopped half way leave no gap behind. -/
theorem records_stay_of_failures :
    let register (email : String) (referrer : Option Int) : Command :=
      .request (.createUser ⟨email, "addr", referrer, 300⟩ ⟨0, 0⟩)
    let credit (key : String) (user : Int) : Command :=
      .request (.creditPartner ⟨.offerwow, key, user, 50, 5, ⟨1, 0⟩⟩)
    let withdraw : Command := .request (.createWithdrawal ⟨2, "addr", 20, ⟨2, 0⟩⟩)
    let earlier : List Command :=
      [register "a@x" none, register "a@x" none, register "b@x" (some 1), .arm .afterIncome,
        credit "k" 2, credit "k" 2]
    let later : List Command := [credit "l" 7, credit "l" 2, .arm .afterDebit, withdraw, withdraw]
    let t := (empty.after (earlier ++ later)).tables
    (empty.after (earlier ++ later)).disabled = false
      ∧ (t.users.size, t.incomes.map (·.id), t.withdrawals.size) = (2, [1, 2], 1)
      ∧ t.Gapless ∧ (empty.after earlier).tables.Extends t := by
  intro register credit withdraw earlier later t
  have on : (empty.after (earlier ++ later)).disabled = false := by decide
  have stay := records_stay earlier later on
  exact ⟨on, by decide, stay.2.1, stay.2.2.2.2.2⟩

end Memory

end RewardLedger
