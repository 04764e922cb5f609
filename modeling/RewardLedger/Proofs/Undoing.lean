import RewardLedger.Proofs.Records
import RewardLedger.Proofs.Store.Rollback

/-!
# Any unit is taken back

Each unit of a store makes a few writes, in an order of its own. Going back depends on
neither: it leads to the tables that the unit began with after **any** writes, made in any
order and as often as one likes, to rows that were there and to rows that the unit put
there itself (`rollback_inverts`).

The only writes that could not be taken back are those that would break the index of the
emails. Taking back a new user takes the email out of the index, so the email must not
have been there before: nobody may have had it, and everybody whose row is changed has to
keep the email that the index knows. `Admits` says so, and what is admitted keeps the index
right for the writes that follow.
-/

namespace RewardLedger

namespace Tables

variable {t : Tables} {u before : User}

/-- Users stay under their identifiers when one is put. -/
theorem UsersKeyed.insert (keyed : t.UsersKeyed) (u : User) :
    { t with users := t.users.insert u.id u }.UsersKeyed :=
  Table.keyed_insert keyed u

/-- **The index stays right** when the row of a user changes who keeps the email. -/
theorem EmailsIndexed.insert (h : t.EmailsIndexed) (hb : t.users.get? u.id = some before)
    (same : u.email = before.email) :
    { t with users := t.users.insert u.id u }.EmailsIndexed := by
  intro email id
  refine (h email id).trans ?_
  rw [Table.get?_insert]
  by_cases hid : id = u.id
  · rw [if_pos hid, hid, hb]
    simp [same]
  · rw [if_neg hid]

end Tables

namespace WriteUnit

/-- **One write** in the middle of a unit. -/
inductive Write where
  /-- Change the row of a user, if there is one. -/
  | changeUser (id : Int) (change : User → User)
  | addUser (user : User)
  /-- Change the row of a withdrawal, if there is one. -/
  | changeWithdrawal (id : Int) (change : Withdrawal → Withdrawal)
  | putWithdrawal (withdrawal : Withdrawal)
  /-- Add to the total of a day. -/
  | addToDay (day : Day) (amount : Int)
  /-- Remember an event, if it is not remembered yet. -/
  | addEvent (event : PartnerEvent)
  | addIncome (income : Income)
  | addPolicy (policy : RewardPolicy)
  | addBand (band : RewardBand)
  | nextUser
  | nextIncome
  | nextWithdrawal

/-- The unit after one more write. -/
def perform (w : WriteUnit) : Write → WriteUnit
  | .changeUser id change =>
    match w.tables.users.get? id with
    | none => w
    | some u => w.putUser (change u)
  | .addUser u => w.addUser u
  | .changeWithdrawal id change =>
    match w.tables.withdrawals.get? id with
    | none => w
    | some x => w.putWithdrawalAt id (change x)
  | .putWithdrawal x => w.putWithdrawal x
  | .addToDay day amount => w.putDayTotal day (w.tables.totalOf day + amount)
  | .addEvent e => if e ∈ w.tables.events then w else w.addEvent e
  | .addIncome i => w.addIncome i
  | .addPolicy p => w.addPolicy p
  | .addBand b => w.addBand b
  | .nextUser => w.nextUser
  | .nextIncome => w.nextIncome
  | .nextWithdrawal => w.nextWithdrawal

/-- **What may be written.** Whoever's row is changed keeps the identifier and the email,
a new user has an identifier and an email that nobody has, and the total of a day stays in
range. Nothing else is asked for. -/
def Admits (w : WriteUnit) : Write → Prop
  | .changeUser id change =>
    ∀ u ∈ w.tables.users.get? id, (change u).id = u.id ∧ (change u).email = u.email
  | .addUser u =>
    w.tables.users.get? u.id = none ∧ ∀ v ∈ w.tables.users.values, v.email ≠ u.email
  | .addToDay day amount => Amount.Fits (w.tables.totalOf day + amount)
  | _ => True

instance (w : WriteUnit) : (x : Write) → Decidable (w.Admits x)
  | .changeUser id change => inferInstanceAs (Decidable (∀ u ∈ w.tables.users.get? id,
      (change u).id = u.id ∧ (change u).email = u.email))
  | .addUser u => inferInstanceAs (Decidable
      (w.tables.users.get? u.id = none ∧ ∀ v ∈ w.tables.users.values, v.email ≠ u.email))
  | .addToDay day amount =>
    inferInstanceAs (Decidable (Amount.Fits (w.tables.totalOf day + amount)))
  | .changeWithdrawal .. | .putWithdrawal .. | .addEvent .. | .addIncome .. | .addPolicy ..
  | .addBand .. | .nextUser | .nextIncome | .nextWithdrawal => .isTrue trivial

/-- The unit after writes, first to last. -/
def performAll (w : WriteUnit) (writes : List Write) : WriteUnit := writes.foldl perform w

/-- Each of the writes may be made when its turn comes. -/
def AdmitsAll (w : WriteUnit) : List Write → Prop
  | [] => True
  | x :: rest => w.Admits x ∧ (w.perform x).AdmitsAll rest

instance decidableAdmitsAll (w : WriteUnit) : (writes : List Write) →
    Decidable (w.AdmitsAll writes)
  | [] => .isTrue trivial
  | x :: rest =>
    have := decidableAdmitsAll (w.perform x) rest
    inferInstanceAs (Decidable (w.Admits x ∧ (w.perform x).AdmitsAll rest))

/-- **What every write keeps**: going back leads to the tables `t`, users stand under their
identifiers, and the index of the emails is right. -/
structure Revertible (w : WriteUnit) (t : Tables) : Prop where
  began : w.BeganOn t
  keyed : w.tables.UsersKeyed
  indexed : w.tables.EmailsIndexed

namespace Revertible

variable {w : WriteUnit} {t : Tables}

/-- Writes to other tables concern neither the users nor their emails. -/
theorem of_users {w' : WriteUnit} (h : w.Revertible t) (began : w'.BeganOn t)
    (users : w'.tables.users = w.tables.users) (emails : w'.tables.emails = w.tables.emails) :
    w'.Revertible t where
  began := began
  keyed := by
    unfold Tables.UsersKeyed
    rw [users]
    exact h.keyed
  indexed := by
    unfold Tables.EmailsIndexed Tables.userOfEmail?
    rw [users, emails]
    exact h.indexed

/-- A user can be changed who keeps the identifier and the email. -/
theorem changeUser (h : w.Revertible t) {id : Int} {change : User → User}
    (admitted : w.Admits (.changeUser id change)) :
    (w.perform (.changeUser id change)).Revertible t := by
  rw [WriteUnit.perform]
  cases found : w.tables.users.get? id with
  | none => exact h
  | some u =>
    obtain ⟨same, email⟩ := admitted u found
    -- the row stands under its own identifier, and so does the changed one
    have here : w.tables.users.get? (change u).id = some u := by
      rw [same, h.keyed id u found, found]
    exact ⟨h.began.putUser here, h.keyed.insert (change u), h.indexed.insert here email⟩

/-- Somebody new can be registered. -/
theorem addUser (h : w.Revertible t) {u : User} (admitted : w.Admits (.addUser u)) :
    (w.addUser u).Revertible t := by
  obtain ⟨fresh, others⟩ := admitted
  have free : w.tables.userOfEmail? u.email = none := by
    by_contra taken
    obtain ⟨id, v, hv, same⟩ := (h.indexed.taken_iff u.email).1 taken
    exact others v (Table.mem_values_iff.2 ⟨id, hv⟩) same
  exact ⟨h.began.addUser fresh free, h.keyed.insert u, h.indexed.register fresh free⟩

/-- **Every write that is admitted can be taken back.** -/
theorem perform (h : w.Revertible t) {x : Write} (admitted : w.Admits x) :
    (w.perform x).Revertible t := by
  cases x with
  | changeUser id change => exact h.changeUser admitted
  | addUser u => exact h.addUser admitted
  | changeWithdrawal id change =>
    rw [WriteUnit.perform]
    cases w.tables.withdrawals.get? id with
    | none => exact h
    | some x => exact h.of_users (h.began.putWithdrawalAt id (change x)) rfl rfl
  | putWithdrawal x => exact h.of_users (h.began.putWithdrawal x) rfl rfl
  | addToDay day amount => exact h.of_users (h.began.putDayTotal day _) rfl rfl
  | addEvent e =>
    rw [WriteUnit.perform]
    by_cases known : e ∈ w.tables.events
    · rw [if_pos known]
      exact h
    · rw [if_neg known]
      exact h.of_users (h.began.addEvent e) rfl rfl
  | addIncome i => exact h.of_users (h.began.addIncome i) rfl rfl
  | addPolicy p => exact h.of_users (h.began.addPolicy p) rfl rfl
  | addBand b => exact h.of_users (h.began.addBand b) rfl rfl
  | nextUser => exact h.of_users (h.began.count _) rfl rfl
  | nextIncome => exact h.of_users (h.began.count _) rfl rfl
  | nextWithdrawal => exact h.of_users (h.began.count _) rfl rfl

/-- Any number of writes can be taken back. -/
theorem performAll (h : w.Revertible t) {writes : List Write}
    (admitted : w.AdmitsAll writes) : (w.performAll writes).Revertible t := by
  induction writes generalizing w with
  | nil => exact h
  | cons x rest ih => exact ih (h.perform admitted.1) admitted.2

end Revertible

/-- **Going back inverts every unit.** Where users stand under their identifiers and the
emails lead to those who have them: after any writes that are admitted, as many as there
are and in whatever order, going back leads to the tables that the unit began with, to the
rows, the order of the incomes, policies and bands, the totals, the emails, the events and
the identifiers given out. -/
theorem rollback_inverts (t : Tables) (keyed : t.UsersKeyed) (indexed : t.EmailsIndexed)
    (writes : List Write) (admitted : (start t).AdmitsAll writes) :
    ((start t).performAll writes).rollback = t :=
  have begun : (start t).Revertible t := ⟨beganOn_start t, keyed, indexed⟩
  (begun.performAll admitted).began.rollback_eq

/-- A unit that writes rows again and again, among them those of a user and of a
withdrawal that it put there itself, and meets an event that is remembered already. -/
theorem rollback_inverts_of_repeated_writes :
    let row (id : Int) (email : String) : User :=
      ⟨id, email, "addr", 3, 0, 0, 0, none, 300, none, ⟨0, 0⟩⟩
    let known : PartnerEvent := ⟨.offerwow, "k", 1⟩
    let t : Tables := { Tables.empty.register (row 1 "a@x") with events := [known] }
    let writes : List Write :=
      [.changeUser 1 ({ · with balance := 5 }), .nextUser, .addUser (row 2 "b@x"),
        .changeUser 2 ({ · with balance := 7 }), .changeUser 1 ({ · with address := "home" }),
        .changeUser 8 ({ · with balance := 9 }), .nextWithdrawal,
        .putWithdrawal ⟨1, 2, "addr", 4, .pending, none, ⟨0, 0⟩, ⟨0, 0⟩⟩,
        .changeWithdrawal 1 ({ · with status := .processing }),
        .changeWithdrawal 1 ({ · with id := 6 }), .addToDay ⟨0⟩ 5, .addToDay ⟨0⟩ 6,
        .addEvent known, .addEvent ⟨.offerwow, "l", 1⟩, .nextIncome,
        .addIncome ⟨1, 1, none, .reward, 5, 0, ⟨0, 0⟩⟩, .addBand ⟨.low, 1, 2, 3⟩]
    let w := (start t).performAll writes
    t.UsersKeyed ∧ t.EmailsIndexed ∧ (start t).AdmitsAll writes
      ∧ (w.tables.users.size, w.tables.totalOf ⟨0⟩, w.journal.length) = (2, 11, 10)
      ∧ w.tables.emails = [("b@x", 2), ("a@x", 1)] ∧ w.rollback = t := by
  intro row known t writes w
  have keyed : t.UsersKeyed := Tables.wellFormed_empty.users_keyed.insert (row 1 "a@x")
  have indexed : t.EmailsIndexed := Tables.gapless_empty.emails.register rfl rfl
  have admitted : (start t).AdmitsAll writes := by decide
  exact ⟨keyed, indexed, admitted, by decide, by decide,
    rollback_inverts t keyed indexed writes admitted⟩

end WriteUnit

end RewardLedger
