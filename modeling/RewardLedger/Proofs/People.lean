import Mathlib.Logic.Relation
import RewardLedger.Proofs.Solvency

/-!
# Who is there, and who referred whom

The **people** of a store are the profiles of its users (`Tables.people`). A sign-up adds
one, under an identifier above all others, and nothing else that can be done to a store
changes them, even if it is abandoned half way.

A profile may name a referrer, and a store takes any number for one: its own, a number
that is given out later or never. As long as everybody who signs up names nobody or
somebody who is there, the users are a **forest** (`Tables.Forest`). Then a referrer
always has a row and a smaller identifier than those it referred, so a credit pays to two
different rows, or to one (`Tables.PaysUpward`).
-/

namespace RewardLedger

/-! ## People -/

namespace Tables

variable {t t' : Tables} {k : Int}

/-- **Who is there**: the profiles of the users. -/
def people (t : Tables) : Table Profile := t.users.map (·.profile)

/-- Somebody is there under an identifier. -/
def Has (t : Tables) (id : Int) : Prop := ∃ u, t.users.get? id = some u

/-- With the same people there is a row of the same user. -/
theorem exists_of_people (same : t'.people = t.people) {u' : User}
    (hu : t'.users.get? k = some u') : ∃ u, t.users.get? k = some u ∧ u.profile = u'.profile := by
  have there : t'.people.get? k = some u'.profile := Table.get?_map_eq_some_iff.2 ⟨u', hu, rfl⟩
  rw [same] at there
  exact Table.get?_map_eq_some_iff.1 there

/-- With the same people the same identifiers are there. -/
theorem has_iff_of_people (same : t'.people = t.people) : t'.Has k ↔ t.Has k := by
  constructor
  · rintro ⟨u', hu'⟩
    obtain ⟨u, hu, -⟩ := exists_of_people same hu'
    exact ⟨u, hu⟩
  · rintro ⟨u, hu⟩
    obtain ⟨u', hu', -⟩ := exists_of_people same.symm hu
    exact ⟨u', hu'⟩

/-- Somebody new is there besides all who were. -/
theorem has_register {u : User} (there : t.Has k) : (t.register u).Has k := by
  obtain ⟨v, hv⟩ := there
  unfold Has
  rw [get?_users_register]
  split
  · exact ⟨u, rfl⟩
  · exact ⟨v, hv⟩

/-- **The people do not depend on what they hold**, if their rows stand under their
identifiers. -/
theorem ignoresHoldings_people (keyed : t.UsersKeyed) :
    IgnoresHoldings fun t' => t'.people = t.people where
  put {t₁ t₂ k u v} read hu same h := by
    -- the row that was read is that of the same user at the beginning
    obtain ⟨u₀, hu₀, same₀⟩ := exists_of_people read hu
    have hid : v.id = k := by
      rw [← keyed k u₀ hu₀]
      exact congrArg Profile.id (same.trans same₀.symm)
    have own : t.people.get? v.id = some v.profile := by
      rw [hid, same, ← same₀]
      exact Table.get?_map_eq_some_iff.2 ⟨u₀, hu₀, rfl⟩
    show (t₂.users.insert v.id v).map (·.profile) = t.people
    rw [Table.map_insert, show t₂.users.map (·.profile) = t.people from h,
      Table.insert_of_get? own]
  record _ _ _ _ h := h

end Tables

/-- The request is a sign-up. -/
def StoreOp.Registers : StoreOp → Prop
  | createUser .. => True
  | _ => False

namespace Memory

variable {m : Memory} (reach : m.Reachable)

include reach

/-- **Nothing but a sign-up changes who is there**, even if it is abandoned half way. -/
theorem Reachable.people_answer {op : StoreOp} (never : ¬ op.Registers) :
    (m.answer op).2.tables.people = m.tables.people := by
  cases off : m.disabled with
  | true =>
    cases reach.moves (.request op) with
    | same tables => exact congrArg Tables.people tables
    | step on | fault on => exact absurd off (ne_true_of_eq_false on)
  | false =>
    let P (t : Tables) : Prop := t.people = m.tables.people
    have holdings : Tables.IgnoresHoldings P :=
      Tables.ignoresHoldings_people (reach.wellFormed off).users_keyed
    refine reach.keeps_answer (P := P) rfl ?_
    cases op with
    | createUser => exact absurd trivial never
    | creditReward c => exact UnitStep.keeps_creditRewardHoldings holdings (fun _ _ h => h) c
    | creditPartner c => exact UnitStep.keeps_creditPartnerHoldings holdings c
    | createWithdrawal order =>
      exact UnitStep.keeps_createWithdrawal holdings (fun _ _ h => h) order
    | advanceWithdrawals ids current next transaction now =>
      exact UnitStep.keeps_advance (fun _ _ h => h) ids current next transaction now
    | _ => trivial

/-- **A sign-up adds somebody** under the next identifier, or changes nothing. -/
theorem Reachable.tables_createUser (user : NewUser) (now : Instant) :
    (m.answer (.createUser user now)).2.tables = m.tables
      ∨ m.disabled = false ∧ (m.answer (.createUser user now)).2.tables
        = m.tables.register (user.row (m.tables.counters.users + 1) now) := by
  have ends := reach.writes (show (StoreOp.createUser user now).IsWrite from trivial)
  generalize (m.answer (.createUser user now)).1 = r,
    (m.answer (.createUser user now)).2 = m' at ends ⊢
  cases ends with
  | kept on _ _ did =>
    obtain ⟨-, rfl, rfl⟩ := did
    exact .inr ⟨on, rfl⟩
  | outOfRange _ why => exact absurd trivial why
  | _ => exact .inl rfl

/-- **Whoever is there stays there.** -/
theorem Reachable.has_answer {id : Int} (there : m.tables.Has id) (op : StoreOp) :
    (m.answer op).2.tables.Has id := by
  cases op with
  | createUser user now =>
    obtain same | ⟨-, new⟩ := reach.tables_createUser user now
    · rwa [same]
    · rw [new]
      exact Tables.has_register there
  | _ =>
    refine (Tables.has_iff_of_people (reach.people_answer ?_)).2 there
    exact not_false

end Memory

/-! ## Forests -/

namespace Tables

/-- **The referrals are a forest**: everybody has a row under an identifier of its own,
and whoever was referred was so by somebody who is there and came earlier. -/
structure Forest (t : Tables) : Prop where
  keyed : t.UsersKeyed
  there : ∀ k u r, t.users.get? k = some u → u.referrer = some r → t.Has r
  earlier : ∀ k u r, t.users.get? k = some u → u.referrer = some r → r < k

/-- One user referred another. -/
def Refers (t : Tables) (referrer id : Int) : Prop :=
  ∃ u, t.users.get? id = some u ∧ u.referrer = some referrer

theorem forest_empty : Forest .empty where
  keyed := by intro k u h; cases h
  there := by intro k u r h; cases h
  earlier := by intro k u r h; cases h

namespace Forest

variable {t t' : Tables} (h : t.Forest)

include h

/-- Whether the referrals are a forest depends only on who is there. -/
theorem of_people (same : t'.people = t.people) : t'.Forest where
  keyed := by
    intro k u' hu'
    obtain ⟨u, hu, profile⟩ := exists_of_people same hu'
    rw [← show u.id = u'.id from congrArg Profile.id profile, h.keyed k u hu]
  there := by
    intro k u' r hu' hr
    obtain ⟨u, hu, profile⟩ := exists_of_people same hu'
    rw [← show u.referrer = u'.referrer from congrArg Profile.referrer profile] at hr
    exact (has_iff_of_people same).2 (h.there k u r hu hr)
  earlier := by
    intro k u' r hu' hr
    obtain ⟨u, hu, profile⟩ := exists_of_people same hu'
    rw [← show u.referrer = u'.referrer from congrArg Profile.referrer profile] at hr
    exact h.earlier k u r hu hr

/-- **Somebody new who names nobody, or somebody who is there**, is one more leaf. -/
theorem register (wf : t.WellFormed) {u : User} (next : u.id = t.counters.users + 1)
    (named : ∀ r, u.referrer = some r → t.Has r) : (t.register u).Forest := by
  refine ⟨(wf.register next).users_keyed, fun k v r hv hr => ?_, fun k v r hv hr => ?_⟩
  · obtain ⟨-, rfl⟩ | hv := new_or_old_of_register hv
    · exact has_register (named r hr)
    · exact has_register (h.there k v r hv hr)
  · obtain ⟨rfl, rfl⟩ | hv := new_or_old_of_register hv
    · -- the number was not given out before
      obtain ⟨w, hw⟩ := named r hr
      have given := wf.user_le r w hw
      omega
    · exact h.earlier k v r hv hr

/-- Along a chain of referrals the identifiers ascend. -/
theorem lt_of_chain {a b : Int} (chain : Relation.TransGen t.Refers a b) : a < b := by
  have one {a b : Int} : t.Refers a b → a < b := fun ⟨u, hu, hr⟩ => h.earlier b u a hu hr
  induction chain with
  | single first => exact one first
  | tail _ last ih => exact Int.lt_trans ih (one last)

/-- **No chain of referrals comes back to where it began**, so nobody is referred by
itself. -/
theorem acyclic (id : Int) : ¬ Relation.TransGen t.Refers id id :=
  fun chain => Int.lt_irrefl id (h.lt_of_chain chain)

end Forest

end Tables

/-- **A sign-up names a referrer only out of those who are known**, if it names one. -/
def StoreOp.Vouched (known : Int → Prop) : StoreOp → Prop
  | createUser new _ => ∀ r, new.referrer = some r → known r
  | _ => True

/-- Whatever is no sign-up names nobody. -/
theorem StoreOp.vouched_of_not_registers {op : StoreOp} (never : ¬ op.Registers)
    (known : Int → Prop) : op.Vouched known := by
  cases op with
  | createUser => exact absurd trivial never
  | _ => trivial

/-- **A forest stays a forest** if whoever signs up names nobody but those who are
there. -/
theorem Memory.Reachable.forest_answer {m : Memory} (reach : m.Reachable)
    (forest : m.tables.Forest) {op : StoreOp} (vouched : op.Vouched m.tables.Has) :
    (m.answer op).2.tables.Forest := by
  cases op with
  | createUser user now =>
    obtain same | ⟨on, new⟩ := reach.tables_createUser user now
    · rwa [same]
    · rw [new]
      exact forest.register (reach.wellFormed on) rfl vouched
  | _ =>
    refine forest.of_people (reach.people_answer ?_)
    exact not_false

/-! ## Paying upward -/

/-- An income leaves the row of everybody else alone. -/
theorem User.post_of_ne {i : Income} {u : User} (other : i.user ≠ u.id)
    (unrelated : i.referrer ≠ some u.id) : u.post i = u := by
  rw [User.post, User.withShare_of_ne unrelated, User.withIncome_of_ne other]

namespace Tables

/-- **A credit pays upward**: its income is recorded for a user, and besides the user's own
row it changes at most that of the user's referrer, who is there, is somebody else and gets
the share that was offered. -/
structure PaysUpward (t : Tables) (user offered : Int) (i : Income) (t' : Tables) : Prop where
  recorded : i ∈ t'.incomes
  own : i.user = user ∧ ∃ u, t.users.get? user = some u ∧ i.referrer = u.referrer
  others : ∀ k, k ≠ user → i.referrer ≠ some k → t'.users.get? k = t.users.get? k
  referrer : ∀ r, i.referrer = some r → r ≠ user ∧ i.referrerAmount = offered
    ∧ ∃ v v', t.users.get? r = some v ∧ t'.users.get? r = some v'
      ∧ v'.balance = v.balance + i.referrerAmount

/-- **In a forest every credit pays upward.** -/
theorem Forest.paysUpward {t t' : Tables} (h : t.Forest) {source : IncomeSource} {u : User}
    {user amount offered : Int} {now : Instant} (hu : t.users.get? user = some u)
    (recorded : t.incomeOf source u amount offered now ∈ t'.incomes)
    (posted : t'.users = t.users.map (·.post (t.incomeOf source u amount offered now))) :
    t.PaysUpward user offered (t.incomeOf source u amount offered now) t' := by
  have own : u.id = user := h.keyed user u hu
  refine ⟨recorded, ⟨own, u, hu, rfl⟩, fun k other unrelated => ?_, fun r hr => ?_⟩
  · rw [posted, Table.get?_map]
    cases hv : t.users.get? k with
    | none => rfl
    | some v =>
      have hk : v.id = k := h.keyed k v hv
      rw [Option.map_some, User.post_of_ne]
      · rw [hk]
        exact fun same => other (same.symm.trans own)
      · rwa [hk]
  · obtain ⟨v, hv⟩ := h.there user u r hu hr
    have apart : r ≠ user := Int.ne_of_lt (h.earlier user u r hu hr)
    have found : t.referrerOf? u = some v := by
      rw [referrerOf?, show u.referrer = some r from hr]
      exact hv
    let i := t.incomeOf source u amount offered now
    have hid : v.id = r := h.keyed r v hv
    refine ⟨apart, ?_, v, v.post i, hv, ?_, ?_⟩
    · show (if (t.referrerOf? u).isSome then offered else 0) = offered
      rw [found]
      rfl
    · rw [posted]
      exact Table.get?_map_eq_some_iff.2 ⟨v, hv, rfl⟩
    · have share : i.shareFor v.id = i.referrerAmount := by
        rw [hid]
        exact if_pos hr
      have nothing : i.amountFor v.id = 0 := by
        rw [hid]
        exact if_neg fun same => apart (same.symm.trans own)
      rw [User.balance_post, share, nothing, Int.add_zero]

/-- A scheduled reward that is kept pays upward. -/
theorem Forest.paysUpward_creditReward {t t' : Tables} (h : t.Forest) {c : RewardCredit}
    {receipt : Receipt} (did : t.Commits (.creditReward c) receipt t') :
    t.PaysUpward c.user c.referrerAmount receipt.income t' := by
  obtain ⟨u, hu, -, rfl, rfl⟩ := did
  exact h.paysUpward hu List.mem_concat_self rfl

/-- So does the event of a partner. -/
theorem Forest.paysUpward_creditPartner {t t' : Tables} (h : t.Forest) {c : PartnerCredit}
    {receipt : Receipt} (did : t.Commits (.creditPartner c) receipt t') :
    t.PaysUpward c.user c.referrerAmount receipt.income t' := by
  obtain ⟨-, -, u, hu, rfl, rfl⟩ := did
  exact h.paysUpward hu List.mem_concat_self rfl

end Tables

end RewardLedger
