import Mathlib.Data.List.Chain
import Mathlib.Data.List.Nodup
import RewardLedger.Crediting
import RewardLedger.Proofs.Books
import RewardLedger.Proofs.Interleaving

/-!
# Rewards keep their distance

A claim looks at the user's row before it draws, but by the time it is paid the
row may be an old one: any number of claims may have looked at the same row, and
each of them found the reward due. What keeps them apart is that the store looks
once more, in the unit that pays, and that the time it compares with is that of
the last reward it recorded. The clocks of the claims play no part in it; they
may show any time and run backwards.

The books say that the time of the last reward in a user's row is that of the
last reward among the incomes. So the check holds back a reward until an
interval after the last one, and the rewards of a user form a chain in which
each comes an interval after the one before (`Tables.Paced`).
-/

namespace RewardLedger

/-! ## Intervals -/

namespace Instant

variable {t due : Instant} {n : Int}

/-- Going forward by a second or more leads to a later second, from a leap second
as well. -/
theorem seconds_lt_of_plusSeconds? (h : t.plusSeconds? n = some due) (hn : 0 < n) :
    t.seconds < due.seconds := by
  obtain ⟨-, moved⟩ := Option.ite_none_right_eq_some.1 h
  rw [← Option.some.inj moved, if_pos hn]
  split
  · exact Int.lt_add_of_pos_right t.seconds hn
  · exact Int.lt_add_of_pos_right t.seconds hn

/-- Going forward leads to no earlier instant. -/
theorem le_of_plusSeconds? (h : t.plusSeconds? n = some due) (hn : 0 ≤ n) : t ≤ due := by
  obtain rfl | hpos := Int.le_iff_eq_or_lt.1 hn
  · obtain ⟨-, moved⟩ := Option.ite_none_right_eq_some.1 h
    rw [← Option.some.inj moved, if_pos (.inr rfl), Int.add_zero]
    exact le_refl t
  · exact le_iff.2 (.inl (seconds_lt_of_plusSeconds? h hpos))

/-- Going forward by a second or more leads to a later instant. -/
theorem not_le_of_plusSeconds? (h : t.plusSeconds? n = some due) (hn : 0 < n) : ¬ due ≤ t := by
  have hlt := seconds_lt_of_plusSeconds? h hn
  rw [le_iff]
  omega

end Instant

/-- **A reward keeps its distance** from another if it comes an interval after
it, or later. -/
def Income.Precedes (interval : Int) (first second : Income) : Prop :=
  ∃ due, first.createdAt.plusSeconds? interval = some due ∧ due ≤ second.createdAt

namespace Income

variable {interval : Int} {first second third : Income}

/-- If no interval ends before it began, a reward keeps its distance from all
that were before it. -/
theorem Precedes.trans (hinterval : 0 ≤ interval) (h : Precedes interval first second)
    (h' : Precedes interval second third) : Precedes interval first third := by
  obtain ⟨due, hdue, hle⟩ := h
  obtain ⟨due', hdue', hle'⟩ := h'
  have hforward := Instant.le_of_plusSeconds? hdue' hinterval
  exact ⟨due, hdue, Instant.le_trans hle (Instant.le_trans hforward hle')⟩

/-- If an interval takes any time, two rewards at a distance are not at one
instant. -/
theorem Precedes.ne (hinterval : 0 < interval) (h : Precedes interval first second) :
    first.createdAt ≠ second.createdAt := by
  obtain ⟨due, hdue, hle⟩ := h
  intro same
  rw [← same] at hle
  exact Instant.not_le_of_plusSeconds? hdue hinterval hle

end Income

/-- A reward that is due keeps its distance from the last one. -/
theorem User.precedes_of_due {u : User} {last : Income} {now : Instant}
    (due : u.rewardDue? now = some true) (hlast : u.rewardedAt = some last.createdAt)
    {i : Income} (hi : i.createdAt = now) : last.Precedes u.rewardInterval i := by
  unfold rewardDue? at due
  rw [hlast] at due
  obtain ⟨t, ht, hle⟩ := Option.map_eq_some_iff.1 due
  exact ⟨t, ht, hi ▸ of_decide_eq_true hle⟩

/-! ## The chain of rewards -/

namespace Tables

/-- **The rewards of every user keep their distance**: each comes an interval
after the one before. -/
def Paced (t : Tables) : Prop :=
  ∀ k u, t.users.get? k = some u →
    (t.incomesOf k (some .reward)).IsChain (Income.Precedes u.rewardInterval)

theorem paced_empty : Paced .empty := by
  intro k u hu
  cases hu

/-- Rows may change as long as the intervals stay. -/
theorem Paced.of_same {t t' : Tables} (h : t.Paced) (hi : t'.incomes = t.incomes)
    (hu : ∀ k u', t'.users.get? k = some u' →
      ∃ u, t.users.get? k = some u ∧ u'.rewardInterval = u.rewardInterval) : t'.Paced := by
  intro k u' hu'
  obtain ⟨u, hget, hinterval⟩ := hu k u' hu'
  rw [hinterval, show t'.incomesOf k (some .reward) = t.incomesOf k (some .reward) by
    unfold incomesOf; rw [hi]]
  exact h k u hget

/-- **A credit keeps the distance** if it is due, or no reward. -/
theorem Paced.book {t : Tables} (h : t.Paced) {i : Income}
    (due : i.source = .reward → ∀ u, t.users.get? i.user = some u →
      ∀ last ∈ t.lastRewardOf? i.user, last.Precedes u.rewardInterval i) :
    (t.book i).Paced := by
  intro k v hv
  obtain ⟨u, hu, rfl⟩ := Table.get?_map_eq_some_iff.1 hv
  rw [User.rewardInterval_post, incomesOf_book]
  split
  · next hmine =>
    obtain ⟨rfl, hsource⟩ := hmine
    refine List.isChain_append.2 ⟨h _ u hu, List.isChain_singleton i, ?_⟩
    intro last hlast first hfirst
    cases hfirst
    exact due hsource u hu last hlast
  · exact h k u hu

/-- **Every step keeps the distance.** -/
theorem Paced.step {t t' : Tables} (h : t.Paced) (wf : t.WellFormed) (balanced : t.Balanced)
    (step : t.Step t') : t'.Paced := by
  cases step with
  | register user now free =>
    intro k v hv
    obtain ⟨hk, -⟩ | hv := new_or_old_of_register hv
    · -- whoever is new was never rewarded
      have hnone : t.users.get? k = none := wf.fresh_user (by
        rw [hk]
        exact Int.lt_succ _)
      have hrewards : t.incomesOf k (some .reward) = [] :=
        List.filter_eq_nil_iff.2 fun i hi hp =>
          wf.user_ne_of_absent hnone i hi (of_decide_eq_true hp).1
      show (t.incomesOf k (some .reward)).IsChain _
      rw [hrewards]
      exact List.isChain_nil
    · exact h k v hv
  | @reward u i amount offered now hu due hi =>
    have hchecked : (t.book i).Paced := by
      refine h.book fun _ v hv last hlast => ?_
      have huser : i.user = u.id := by
        rw [hi]
        rfl
      rw [huser] at hv hlast
      rw [hu] at hv
      cases hv
      -- the time that the check compared with is that of the last reward
      have hrewarded := (balanced.users _ u hu).rewardedAt
      rw [Option.mem_def.1 hlast] at hrewarded
      exact User.precedes_of_due due hrewarded (by rw [hi]; rfl)
    exact hchecked
  | @partner u i source key amount offered now hu hsource fresh hi =>
    have hpartner : (t.book i).Paced := by
      refine h.book fun hreward => ?_
      rw [hi] at hreward
      exact absurd hreward hsource
    exact hpartner
  | @payOut u order hu user covered =>
    refine h.of_same rfl fun k v hv => ?_
    obtain ⟨w, hw, rfl⟩ := Table.get?_map_eq_some_iff.1 hv
    exact ⟨w, hw, rfl⟩
  | advance => exact h
  | policy => exact h
  | band => exact h

end Tables

/-- The rewards keep their distance in every usable store that can be
reached. -/
theorem Memory.Reachable.paced {m : Memory} (reach : m.Reachable) (on : m.disabled = false) :
    m.tables.Paced := by
  refine (reach.tables (P := fun t => t.Balanced ∧ t.Paced)
    ⟨Tables.balanced_empty, Tables.paced_empty⟩ (fun _ _ wf h step => ?_) on).2
  exact ⟨h.1.step wf step, h.2.step wf h.1 step⟩

/-! ## Programs that have to be paid -/

/-- A reply tells that a reward was paid to a user at an instant. -/
def Effect.Pays (id : Int) (now : Instant) : (e : Effect) → e.Reply → Prop
  | .store (.creditReward c), .ok _ => c.user = id ∧ c.now = now
  | _, _ => False

/-- **A program can come to a value without being paid**, whatever else it is
told. -/
def Program.EndsUnpaid {α : Type} (id : Int) (now : Instant) :
    Program Effect Effect.Reply α → α → Prop
  | .done b, a => a = b
  | .call e next, a => ∃ reply, ¬ e.Pays id now reply ∧ (next reply).EndsUnpaid id now a

section Unpaid

variable {α β : Type} {id : Int} {now : Instant}

/-- A program in two parts that is not paid is paid in neither. -/
theorem Program.endsUnpaid_bind {p : Program Effect Effect.Reply α}
    {f : α → Program Effect Effect.Reply β} {b : β} (h : (p.bind f).EndsUnpaid id now b) :
    ∃ a, p.EndsUnpaid id now a ∧ (f a).EndsUnpaid id now b := by
  induction p with
  | done a => exact ⟨a, rfl, h⟩
  | call e next ih =>
    obtain ⟨reply, unpaid, rest⟩ := h
    obtain ⟨a, first, second⟩ := ih reply rest
    exact ⟨a, ⟨reply, unpaid, first⟩, second⟩

/-- A program in two parts that is neither refused nor paid comes to a value
with the first. -/
theorem ServiceStep.endsUnpaid_bind {x : ServiceStep α} {f : α → ServiceStep β} {b : β}
    (h : Program.EndsUnpaid id now (x >>= f).run (.ok b)) :
    ∃ a, Program.EndsUnpaid id now x.run (.ok a)
      ∧ Program.EndsUnpaid id now (f a).run (.ok b) := by
  obtain ⟨o, first, second⟩ := Program.endsUnpaid_bind (p := x.run) h
  cases o with
  | error fault => cases second
  | ok a => exact ⟨a, first, second⟩

/-- Asking for a reward comes to a receipt only by being paid. -/
theorem ServiceStep.not_endsUnpaid_ask {c : RewardCredit} {receipt : Receipt} :
    ¬ Program.EndsUnpaid c.user c.now (ask (.creditReward c)).run (.ok receipt) := by
  intro h
  obtain ⟨reply, ⟨told, unpaid, same⟩, second⟩ := endsUnpaid_bind h
  cases same
  cases reply with
  | error fault => cases second
  | ok paid => exact unpaid ⟨rfl, rfl⟩

/-- **A draw comes to an income only by being paid.** -/
theorem Crediting.not_endsUnpaid_draw {i : Income} :
    ¬ Program.EndsUnpaid id now (draw id now).run (.ok i) := by
  intro h
  obtain ⟨user, -, h⟩ := ServiceStep.endsUnpaid_bind h
  obtain ⟨-, -, h⟩ := ServiceStep.endsUnpaid_bind h
  obtain ⟨policy, -, h⟩ := ServiceStep.endsUnpaid_bind h
  obtain ⟨amount, -, h⟩ := ServiceStep.endsUnpaid_bind h
  obtain ⟨receipt, asked, -⟩ := ServiceStep.endsUnpaid_bind h
  exact ServiceStep.not_endsUnpaid_ask asked

end Unpaid

/-! ## How often a user was paid at an instant -/

/-- How many rewards a user was paid at an instant. -/
def Tables.paidAt (t : Tables) (id : Int) (now : Instant) : Nat :=
  (t.incomesOf id (some .reward)).countP (·.createdAt = now)

section PaidAt

variable {id : Int} {now : Instant}

/-- A user was never paid less often later. -/
theorem Memory.Moves.paidAt_le {m m' : Memory} (moves : m.Moves m') (on : m'.disabled = false) :
    m.tables.paidAt id now ≤ m'.tables.paidAt id now := by
  cases moves with
  | same tables => rw [tables]
  | step _ _ step => exact (step.incomes_prefix.sublist.filter _).countP_le
  | fault _ off => exact absurd off (ne_true_of_eq_false on)

/-- A receipt for a reward stands for one more reward. -/
theorem Memory.Writes.paidAt_eq {m m' : Memory} {c : RewardCredit} {receipt : Receipt}
    (ends : m.Writes (.creditReward c) (.ok receipt) m')
    (keyed : m.disabled = false → m.tables.UsersKeyed) :
    m'.tables.paidAt c.user c.now = m.tables.paidAt c.user c.now + 1 := by
  cases ends with
  | kept on _ _ did =>
    obtain ⟨u, hu, -, rfl, rfl⟩ := did
    let i := m.tables.incomeOf .reward u c.amount c.referrerAmount c.now
    have htime : i.createdAt = c.now := rfl
    show ((m.tables.book i).incomesOf c.user (some .reward)).countP _ = _
    rw [Tables.incomesOf_book, if_pos ⟨keyed on _ _ hu, rfl⟩, List.countP_append,
      List.countP_singleton, if_pos (decide_eq_true htime)]
    rfl

/-- Whatever happens to a service that stays usable, a user was never paid less
often later. -/
theorem Service.Disturbed.paidAt_le {s s' : Service Memory} (h : s.Disturbed s')
    (reach : s.store.Reachable) (on : s'.store.disabled = false) :
    s.store.disabled = false
      ∧ s.store.tables.paidAt id now ≤ s'.store.tables.paidAt id now := by
  obtain same | ⟨c, commanded⟩ := h
  · rw [same] at on ⊢
    exact ⟨on, Nat.le_refl _⟩
  · rw [commanded] at on ⊢
    exact ⟨reach.usable_of_after [c] on, (reach.moves c).paidAt_le on⟩

/-- The effect that pays a reward is one more reward. -/
theorem Service.paidAt_handle {s : Service Memory} (reach : s.store.Reachable) {e : Effect}
    (pays : e.Pays id now (s.handle Memory.answer e).1) :
    (s.handle Memory.answer e).2.store.tables.paidAt id now
      = s.store.tables.paidAt id now + 1 := by
  cases e with
  | store op =>
    cases op with
    | creditReward c =>
      have ends := reach.writes (show StoreOp.IsWrite (.creditReward c) from trivial)
      change Effect.Pays id now (.store (.creditReward c)) (s.store.answer (.creditReward c)).1
        at pays
      show (s.store.answer (.creditReward c)).2.tables.paidAt id now = _
      generalize (s.store.answer (.creditReward c)).1 = r,
        (s.store.answer (.creditReward c)).2 = m' at ends pays ⊢
      cases r with
      | error => exact pays.elim
      | ok receipt =>
        obtain ⟨rfl, rfl⟩ := pays
        exact ends.paidAt_eq fun on => (reach.wellFormed on).users_keyed
    | _ => exact pays.elim
  | _ => exact pays.elim

end PaidAt

/-! ## Claims at one instant -/

/-- **The task was paid**: it can come to a value without being paid any more,
and could not have come to it without being paid at all. -/
def Task.Paid (id : Int) (now : Instant) (task : Task) : Prop :=
  ∃ a, ¬ task.began.EndsUnpaid id now a ∧ task.rest.EndsUnpaid id now a

/-- **A claim that was paid**: a draw that came to an income, or a reward that was
asked for and came to a receipt. -/
inductive Task.PaidClaim (id : Int) (now : Instant) : Task → Prop
  | draw (i : Income) : PaidClaim id now ⟨_, (Crediting.draw id now).run, .done (.ok i)⟩
  | credit {c : RewardCredit} (user : c.user = id) (time : c.now = now) (receipt : Receipt) :
    PaidClaim id now ⟨_, (ServiceStep.ask (.creditReward c)).run, .done (.ok receipt)⟩

/-- A claim that was paid is a task that was paid. -/
theorem Task.PaidClaim.paid {id : Int} {now : Instant} {task : Task}
    (h : task.PaidClaim id now) : task.Paid id now := by
  cases h with
  | draw i => exact ⟨.ok i, Crediting.not_endsUnpaid_draw, rfl⟩
  | credit user time receipt =>
    subst user time
    exact ⟨.ok receipt, ServiceStep.not_endsUnpaid_ask, rfl⟩

namespace Pool

variable {id : Int} {now : Instant}

/-- A task becomes one that was paid only by an effect that pays. -/
theorem paid_of_unpaid {α : Type} {began : Program Effect Effect.Reply α} {e : Effect}
    {next : e.Reply → Program Effect Effect.Reply α} {reply : e.Reply}
    (unpaid : ¬ e.Pays id now reply) (h : Task.Paid id now ⟨α, began, next reply⟩) :
    Task.Paid id now ⟨α, began, .call e next⟩ := by
  obtain ⟨a, not_at_first, rest⟩ := h
  exact ⟨a, not_at_first, reply, unpaid, rest⟩

open Classical in
/-- **There are no more tasks that were paid than rewards**, whoever else was
paid. -/
theorem Reachable.countP_paid {p : Pool} (reach : p.Reachable)
    (on : p.service.store.disabled = false) :
    p.tasks.countP (Task.Paid id now) ≤ p.service.store.tables.paidAt id now := by
  induction reach with
  | new s h => exact Nat.zero_le _
  | @step p p' reach step ih =>
    have kept : p.service.store.disabled = false
        ∧ p.service.store.tables.paidAt id now ≤ p'.service.store.tables.paidAt id now :=
      step.disturbed.paidAt_le reach.store on
    obtain ⟨on', more⟩ := kept
    have most := ih on'
    cases step with
    | start p program =>
      -- what a task can come to when it begins it can come to from its beginning
      have begins : ¬ Task.Paid id now ⟨_, program, program⟩ := fun h =>
        h.elim fun _ both => both.1 both.2
      rw [List.countP_cons, if_neg (mt of_decide_eq_true begins)]
      exact most
    | act s first last began e next =>
      rw [List.countP_append, List.countP_cons] at most ⊢
      by_cases pays : e.Pays id now (s.handle Memory.answer e).1
      · -- one more task was paid at most, and one more reward for certain
        have one := Service.paidAt_handle reach.store pays
        dsimp only at most one ⊢
        split <;> omega
      · have same : Task.Paid id now ⟨_, began, next (s.handle Memory.answer e).1⟩ →
            Task.Paid id now ⟨_, began, .call e next⟩ := paid_of_unpaid pays
        dsimp only at most more ⊢
        by_cases paid : Task.Paid id now ⟨_, began, next (s.handle Memory.answer e).1⟩
        · rw [if_pos (decide_eq_true (same paid))] at most
          rw [if_pos (decide_eq_true paid)]
          omega
        · rw [if_neg (mt of_decide_eq_true paid)]
          omega
    | disturb _ disturbed => exact Nat.le_trans most more

/-- **There are no more claims that were paid than rewards.** -/
theorem Reachable.length_paidClaims {p : Pool} (reach : p.Reachable)
    (on : p.service.store.disabled = false) {claims : List Task}
    (among : claims.Sublist p.tasks) (paid : ∀ task ∈ claims, task.PaidClaim id now) :
    claims.length ≤ p.service.store.tables.paidAt id now := by
  classical
  have all : claims.countP (fun task => Task.Paid id now task) = claims.length :=
    List.countP_eq_length.2 fun task htask => decide_eq_true (paid task htask).paid
  rw [← all]
  exact Nat.le_trans among.countP_le (reach.countP_paid on)

/-- **Rewards are never paid faster than the interval.** In every pool that can
be reached, whatever its tasks and in whatever order they took turns, each
reward of a user comes an interval after the one before it. If the interval is
not negative it comes an interval after all that were before it, and if it is
positive no two rewards are of one instant, and of all claims made at one
instant at most one was paid. -/
theorem rewards_keep_distance {p : Pool} (reach : p.Reachable) (user : Int) {u : User}
    (hu : (p.service.store.answer (.user user)).1 = .ok u) :
    let rewards := p.service.store.tables.incomesOf user (some .reward)
    rewards.IsChain (Income.Precedes u.rewardInterval)
      ∧ (0 ≤ u.rewardInterval → rewards.Pairwise (Income.Precedes u.rewardInterval))
      ∧ (0 < u.rewardInterval → (rewards.map (·.createdAt)).Nodup
        ∧ ∀ now (claims : List Task), claims.Sublist p.tasks →
          (∀ task ∈ claims, task.PaidClaim user now) → claims.length ≤ 1) := by
  intro rewards
  obtain ⟨on, hget⟩ := Memory.user_eq_ok_iff.1 hu
  have chain : rewards.IsChain (Income.Precedes u.rewardInterval) :=
    reach.store.paced on user u hget
  have apart (hinterval : 0 ≤ u.rewardInterval) :
      rewards.Pairwise (Income.Precedes u.rewardInterval) := by
    have : Trans (Income.Precedes u.rewardInterval) (Income.Precedes u.rewardInterval)
        (Income.Precedes u.rewardInterval) := ⟨Income.Precedes.trans hinterval⟩
    exact List.isChain_iff_pairwise.1 chain
  refine ⟨chain, apart, fun hinterval => ?_⟩
  have distinct : (rewards.map (·.createdAt)).Nodup := by
    refine List.pairwise_map.2 ((apart (Int.le_of_lt hinterval)).imp ?_)
    exact fun h => h.ne hinterval
  refine ⟨distinct, fun now claims among paid => ?_⟩
  have most : p.service.store.tables.paidAt user now ≤ 1 := by
    have hcount := List.nodup_iff_count_le_one.1 distinct now
    rw [List.count, List.countP_map] at hcount
    exact hcount
  exact Nat.le_trans (reach.length_paidClaims on among paid) most

/-- A user is paid at once and an interval later. One more claim, whose clock is
behind, is refused. -/
theorem rewards_keep_distance_of_late_claim :
    ∃ p : Pool, p.Reachable
      ∧ p.tasks =
        [⟨_, (ServiceStep.ask (.creditReward ⟨1, 5, 0, ⟨0, 0⟩⟩)).run,
            .done (.error (.error (.rewardNotDue 1)))⟩,
          ⟨_, (ServiceStep.ask (.creditReward ⟨1, 5, 0, ⟨300, 0⟩⟩)).run,
            .done (.ok ⟨⟨2, 1, none, .reward, 5, 0, ⟨300, 0⟩⟩, "addr", false⟩)⟩]
      ∧ p.service.store.tables.incomesOf 1 (some .reward)
        = [⟨1, 1, none, .reward, 5, 0, ⟨0, 0⟩⟩, ⟨2, 1, none, .reward, 5, 0, ⟨300, 0⟩⟩]
      ∧ ((p.service.store.tables.incomesOf 1 (some .reward)).map (·.createdAt)).Nodup
      ∧ ∀ claims : List Task, claims.Sublist p.tasks →
        (∀ task ∈ claims, task.PaidClaim 1 ⟨300, 0⟩) → claims.length ≤ 1 := by
  have started : Reachable ⟨Service.new Memory.empty 10 ⟨0, 0⟩, []⟩ := .new _ rfl
  have paid := started.after
    [.request (.createUser ⟨"a@x", "addr", none, 300⟩ ⟨0, 0⟩),
      .request (.creditReward ⟨1, 5, 0, ⟨0, 0⟩⟩)]
  have paidAgain := Reachable.run []
    (paid.step (.start _ (ServiceStep.ask (.creditReward ⟨1, 5, 0, ⟨300, 0⟩⟩)).run))
  have refused := Reachable.run []
    (paidAgain.step (.start _ (ServiceStep.ask (.creditReward ⟨1, 5, 0, ⟨0, 0⟩⟩)).run))
  have distance := rewards_keep_distance refused 1
    (u := ⟨1, "a@x", "addr", 10, 10, 0, 0, none, 300, some ⟨300, 0⟩, ⟨0, 0⟩⟩) rfl
  obtain ⟨distinct, most⟩ := distance.2.2 (by decide)
  exact ⟨_, refused, rfl, rfl, distinct, most ⟨300, 0⟩⟩

end Pool

end RewardLedger
