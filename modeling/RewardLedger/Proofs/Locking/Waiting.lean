import Mathlib.Data.Finite.Defs
import Mathlib.Data.Fintype.EquivFin
import Mathlib.Logic.Relation
import Mathlib.Order.RelClasses
import Mathlib.Order.WellFounded
import RewardLedger.Proofs.Locking.Unit

/-!
# Units that wait for each other

Any number of units are at work in one database. Each of them sends its
statements one after the other; the database finds the rows that a statement
names, takes their locks one by one, waits at a lock that another unit holds, and
replies when it has them all, or with a failure at any time. A unit waits for
another when the lock that it has to take next is held by that other one.

Since all units take their locks in one order, what a unit wants comes after
all that it holds. Along a chain of units that wait for each other the locks that
are wanted ascend, and no such chain comes back to where it began
(`OpenUnits.Reachable.not_waits_for_itself`). So of the units that have not ended there is
always one that waits for nobody.
-/

namespace RewardLedger

/-! ## Units at work -/

/-- **A unit at work**: what it exchanged so far, what is left of its program, the
locks that it holds, and those that the statement under way has still to take. -/
structure OpenUnit where
  order : StoreOp
  log : List Exchange
  rest : Program Statement (fun _ => DatabaseReply) (Outcome order.Answer)
  /-- Newest first. -/
  held : List Lock
  /-- Nothing if no statement is under way. -/
  wanted : Option (List Lock)

namespace OpenUnit

/-- A unit that has not sent anything. -/
def new (op : StoreOp) : OpenUnit where
  order := op
  log := []
  rest := (DatabaseStep.answer op).run
  held := []
  wanted := none

/-- The unit has come to its end. -/
def Ended (u : OpenUnit) : Prop := ∃ r, u.rest = .done r

/-- The lock that a unit has to take next, and does not hold. -/
def Wants (u : OpenUnit) (l : Lock) : Prop := ∃ more, u.wanted = some (l :: more) ∧ l ∉ u.held

/-- **What a unit does**, beside others that hold some locks. -/
inductive Step (taken : Lock → Prop) (u : OpenUnit) : OpenUnit → Prop
  /-- It sends its next statement, and the database finds the rows to be locked. -/
  | send {s : Statement} {next : DatabaseReply →
      Program Statement (fun _ => DatabaseReply) (Outcome u.order.Answer)} {wanted : List Lock}
    (idle : u.wanted = none) (here : u.rest = .call s next) (found : wanted.Sublist s.locks) :
    Step taken u { u with wanted := some wanted }
  /-- It takes the next lock, which nobody else holds. -/
  | take {l : Lock} {more : List Lock} (busy : u.wanted = some (l :: more)) (free : ¬ taken l) :
    Step taken u
      { u with held := if l ∈ u.held then u.held else l :: u.held, wanted := some more }
  /-- It is given a reply: one of success only when all locks are taken, and with
  no row that is not locked. -/
  | reply {s : Statement} {next : DatabaseReply →
      Program Statement (fun _ => DatabaseReply) (Outcome u.order.Answer)} {wanted : List Lock}
    {reply : DatabaseReply} (busy : u.wanted = some wanted) (here : u.rest = .call s next)
    (complete : reply.failure? = none → wanted = []) (locked : s.Locked reply u.held) :
    Step taken u
      { u with
        log := u.log ++ [(s, reply)]
        rest := next reply
        held := if s.Releases reply then [] else u.held
        wanted := none }

/-- **A unit keeps to the order.** The locks that it holds were taken in ascending
order. While it is idle, its program is in order. While a statement is under way,
the locks still wanted ascend as well and come after those that are held, and
whatever is replied the program will be in order. -/
structure Orderly (u : OpenUnit) : Prop where
  ascending : u.held.Pairwise fun newer older => older.Precedes newer
  idle : u.wanted = none → u.rest.Takes u.order (fun _ held _ => held = []) u.held u.log
  busy : ∀ wanted, u.wanted = some wanted → ∃ s next, u.rest = .call s next
    ∧ wanted.Sublist s.locks ∧ wanted.Pairwise Lock.Precedes
    ∧ (∀ l ∈ wanted, l ∈ u.held ∨ ∀ h ∈ u.held, h.Precedes l)
    ∧ ∀ reply held, s.Leaves reply u.held held →
        (next reply).Takes u.order (fun _ held _ => held = []) held (u.log ++ [(s, reply)])

/-- A unit begins in order. -/
theorem orderly_new {op : StoreOp} (moves : op.MovesMoney) : (new op).Orderly where
  ascending := .nil
  idle _ := StoreOp.takes_answer moves
  busy _ impossible := nomatch impossible

namespace Orderly

variable {u u' : OpenUnit} {taken : Lock → Prop} (h : u.Orderly)

include h

/-- What a unit wants comes after all that it holds. -/
theorem precedes {held wanted : Lock} (holds : held ∈ u.held) (wants : u.Wants wanted) :
    held.Precedes wanted := by
  obtain ⟨more, busy, fresh⟩ := wants
  obtain ⟨s, next, -, -, -, above, -⟩ := h.busy _ busy
  exact (above wanted List.mem_cons_self).resolve_left fresh held holds

/-- A unit that has come to its end holds nothing. -/
theorem held_of_ended (ended : u.Ended) : u.held = [] := by
  obtain ⟨r, hr⟩ := ended
  cases hw : u.wanted with
  | none =>
    have last := h.idle hw
    rw [hr] at last
    exact last
  | some wanted =>
    obtain ⟨s, next, here, -⟩ := h.busy wanted hw
    rw [hr] at here
    cases here

/-- A lock that is held already only leaves those still wanted. -/
theorem take_held {l : Lock} {more : List Lock} (busy : u.wanted = some (l :: more)) :
    { u with wanted := some more }.Orderly where
  ascending := h.ascending
  idle impossible := nomatch impossible
  busy := by
    rintro _ ⟨⟩
    obtain ⟨s, next, here, found, ascend, above, program⟩ := h.busy _ busy
    exact ⟨s, next, here, (List.sublist_cons_self l more).trans found,
      (List.pairwise_cons.1 ascend).2,
      fun l' hl' => above l' (List.mem_cons_of_mem l hl'), program⟩

/-- **A new lock comes after all that are held**, and before those still wanted. -/
theorem take_new {l : Lock} {more : List Lock} (busy : u.wanted = some (l :: more))
    (fresh : l ∉ u.held) : { u with held := l :: u.held, wanted := some more }.Orderly where
  ascending := List.pairwise_cons.2 ⟨fun _ hk => h.precedes hk ⟨more, busy, fresh⟩, h.ascending⟩
  idle impossible := nomatch impossible
  busy := by
    rintro _ ⟨⟩
    obtain ⟨s, next, here, found, ascend, above, program⟩ := h.busy _ busy
    obtain ⟨first, ascend⟩ := List.pairwise_cons.1 ascend
    refine ⟨s, next, here, (List.sublist_cons_self l more).trans found, ascend,
      fun l' hl' => ?_, fun reply held leaves =>
        program reply held (leaves.of_taken (found.subset List.mem_cons_self))⟩
    obtain there | later := above l' (List.mem_cons_of_mem l hl')
    · exact .inl (List.mem_cons_of_mem l there)
    · refine .inr fun k hk => ?_
      rcases List.mem_cons.1 hk with rfl | hk
      · exact first l' hl'
      · exact later k hk

/-- **Whatever a unit does, it keeps to the order.** -/
theorem step (step : u.Step taken u') : u'.Orderly := by
  cases step with
  | @send s next wanted idle here found =>
    have program := h.idle idle
    rw [here] at program
    exact
      { ascending := h.ascending
        idle := fun impossible => nomatch impossible
        busy := by
          rintro _ ⟨⟩
          exact ⟨s, next, here, found, program.1.ascending.sublist found,
            fun l hl => program.1.above l (found.subset hl), program.2⟩ }
  | @take l more busy free =>
    by_cases again : l ∈ u.held
    · rw [if_pos again]
      exact h.take_held busy
    · rw [if_neg again]
      exact h.take_new busy again
  | @reply s next wanted reply busy here complete locked =>
    obtain ⟨s', next', here', -, -, -, program⟩ := h.busy _ busy
    rw [here] at here'
    cases here'
    exact
      { ascending := by
          dsimp only
          split
          · exact .nil
          · exact h.ascending
        idle := fun _ => program reply _ (Statement.leaves_if locked)
        busy := fun _ impossible => nomatch impossible }

end Orderly

/-- A lock that a unit holds it held before, or nobody else does. -/
theorem Step.held {u u' : OpenUnit} {taken : Lock → Prop} (step : u.Step taken u') {l : Lock}
    (holds : l ∈ u'.held) : l ∈ u.held ∨ ¬ taken l := by
  cases step with
  | send => exact .inl holds
  | take _ free =>
    dsimp only at holds
    split at holds
    · exact .inl holds
    · rcases List.mem_cons.1 holds with rfl | holds
      · exact .inr free
      · exact .inl holds
  | reply =>
    dsimp only at holds
    split at holds
    · cases holds
    · exact .inl holds

end OpenUnit

/-! ## Many units -/

/-- The units at work in one database. -/
abbrev OpenUnits := List OpenUnit

namespace OpenUnits

/-- Another unit holds a lock. -/
def HeldBeside (ss : OpenUnits) (n : Nat) (l : Lock) : Prop :=
  ∃ k v, k ≠ n ∧ ss[k]? = some v ∧ l ∈ v.held

/-- **What happens**: a unit begins, or one of them does something. -/
inductive Step (ss : OpenUnits) : OpenUnits → Prop
  | begin (op : StoreOp) (moves : op.MovesMoney) : Step ss (ss ++ [.new op])
  | act {n : Nat} {u u' : OpenUnit} (here : ss[n]? = some u)
    (step : u.Step (HeldBeside ss n) u') : Step ss (ss.set n u')

/-- **The units can be in these states.** -/
inductive Reachable : OpenUnits → Prop
  | none : Reachable []
  | step {ss ss' : OpenUnits} (reach : Reachable ss) (step : Step ss ss') : Reachable ss'

/-- **A unit waits for another** that holds the lock which it has to take next. -/
def WaitsFor (ss : OpenUnits) (n k : Nat) : Prop :=
  ∃ u v l, ss[n]? = some u ∧ ss[k]? = some v ∧ u.Wants l ∧ l ∈ v.held

variable {ss : OpenUnits}

/-- All units keep to the order. -/
theorem Reachable.orderly (reach : Reachable ss) : ∀ u ∈ ss, u.Orderly := by
  induction reach with
  | none => exact nofun
  | step _ step ih =>
    intro u hu
    cases step with
    | begin op moves =>
      rcases List.mem_append.1 hu with hu | hu
      · exact ih u hu
      · cases List.mem_singleton.1 hu
        exact OpenUnit.orderly_new moves
    | act here step =>
      rcases List.mem_or_eq_of_mem_set hu with hu | rfl
      · exact ih u hu
      · exact (ih _ (List.mem_of_getElem? here)).step step

/-- **No lock is held by two units.** -/
theorem Reachable.exclusive (reach : Reachable ss) {n : Nat} {u : OpenUnit} {l : Lock}
    (hu : ss[n]? = some u) (holds : l ∈ u.held) : ¬ HeldBeside ss n l := by
  induction reach generalizing n u with
  | none => cases hu
  | @step ss ss' _ step ih =>
    rintro ⟨k, v, apart, hv, holds'⟩
    cases step with
    | begin op =>
      -- a unit that begins holds nothing
      have old {j : Nat} {w : OpenUnit} (hw : (ss ++ [OpenUnit.new op])[j]? = some w)
          (some : l ∈ w.held) : ss[j]? = .some w := by
        rw [List.getElem?_append] at hw
        split at hw
        · exact hw
        · cases List.mem_singleton.1 (List.mem_of_getElem? hw)
          cases some
      exact ih (old hu holds) holds ⟨k, v, apart, old hv holds', holds'⟩
    | @act j w w' here did =>
      rw [List.getElem?_set] at hu hv
      by_cases first : j = n
      · subst first
        rw [if_neg (Ne.symm apart)] at hv
        rw [if_pos rfl, if_pos (List.getElem?_eq_some_iff.1 here).1] at hu
        cases hu
        obtain before | free := did.held holds
        · exact ih here before ⟨k, v, apart, hv, holds'⟩
        · exact free ⟨k, v, apart, hv, holds'⟩
      · rw [if_neg first] at hu
        by_cases second : j = k
        · subst second
          rw [if_pos rfl, if_pos (List.getElem?_eq_some_iff.1 here).1] at hv
          cases hv
          obtain before | free := did.held holds'
          · exact ih hu holds ⟨j, w, apart, here, before⟩
          · exact free ⟨n, u, first ∘ Eq.symm, hu, holds⟩
        · rw [if_neg second] at hv
          exact ih hu holds ⟨k, v, apart, hv, holds'⟩

/-- **Along a chain of units that wait for each other the wanted locks
ascend.** -/
theorem Reachable.wants_ascend (reach : Reachable ss) {n k : Nat}
    (chain : Relation.TransGen (WaitsFor ss) n k) :
    ∃ u l, ss[n]? = some u ∧ u.Wants l
      ∧ ∀ v wanted, ss[k]? = some v → v.Wants wanted → l.Precedes wanted := by
  -- who is waited for holds the lock, and what it wants comes after what it holds
  have edge {k : Nat} {v w : OpenUnit} {l wanted : Lock} (hv : ss[k]? = some v) (holds : l ∈ v.held)
      (hw : ss[k]? = some w) (wants : w.Wants wanted) : l.Precedes wanted := by
    rw [hv] at hw
    cases hw
    exact (reach.orderly v (List.mem_of_getElem? hv)).precedes holds wants
  induction chain with
  | single waits =>
    obtain ⟨u, v, l, hu, hv, wants, holds⟩ := waits
    exact ⟨u, l, hu, wants, fun w wanted => edge hv holds⟩
  | tail _ waits ih =>
    obtain ⟨u, l, hu, wants, below⟩ := ih
    obtain ⟨v, w, middle, hv, hw, between, holds⟩ := waits
    exact ⟨u, l, hu, wants, fun x wanted hx wantsNext =>
      (below v middle hv between).trans (edge hw holds hx wantsNext)⟩

/-- **No unit waits for itself**, over however many others. -/
theorem Reachable.not_waits_for_itself (reach : Reachable ss) (n : Nat) :
    ¬ Relation.TransGen (WaitsFor ss) n n := by
  intro cycle
  obtain ⟨u, l, hu, wants, below⟩ := reach.wants_ascend cycle
  exact l.not_precedes_self (below u l hu wants)

/-- **If some units have not ended, one of them waits for nobody.** -/
theorem Reachable.exists_free (reach : Reachable ss) (working : ∃ u ∈ ss, ¬ u.Ended) :
    ∃ n u, ss[n]? = some u ∧ ¬ u.Ended ∧ ∀ k, ¬ WaitsFor ss n k := by
  let later (a b : Fin ss.length) : Prop := Relation.TransGen (WaitsFor ss) b a
  have : IsTrans (Fin ss.length) later := ⟨fun _ _ _ first second => second.trans first⟩
  have : Std.Irrefl later := ⟨fun a => reach.not_waits_for_itself a⟩
  obtain ⟨u, hu, busy⟩ := working
  obtain ⟨i, hi, here⟩ := List.getElem_of_mem hu
  -- a unit at the end of the longest chain
  obtain ⟨⟨n, hn⟩, working, last⟩ := (Finite.wellFounded_of_trans_of_irrefl later).has_min
    {a | ¬ (ss.get a).Ended} ⟨⟨i, hi⟩, by
      show ¬ (ss.get ⟨i, hi⟩).Ended
      rw [List.get_eq_getElem, here]
      exact busy⟩
  refine ⟨n, ss[n], List.getElem?_eq_getElem hn, working, fun k waits => ?_⟩
  have edge := waits
  obtain ⟨_, v, l, -, hv, -, holds⟩ := edge
  obtain ⟨hk, rfl⟩ := List.getElem?_eq_some_iff.1 hv
  -- who is waited for holds a lock, so it has not ended
  refine last ⟨k, hk⟩ (fun ended => ?_) (.single waits)
  have nothing := (reach.orderly _ (List.getElem_mem hk)).held_of_ended ended
  rw [nothing] at holds
  cases holds

/-- **Units never deadlock.** In every state that credits and withdrawals can
bring a database into, however many of them there are, whomever they credit,
whoever is the referrer of whom and whatever the database replies: each unit took
the locks that it holds in ascending order, and the statement that it sends next
is in order; no lock is held by two units; no unit waits for itself, directly or
over others; and if some of them have not ended, one of these waits for nobody. -/
theorem never_deadlock (reach : Reachable ss) :
    (∀ u ∈ ss, u.held.Pairwise fun newer older => older.Precedes newer)
      ∧ (∀ u ∈ ss, u.wanted = none → ∀ s next, u.rest = .call s next →
          s.InOrder u.order u.held u.log)
      ∧ (∀ n u l, ss[n]? = some u → l ∈ u.held → ¬ HeldBeside ss n l)
      ∧ (∀ n, ¬ Relation.TransGen (WaitsFor ss) n n)
      ∧ ((∃ u ∈ ss, ¬ u.Ended) →
          ∃ n u, ss[n]? = some u ∧ ¬ u.Ended ∧ ∀ k, ¬ WaitsFor ss n k) := by
  refine ⟨fun u hu => (reach.orderly u hu).ascending, fun u hu idle s next here => ?_,
    fun n u l => reach.exclusive, reach.not_waits_for_itself, reach.exists_free⟩
  have program := (reach.orderly u hu).idle idle
  rw [here] at program
  exact program.1

/-- Two users who are each other's referrer are credited at the same time. The
second credit has to wait for the first, at the row that both lock first. -/
theorem never_deadlock_of_mutual_referrers :
    let credit (user : Int) : StoreOp := .creditReward ⟨user, 50, 5, ⟨0, 0⟩⟩
    ∃ ss, Reachable ss ∧ ss.map (·.order) = [credit 1, credit 2] ∧ WaitsFor ss 1 0
      ∧ ∀ n, ¬ Relation.TransGen (WaitsFor ss) n n := by
  intro credit
  let referredBy (referrer : Int) : DatabaseReply := .rows [⟨[("referer_id", .int referrer)]⟩]
  -- both begin, and find their referrers
  have r : Reachable [.new (credit 1), .new (credit 2)] :=
    .step (.step .none (.begin (credit 1) trivial)) (.begin (credit 2) trivial)
  have r := r.step (.act (n := 0) rfl (.send rfl rfl (List.nil_sublist _)))
  have r := r.step (.act (n := 0) rfl
    (@OpenUnit.Step.reply _ _ _ _ _ (.changed 0) rfl rfl (fun _ => rfl) nofun))
  have r := r.step (.act (n := 0) rfl (.send rfl rfl (List.nil_sublist _)))
  have r := r.step (.act (n := 0) rfl
    (@OpenUnit.Step.reply _ _ _ _ _ (referredBy 2) rfl rfl (fun _ => rfl) nofun))
  have r := r.step (.act (n := 1) rfl (.send rfl rfl (List.nil_sublist _)))
  have r := r.step (.act (n := 1) rfl
    (@OpenUnit.Step.reply _ _ _ _ _ (.changed 0) rfl rfl (fun _ => rfl) nofun))
  have r := r.step (.act (n := 1) rfl (.send rfl rfl (List.nil_sublist _)))
  have r := r.step (.act (n := 1) rfl
    (@OpenUnit.Step.reply _ _ _ _ _ (referredBy 1) rfl rfl (fun _ => rfl) nofun))
  -- both lock the same two rows in the same order, and the first is faster
  let rows : List Lock := [.user 1, .user 2]
  have first : rows.Sublist (Statement.lockUsers [1, 2]).locks :=
    List.Sublist.map Lock.user (show [1, 2].Sublist (distinctAscending [1, 2]) by
      rw [@distinctAscending_eq [1, 2] [1, 2] (by decide) fun id => Iff.rfl])
  have second : rows.Sublist (Statement.lockUsers [2, 1]).locks :=
    List.Sublist.map Lock.user (show [1, 2].Sublist (distinctAscending [2, 1]) by
      rw [@distinctAscending_eq [2, 1] [1, 2] (by decide) fun id => by simp [or_comm]])
  have r := r.step (.act (n := 0) rfl (.send rfl rfl first))
  have r := r.step (.act (n := 1) rfl (.send rfl rfl second))
  have r := r.step (.act (n := 0) rfl (.take rfl ?_))
  · refine ⟨_, r, rfl, ⟨_, _, .user 1, rfl, rfl, ⟨_, rfl, nofun⟩, List.mem_cons_self⟩, ?_⟩
    exact (never_deadlock r).2.2.2.1
  · rintro ⟨k, v, -, hv, holds⟩
    rcases k with _ | _ | k
    · cases hv
      cases holds
    · cases hv
      cases holds
    · cases hv

end OpenUnits

end RewardLedger
