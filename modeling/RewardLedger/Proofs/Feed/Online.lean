import RewardLedger.Proofs.Feed.Told

/-!
# The number of clients online

Who joins counts before its client is held, and who leaves counts when its client is gone; either
announces the number later still. So if tasks do this at the same time, each may miss what the
other does to the connections, and the number that is announced last is out of date already.
It also gets out of date when a sweep evicts a connection, which nobody announces: the task that
serves the client is told by the hub that the connection was not held any more, and says nothing.

With neither of the two the number is right. Nobody but the task itself has a client held or let
go after it counted (`Feed.Reachable.alone`, `Feed.Reachable.nobody_left`), so the account of the
connections since then comes to the number (`Feed.Reachable.right`). Neither of them can be left
out (`Feed.not_told_right`).
-/

namespace RewardLedger

open Api.Connection

namespace Feed

/-- **A task lets the number of connections change**: it counts, and has its client held in the
end, or it lets its client go, and announces how many are left in the end. -/
inductive Passes (log : List Moment) (task : Nat) : Nat → Nat → Prop
  | joins {first last client : Nat} (inOrder : first < last)
    (counts : Does log task first .activeCount)
    (held : Does log task last (.subscribe client)) : Passes log task first last
  | leaves {first last id : Nat} {payload : String} (inOrder : first < last)
    (lets : Does log task first (.unsubscribe id))
    (tells : Does log task last (.broadcast payload)) : Passes log task first last

/-- Nobody is in the middle of joining or leaving: whoever serves a client has not begun, or
waits for its next message, or is done. -/
def AtRest (f : Feed) : Prop :=
  ∀ (task client : Nat) (messages : List Message) (e : Effect)
    (next : e.Reply → Program Effect Effect.Reply (Outcome PUnit)),
    f.pool.tasks[task]? = some ⟨_, (serve client messages).run, .call e next⟩ →
      turnsOf f.log task = [] ∨ e = .write client "pong" ∨ ∃ id, e = .unsubscribe id

/-- Nobody else joins or leaves while a task lets its client join or leave. -/
def Undisturbed (f : Feed) (task : Nat) : Prop :=
  ∀ other i j k l, other ≠ task → Passes f.log task i j → Passes f.log other k l → j < k ∨ l < i

/-- Clients come and go one at a time. -/
def OneAtATime (f : Feed) : Prop := ∀ task, f.Undisturbed task

/-! ## Who was held -/

/-- Only a turn of whoever joins holds a connection. -/
theorem subscriptions_eq_nil {log : List Moment}
    (others : ∀ task found client, .turn ⟨task, found, .subscribe client⟩ ∉ log) :
    Hub.subscriptions (events log) = [] := by
  refine List.eq_nil_iff_forall_not_mem.2 fun slot subscribed => ?_
  obtain ⟨task, found, turn, -⟩ := mem_subscriptions.1 subscribed
  exact others task found slot.client turn

/-- One connection is held in a log in which one turn holds a connection. -/
theorem length_subscriptions_of_once {log : List Moment} {s : Nat} {task client : Nat}
    {found : Service Memory} (held : log[s]? = some (.turn ⟨task, found, .subscribe client⟩))
    (once : ∀ k b d, Does log b k (.subscribe d) → k = s) :
    (Hub.subscriptions (events log)).length = 1 := by
  have before : Hub.subscriptions (events (log.take s)) = [] :=
    subscriptions_eq_nil fun b found d held => by
      obtain ⟨k, early, hk⟩ := exists_place_of_mem_take held
      exact absurd (once k b d ⟨found, hk⟩) (Nat.ne_of_lt early)
  have after : Hub.subscriptions (events (log.drop (s + 1))) = [] :=
    subscriptions_eq_nil fun b found d held => by
      obtain ⟨k, hk⟩ := List.getElem?_of_mem held
      rw [List.getElem?_drop] at hk
      have := once _ b d ⟨found, hk⟩
      omega
  unfold Hub.subscriptions at before after ⊢
  rw [split_at held, events_append, List.filterMap_append, before]
  show (_ :: (events _).filterMap _).length = 1
  rw [after]
  rfl

/-- Nothing is removed if nobody leaves and every write succeeds. -/
theorem removals_eq_nil {log : List Moment}
    (stay : ∀ task found id, .turn ⟨task, found, .unsubscribe id⟩ ∈ log →
      (found.hub.unsubscribe id).1 = false)
    (taken : AllTaken log) : Hub.removals (events log) = [] := by
  refine List.eq_nil_iff_forall_not_mem.2 fun id removed => ?_
  obtain ⟨task, found, lets, held⟩ | ⟨payload, writes, ended, w, hw, -, failed⟩ :=
    exists_of_mem_removals removed
  · rw [stay task found id lets] at held
    cases held
  · exact failed (taken w.2 (List.mem_flatMap.2 ⟨_, ended, List.mem_map_of_mem hw⟩))

section Reachable

variable {f : Feed} (reach : f.Reachable) {task client : Nat}

include reach

/-- Every connection that is held was had held by a task. -/
theorem Reachable.exists_holds {slot : Slot Nat} (held : slot ∈ f.hub.slots) :
    ∃ task, f.Holds task slot := by
  obtain ⟨task, found, subscribed, number⟩ :=
    mem_subscriptions.1 (reach.runs.connections.known slot held)
  exact ⟨task, held, found, subscribed, number⟩

section Serves

variable (serves : f.Serves task client)

include serves

/-- Whoever is let go was held. -/
theorem Reachable.held_before {u id : Nat} (lets : Does f.log task u (.unsubscribe id)) :
    ∃ s, s < u ∧ Does f.log task s (.subscribe client) := by
  obtain ⟨j, answers, staying, -, -⟩ := (reach.course_at serves lets).unsubscribe_eq
  refine does_of_mem (t := ⟨task, j.held, .subscribe client⟩) (staying ▸ ?_)
  exact List.mem_append_right _ List.mem_cons_self

/-- Whoever is held was announced, and counted before. -/
theorem Reachable.announced_before {s c : Nat} (held : Does f.log task s (.subscribe c)) :
    ∃ q n count, n < q ∧ q < s ∧ Does f.log task n .activeCount
      ∧ Does f.log task q (.broadcast (Frame.ofUsersOnline count).text) := by
  obtain ⟨-, j, coming⟩ := (reach.course_at serves held).subscribe_eq
  obtain ⟨q, hq, announced, before⟩ := exists_place ((j.coming task).take 3) coming
  obtain ⟨n, hn, counted, -⟩ := exists_place [] before
  exact ⟨q, n, j.online, hn, hq, ⟨_, counted⟩, ⟨_, announced⟩⟩

variable (rest : f.AtRest)

include rest

/-- At rest a connection is not begun, or it is over, or its client stays. -/
theorem Reachable.settled : turnsOf f.log task = [] ∨ Over task client (turnsOf f.log task)
    ∨ ∃ (j : Joining client) (answers : List Turn), turnsOf f.log task = j.staying task answers
      ∧ ∀ t ∈ answers, t.effect = .write client "pong" := by
  obtain ⟨messages, q, hn⟩ := serves
  have follows := (reach.history.follows hn).2
  change Program.Follows _ (turnsOf f.log task) q at follows
  obtain ⟨e, next, rfl, course⟩ | ⟨_, -, ended⟩ :=
    follows_serve (fun t ht => (mem_turnsOf.1 ht).2) follows
  · obtain none | pong | ⟨id, rfl⟩ := rest task client messages e next hn
    · exact .inl none
    · exact .inr (.inr (course.pong pong))
    · obtain ⟨j, answers, staying, -, pongs⟩ := course.unsubscribe_eq
      exact .inr (.inr ⟨j, answers, staying, pongs⟩)
  · exact .inr (.inl ended)

/-- At rest whoever was announced was held before or is held. -/
theorem Reachable.held_of_announced {q : Nat} {payload : String}
    (announced : Does f.log task q (.broadcast payload)) :
    ∃ s, Does f.log task s (.subscribe client) := by
  obtain ⟨found, place⟩ := announced
  have mem : ⟨task, found, .broadcast payload⟩ ∈ turnsOf f.log task :=
    mem_turnsOf.2 ⟨List.mem_of_getElem? place, rfl⟩
  obtain ⟨j, held⟩ :
      ∃ j : Joining client, ⟨task, j.held, .subscribe client⟩ ∈ turnsOf f.log task := by
    obtain none | ended | ⟨j, answers, staying, -⟩ := reach.settled serves rest
    · rw [none] at mem
      cases mem
    · exact ended.subscribed mem rfl
    · exact ⟨j, staying ▸ List.mem_append_right _ List.mem_cons_self⟩
  obtain ⟨s, hs⟩ := List.getElem?_of_mem (mem_turnsOf.1 held).1
  exact ⟨s, j.held, hs⟩

/-- At rest whoever let its client go, and was not too late, told the others. -/
theorem Reachable.told_of_left {u id : Nat} {found : Service Memory}
    (lets : f.log[u]? = some (.turn ⟨task, found, .unsubscribe id⟩))
    (held : (found.hub.unsubscribe id).1 = true) :
    ∃ q count, u < q ∧ Does f.log task q (.broadcast (Frame.ofUsersOnline count).text) := by
  have mem : ⟨task, found, .unsubscribe id⟩ ∈ turnsOf f.log task :=
    mem_turnsOf.2 ⟨List.mem_of_getElem? lets, rfl⟩
  obtain none | ended | ⟨j, answers, staying, pongs⟩ := reach.settled serves rest
  · rw [none] at mem
    cases mem
  · obtain ⟨before, told, recounted, whole, early⟩ := ended.told mem held
    have all : turnsOf (f.log.take f.log.length) task = before ++ [_] :=
      (congrArg (turnsOf · task) List.take_length).trans whole
    obtain ⟨q, -, place, first⟩ := exists_place _ all
    obtain ⟨k, hk, again⟩ := does_of_mem (first ▸ early)
    obtain rfl := reach.unsubscribe_unique serves ⟨found, lets⟩ again
    exact ⟨q, recounted.hub.activeCount, hk, told, place⟩
  · exact absurd rfl (j.unsubscribe_of_mem_staying pongs (staying ▸ mem) id)

/-- **Whoever announces a number** lets the number of connections change around it. -/
theorem Reachable.passes {c q own v : Nat} (announces : Announces f.log task c q own v) :
    ∃ first last, Passes f.log task first last ∧ first ≤ c ∧ q ≤ last := by
  cases announces with
  | joining inOrder count _ queue coming =>
    obtain ⟨s, held⟩ := reach.held_of_announced serves rest queue
    have later := coming s client held
    exact ⟨c, s, .joins (Nat.lt_trans inOrder later) ⟨_, count⟩ held, Nat.le_refl c,
      Nat.le_of_lt later⟩
  | @leaving u _ _ id _ gone inOrder lets _ queue =>
    exact ⟨u, q, .leaves (Nat.lt_trans gone inOrder) lets queue, Nat.le_of_lt gone, Nat.le_refl q⟩

end Serves

/-! ## After the last announcement -/

section Last

variable (rest : f.AtRest) (single : f.Undisturbed task) (serves : f.Serves task client)
  {c q own v : Nat} (announces : Announces f.log task c q own v)
  (last : ∀ k m, q < k → f.log[k]? = some m → m.announced? = none)

include serves announces last

omit reach serves announces in
/-- No number is announced later. -/
theorem announced_le {b k count : Nat}
    (does : Does f.log b k (.broadcast (Frame.ofUsersOnline count).text)) : k ≤ q := by
  obtain ⟨found, place⟩ := does
  refine Nat.le_of_not_lt fun later => ?_
  have none := last k _ later place
  rw [Moment.announced?_ofUsersOnline] at none
  cases none

include single rest

/-- **Nobody else was held** since the connections were counted for the last time. -/
theorem Reachable.alone {s : Nat} {t : Turn} {d : Nat} (late : c < s)
    (hs : f.log[s]? = some (.turn t)) (held : t.effect = .subscribe d) : t.task = task := by
  obtain ⟨b, found, e⟩ := t
  cases held
  have held : Does f.log b s (.subscribe d) := ⟨found, hs⟩
  obtain ⟨other, serving⟩ := reach.serves_of_does held not_false
  obtain ⟨k, n, count, counted, before, counts, queue⟩ := reach.announced_before serving held
  obtain ⟨i, j, passes, hi, hj⟩ := reach.passes serves rest announces
  have early := announced_le last queue
  refine Decidable.byContradiction fun different => ?_
  -- its announcement came before the last one, so the two were in each other's way
  have apart : k ≠ q := fun same => different (same ▸ queue |>.task_eq announces.queue)
  have := single b i j n s different passes (.joins (Nat.lt_trans counted before) counts held)
  omega

/-- **Nobody left** since the connections were counted for the last time. -/
theorem Reachable.nobody_left {u b id : Nat} {found : Service Memory} (late : c < u)
    (lets : f.log[u]? = some (.turn ⟨b, found, .unsubscribe id⟩)) :
    (found.hub.unsubscribe id).1 = false := by
  refine Bool.eq_false_iff.2 fun held => ?_
  have left : Does f.log b u (.unsubscribe id) := ⟨found, lets⟩
  obtain ⟨other, serving⟩ := reach.serves_of_does left not_false
  obtain ⟨k, count, later, queue⟩ := reach.told_of_left serving rest lets held
  have early := announced_le last queue
  by_cases same : b = task
  · subst same
    cases announces with
    | joining _ _ _ _ coming =>
      obtain ⟨s, before, held⟩ := reach.held_before serving left
      have := coming s _ held
      omega
    | leaving gone _ first =>
      have := reach.unsubscribe_unique serving first left
      omega
  · obtain ⟨i, j, passes, hi, hj⟩ := reach.passes serves rest announces
    have apart : k ≠ q := fun eq => same (eq ▸ queue |>.task_eq announces.queue)
    have := single b i j u k same passes (.leaves later left queue)
    omega

/-- **Since the connections were counted for the last time** only the client itself was held
that the number allows for. -/
theorem Reachable.held_since : (Hub.subscriptions (events (f.log.drop c))).length = own := by
  obtain ⟨counting, count, -⟩ := announces.count
  -- whoever was held since was held where the task had its client held
  have once {s k b d e : Nat} (held : Does f.log task s (.subscribe e))
      (since : Does (f.log.drop c) b k (.subscribe d)) : c < s ∧ c + k = s := by
    obtain ⟨found, since⟩ := since
    obtain ⟨late, hk⟩ := getElem?_since count since nofun
    obtain rfl := reach.alone rest single serves announces last late hk rfl
    obtain rfl := reach.subscribe_unique serves ⟨found, hk⟩ held
    exact ⟨late, rfl⟩
  cases announces with
  | joining inOrder _ _ queue coming =>
    obtain ⟨s, found, place⟩ := reach.held_of_announced serves rest queue
    have late := coming s client ⟨found, place⟩
    have here : (f.log.drop c)[s - c]? = some (.turn ⟨task, found, .subscribe client⟩) := by
      rw [List.getElem?_drop, Nat.add_sub_cancel' (by omega)]
      exact place
    refine length_subscriptions_of_once here fun k b d held => ?_
    have := (once ⟨found, place⟩ held).2
    omega
  | leaving gone _ lets =>
    -- its own client was held before it let it go
    obtain ⟨s, early, held⟩ := reach.held_before serves lets
    rw [subscriptions_eq_nil fun b found d since => ?_, List.length_nil]
    obtain ⟨k, hk⟩ := List.getElem?_of_mem since
    have := (once held ⟨found, hk⟩).1
    omega

/-- **Since the connections were counted for the last time** none was removed, if every write of
a sweep succeeded. -/
theorem Reachable.removed_since (taken : AllTaken (f.log.drop c)) :
    Hub.removals (events (f.log.drop c)) = [] := by
  obtain ⟨counting, count, -⟩ := announces.count
  refine removals_eq_nil (fun b found id lets => ?_) taken
  obtain ⟨k, since⟩ := List.getElem?_of_mem lets
  obtain ⟨late, hk⟩ := getElem?_since count since nofun
  exact reach.nobody_left rest single serves announces last late hk

/-- **The number announced last is right** if nobody else joined or left with whoever announced
it, and every write succeeded since. -/
theorem Reachable.right (drained : f.Drained) (taken : AllTaken (f.log.drop c)) {b : Nat}
    {slot : Slot Nat} (holds : f.Holds b slot) :
    f.told? b slot.id = some f.hub.activeCount := by
  rw [reach.told_last drained announces last
    (fun _ _ _ late hs held => reach.alone rest single serves announces last late hs held) holds]
  obtain ⟨found, count, rfl⟩ := announces.count
  have account := reach.accounts count
  rw [reach.removed_since rest single serves announces last taken, List.length_nil,
    reach.held_since rest single serves announces last] at account
  exact congrArg some account.symm

end Last

end Reachable

/-- **Clients are told what was counted**, and that may be out of date. -/
structure TellsCounts (f : Feed) : Prop where
  /-- Every connection is served. -/
  served : ∀ slot ∈ f.hub.slots, ∃ task, f.Holds task slot
  /-- The number that a client was told last was announced by somebody who counted the
  connections, and added itself if it joined. It differs from the number of connections by those
  that came and went since they were counted. -/
  told : ∀ task slot, f.Holds task slot → ∃ number announcer counted queued own,
    f.told? task slot.id = some number
      ∧ Announces f.log announcer counted queued own number
      ∧ f.hub.activeCount + own + (Hub.removals (events (f.log.drop counted))).length
        = number + (Hub.subscriptions (events (f.log.drop counted))).length
  /-- When everything is delivered, all clients were told the number that was announced last,
  if nobody else was held since it was counted. -/
  last : f.Drained → ∀ announcer counted queued own number,
    Announces f.log announcer counted queued own number →
    (∀ k m, queued < k → f.log[k]? = some m → m.announced? = none) →
    (∀ s t client, counted < s → f.log[s]? = some (.turn t) → t.effect = .subscribe client →
      t.task = announcer) →
    ∀ task slot, f.Holds task slot → f.told? task slot.id = some number
  /-- When moreover nobody is in the middle of joining or leaving, that number is right, if
  nobody else joined or left with whoever announced it, and every write succeeded since. -/
  right : f.Drained → f.AtRest → ∀ announcer counted queued own number,
    Announces f.log announcer counted queued own number →
    (∀ k m, queued < k → f.log[k]? = some m → m.announced? = none) →
    f.Undisturbed announcer → AllTaken (f.log.drop counted) →
    ∀ task slot, f.Holds task slot → f.told? task slot.id = some f.hub.activeCount
  /-- So it is right if clients came and went one at a time and every write succeeded. -/
  orderly : f.Drained → f.AtRest → f.OneAtATime → AllTaken f.log →
    ∀ task slot, f.Holds task slot → f.told? task slot.id = some f.hub.activeCount

/-- **Clients are told what was counted.** Whatever a client was told last was announced by
somebody who joined or left, and is off by the connections that were held or removed since it
counted them. When everything is delivered and nobody is in the middle of joining or leaving, it
is the number of connections, if whoever announced something last joined or left alone, and no
write failed since it counted. -/
theorem tells_counts {f : Feed} (reach : f.Reachable) : f.TellsCounts := by
  have right (drained : f.Drained) (rest : f.AtRest) {q c own v announcer : Nat}
      (announces : Announces f.log announcer c q own v)
      (last : ∀ k m, q < k → f.log[k]? = some m → m.announced? = none)
      (single : f.Undisturbed announcer) (taken : AllTaken (f.log.drop c)) {task : Nat}
      {slot : Slot Nat} (holds : f.Holds task slot) :
      f.told? task slot.id = some f.hub.activeCount := by
    obtain ⟨client, serves⟩ :=
      reach.serves_of_does announces.queue (Effect.not_apart_ofUsersOnline v)
    exact reach.right rest single serves announces last drained taken holds
  constructor
  case served => exact fun _ held => reach.exists_holds held
  case told =>
    intro task slot holds
    obtain ⟨number, announcer, c, q, own, told, announces⟩ := reach.told holds
    obtain ⟨found, count, rfl⟩ := announces.count
    have account := reach.accounts count
    exact ⟨_, announcer, c, q, own, told, announces, by omega⟩
  case last =>
    exact fun drained _ _ _ _ _ announces last alone _ _ holds =>
      reach.told_last drained announces last alone holds
  case right =>
    exact fun drained rest _ _ _ _ _ announces last single taken _ _ holds =>
      right drained rest announces last single taken holds
  case orderly =>
    intro drained rest single taken task slot holds
    obtain ⟨_, _, _, _, _, -, announced⟩ := reach.told holds
    obtain ⟨found, place⟩ := announced.queue
    -- something was announced, so something was announced last
    obtain ⟨v, final⟩ : ∃ v, (f.log.filterMap (·.announced?)).getLast? = some v := by
      refine Option.ne_none_iff_exists'.1 fun none => ?_
      have told := List.mem_filterMap.2
        ⟨_, List.mem_of_getElem? place, Moment.announced?_ofUsersOnline _ _ found⟩
      rw [List.getLast?_eq_none_iff.1 none] at told
      cases told
    obtain ⟨q, m, hq, hv, last⟩ := exists_last_announced final
    obtain ⟨announcer, _, c, own, -, announces⟩ := reach.announces hq hv
    refine right drained rest announces last (single announcer) (fun w hw => ?_) holds
    obtain ⟨m, hm, hw⟩ := List.mem_flatMap.1 hw
    exact taken w (List.mem_flatMap.2 ⟨m, List.mem_of_mem_drop hm, hw⟩)

/-! ## Two clients -/

/-- Clients come and go one at a time if no task has a turn behind those of a later one. -/
theorem oneAtATime_of_sorted {f : Feed}
    (sorted : ((f.log.filterMap (·.turn?)).map (·.task)).Pairwise (· ≤ ·)) : f.OneAtATime := by
  rw [List.pairwise_map, List.pairwise_filterMap, List.pairwise_iff_getElem] at sorted
  have inOrder {a b i k : Nat} {e e' : Effect} (first : Does f.log a i e)
      (second : Does f.log b k e') (early : a < b) : i < k := by
    have apart : k ≠ i := fun same => Nat.ne_of_lt early ((same ▸ first).task_eq second)
    obtain ⟨found, hi⟩ := first
    obtain ⟨found', hk⟩ := second
    obtain ⟨inside, hi⟩ := List.getElem?_eq_some_iff.1 hi
    obtain ⟨inside', hk⟩ := List.getElem?_eq_some_iff.1 hk
    refine Nat.lt_of_not_le fun late => Nat.not_le_of_lt early ?_
    exact sorted k i inside' inside (Nat.lt_of_le_of_ne late apart)
      ⟨b, found', e'⟩ (by rw [hk]; rfl) ⟨a, found, e⟩ (by rw [hi]; rfl)
  have ends {task first last : Nat} (passes : Passes f.log task first last) :
      (∃ e, Does f.log task first e) ∧ ∃ e, Does f.log task last e := by
    cases passes with
    | joins _ counts held => exact ⟨⟨_, counts⟩, _, held⟩
    | leaves _ lets tells => exact ⟨⟨_, lets⟩, _, tells⟩
  intro task other i j k l different first second
  obtain ⟨⟨_, hi⟩, _, hj⟩ := ends first
  obtain ⟨⟨_, hk⟩, _, hl⟩ := ends second
  obtain early | early := Nat.lt_or_gt_of_ne different
  · exact .inr (inOrder hl hi early)
  · exact .inl (inOrder hj hk early)

/-- Nobody joins or leaves while all clients stay. -/
theorem atRest_of_staying {f : Feed}
    (staying : ∀ (n : Nat) (task : Task), f.pool.tasks[n]? = some task → ∃ client messages id next,
      task = ⟨_, (serve client messages).run, .call (.unsubscribe id) next⟩) : f.AtRest := by
  intro task client messages e next calls
  obtain ⟨_, _, id, _, same⟩ := staying task _ calls
  have waits := (Program.call.inj (eq_of_heq (Task.mk.inj same).2.2)).1
  exact .inr (.inr ⟨id, waits⟩)

/-- Two clients come, with a task to serve each of them. -/
theorem reachable_two_coming : Reachable
    ⟨⟨{ Service.new .empty 10 ⟨0, 0⟩ with clients := [.new .prompt, .new .prompt] },
      [⟨_, (serve 0 []).run, (serve 0 []).run⟩, ⟨_, (serve 1 []).run, (serve 1 []).run⟩]⟩,
      false, []⟩ := by
  have started := Reachable.new
    (s := { Service.new Memory.empty 10 ⟨0, 0⟩ with clients := [.new .prompt, .new .prompt] })
    .empty rfl rfl
  exact (started.step (.start (.serve 0 []))).step (.start (.serve 1 []))

/-- Two clients joined one after the other, and everything was delivered. What came of the last
write is left open: the second client may have broken off. -/
theorem exists_joined_in_turn (w : WriteResult) : ∃ f : Feed, f.Reachable ∧ f.Drained ∧ f.AtRest
    ∧ f.OneAtATime ∧ (w.Succeeded → AllTaken f.log) ∧ f.Holds 0 ⟨1, 0⟩ ∧ f.told? 0 1 = some 2
    ∧ f.hub.activeCount = if w.Succeeded then 2 else 1 := by
  have shown := ((reachable_two_coming.step (.act (n := 0) rfl fun _ => rfl)).step
    (.act (n := 0) rfl fun _ => rfl)).step (.act (n := 0) rfl fun _ => rfl)
  have held := (shown.step (.act (n := 0) rfl fun _ => rfl)).step (.act (n := 0) rfl fun _ => rfl)
  have told := (held.step (.begin rfl rfl)).step (.finish [.taken] rfl rfl rfl)
  -- the second client joins
  have shown := ((told.step (.act (n := 1) rfl fun _ => rfl)).step
    (.act (n := 1) rfl fun _ => rfl)).step (.act (n := 1) rfl fun _ => rfl)
  have held := (shown.step (.act (n := 1) rfl fun _ => rfl)).step (.act (n := 1) rfl fun _ => rfl)
  have told := (held.step (.begin rfl rfl)).step (.finish [.taken, w] rfl rfl rfl)
  refine ⟨_, told, ⟨rfl, rfl⟩, ?rest, ?single, ?taken, ⟨?held, ?subscribed⟩, ?last, ?count⟩
  case rest =>
    refine atRest_of_staying ?_
    rintro (_ | _ | _) task calls
    · exact ⟨0, [], 1, _, (Option.some.inj calls).symm⟩
    · exact ⟨1, [], 2, _, (Option.some.inj calls).symm⟩
    · cases calls
  case single =>
    refine oneAtATime_of_sorted ?_
    show [0, 0, 0, 0, 0, 1, 1, 1, 1, 1].Pairwise (· ≤ ·)
    decide
  case taken =>
    intro succeeded
    show ∀ v ∈ [.taken, .taken, w], v.Succeeded
    exact List.forall_mem_cons.2 ⟨rfl, List.forall_mem_cons.2
      ⟨rfl, List.forall_mem_singleton.2 succeeded⟩⟩
  case held => cases w <;> decide
  case subscribed => exact ⟨_, List.mem_of_getElem? (i := 4) rfl, rfl⟩
  case last =>
    have sent : [(Frame.snapshot 1 []).text, (Frame.ofUsersOnline 1).text,
        (Frame.ofUsersOnline 2).text].filterMap Frame.online? = [1, 1, 2] := by
      simp [Frame.online?_snapshot, Frame.online?_ofUsersOnline]
    exact congrArg List.getLast? sent
  case count => cases w <;> rfl

/-- Two clients joined at the same time, and everything was delivered: each of them counted
before the other one was held. -/
theorem exists_joined_at_once : ∃ f : Feed, f.Reachable ∧ f.Drained ∧ f.AtRest ∧ AllTaken f.log
    ∧ f.Holds 0 ⟨1, 0⟩ ∧ f.told? 0 1 = some 1 ∧ f.hub.activeCount = 2 := by
  have counted := (reachable_two_coming.step (.act (n := 0) rfl fun _ => rfl)).step
    (.act (n := 1) rfl fun _ => rfl)
  have shown := (counted.step (.act (n := 0) rfl fun _ => rfl)).step
    (.act (n := 0) rfl fun _ => rfl)
  have held := (shown.step (.act (n := 0) rfl fun _ => rfl)).step (.act (n := 0) rfl fun _ => rfl)
  have shown := (held.step (.act (n := 1) rfl fun _ => rfl)).step (.act (n := 1) rfl fun _ => rfl)
  have held := (shown.step (.act (n := 1) rfl fun _ => rfl)).step (.act (n := 1) rfl fun _ => rfl)
  have told := (held.step (.begin rfl rfl)).step (.finish [.taken, .taken] rfl rfl rfl)
  have told := (told.step (.begin rfl rfl)).step (.finish [.taken, .taken] rfl rfl rfl)
  refine ⟨_, told, ⟨rfl, rfl⟩, ?rest, ?taken, ⟨?held, ?subscribed⟩, ?last, rfl⟩
  case rest =>
    refine atRest_of_staying ?_
    rintro (_ | _ | _) task calls
    · exact ⟨0, [], 1, _, (Option.some.inj calls).symm⟩
    · exact ⟨1, [], 2, _, (Option.some.inj calls).symm⟩
    · cases calls
  case taken =>
    show ∀ v ∈ [.taken, .taken, .taken, .taken], WriteResult.Succeeded v
    decide
  case held => decide
  case subscribed => exact ⟨_, List.mem_of_getElem? (i := 5) rfl, rfl⟩
  case last =>
    have sent : [(Frame.snapshot 1 []).text, (Frame.ofUsersOnline 1).text,
        (Frame.ofUsersOnline 1).text].filterMap Frame.online? = [1, 1, 1] := by
      simp [Frame.online?_snapshot, Frame.online?_ofUsersOnline]
    exact congrArg List.getLast? sent

/-- Two clients joined one after the other and took everything: both are online, and the first
one was told so. -/
theorem tells_counts_of_two_joined : ∃ f : Feed, f.Reachable ∧ f.Drained ∧ f.AtRest
    ∧ f.OneAtATime ∧ AllTaken f.log ∧ f.Holds 0 ⟨1, 0⟩ ∧ f.TellsCounts ∧ f.hub.activeCount = 2
    ∧ f.told? 0 1 = some f.hub.activeCount := by
  obtain ⟨f, reach, drained, rest, single, taken, holds, -, count⟩ := exists_joined_in_turn .taken
  have counts := tells_counts reach
  exact ⟨f, reach, drained, rest, single, taken rfl, holds, counts, count,
    counts.orderly drained rest single (taken rfl) 0 ⟨1, 0⟩ holds⟩

/-- **Neither condition can be left out.** Clients that come one at a time are told a wrong
number when a write fails: the connection is evicted in the sweep that tells of it, and nobody
counts again. And clients that take everything are told a wrong number when they come at the
same time. -/
theorem not_told_right : (¬ ∀ f : Feed, f.Reachable → f.Drained → f.AtRest → f.OneAtATime →
      ∀ task slot, f.Holds task slot → f.told? task slot.id = some f.hub.activeCount)
    ∧ ¬ ∀ f : Feed, f.Reachable → f.Drained → f.AtRest → AllTaken f.log →
      ∀ task slot, f.Holds task slot → f.told? task slot.id = some f.hub.activeCount := by
  constructor
  · intro right
    obtain ⟨f, reach, drained, rest, single, -, holds, told, count⟩ :=
      exists_joined_in_turn .failed
    have same := right f reach drained rest single 0 ⟨1, 0⟩ holds
    rw [told, count] at same
    cases same
  · intro right
    obtain ⟨f, reach, drained, rest, taken, holds, told, count⟩ := exists_joined_at_once
    have same := right f reach drained rest taken 0 ⟨1, 0⟩ holds
    rw [told, count] at same
    cases same

end Feed

end RewardLedger
