import RewardLedger.Proofs.Wire.Record
import RewardLedger.Proofs.Wire.Timestamp
import RewardLedger.Wire.Api

/-!
# The wire loses nothing but the referrer

What is written of users, incomes, withdrawals, frames, requests and pages is read back as it
was (`wire_loses_only_referrers`): any text, any number that can be held, and any instant that
can be read at all. Only the referrer of a user is not written, so that a user comes back
without one. The referrer of an income is.
-/

namespace RewardLedger

open Json (Reader Document)

namespace Json

variable {α β : Type} {held : α → Prop} {json : α → Json} {reader : Reader β} {left : α → β}

/-- **The texts of values give back what is left of them.** The text of a value is read as
that, whether or not more may follow it, so values of one text have the same left. -/
structure GivesBack (held : α → Prop) (json : α → Json) (reader : Reader β) (left : α → β) :
    Prop where
  wholeText : ∀ a, held a → reader.wholeText (json a).text = .ok (left a)
  headOfText : ∀ a, held a → reader.headOfText (json a).text = .ok (left a)
  injective : ∀ a b, held a → held b → (json a).text = (json b).text → left a = left b

/-- Texts give back what the values tell. -/
theorem givesBack_of_tells (tells : ∀ a, held a → (json a).Tells reader (left a)) :
    GivesBack held json reader left where
  wholeText a h := (tells a h).wholeText
  headOfText a h := (tells a h).headOfText
  injective a b ha hb same := by
    have read := (tells a ha).wholeText
    rw [same, (tells b hb).wholeText] at read
    exact (Except.ok.inj read).symm

end Json

open Json (GivesBack givesBack_of_tells tells_text tells_amount tells_count tells_choice
  tells_option tells_list tells_record)

/-! ## Instants and names -/

/-- An instant on the clock tells itself. -/
theorem Instant.tells {t : Instant} (h : t.OnClock) : t.json.Tells reader t := by
  refine Json.tells_parsed ?_
  rw [Timestamp.text, String.toList_ofList]
  exact Timestamp.parse?_chars h

/-- **The instants on the clock are those that a decoder can produce.** -/
theorem Instant.onClock_iff_read {t : Instant} :
    t.OnClock ↔ ∃ text, reader.wholeText text = .ok t := by
  refine ⟨fun h => ⟨_, (tells h).wholeText⟩, fun ⟨text, read⟩ => ?_⟩
  unfold Reader.wholeText at read
  dsimp only at read
  split at read
  · cases read
  · next t' parsed =>
    split at read
    · cases read
      unfold reader Reader.parsed at parsed
      split at parsed
      · split at parsed
        · next found =>
          cases parsed
          exact Timestamp.onClock_iff.2 ⟨_, found⟩
        · cases parsed
      · cases parsed
    · cases read

theorem IncomeSource.tells (s : IncomeSource) : s.json.Tells reader s :=
  tells_choice (ofName?_name s)

theorem WithdrawalStatus.tells (s : WithdrawalStatus) : s.json.Tells reader s :=
  tells_choice (ofName?_name s)

/-! ## The feed -/

/-- A notice is **held** if its amount fits and its time is on the clock. -/
structure IncomeNotice.Held (n : IncomeNotice) : Prop where
  amount : Amount.Fits n.amount
  time : n.time.OnClock

/-- A frame is **held** if its count can be reached and its notices are held. -/
structure Frame.Held (f : Frame) : Prop where
  usersOnline : ∀ n ∈ f.usersOnline, n ≤ Amount.greatestCount
  latestIncomes : ∀ latest ∈ f.latestIncomes, ∀ n ∈ latest, n.Held
  newIncome : ∀ n ∈ f.newIncome, n.Held

theorem IncomeNotice.tells {n : IncomeNotice} (h : n.Held) : n.json.Tells reader n :=
  tells_record
    (.given (tells_text _) <| .given (tells_amount h.amount) <|
      .given (IncomeSource.tells _) <| .given (Instant.tells h.time) .nil)
    (by decide) rfl

/-- The members of a frame, with the count as it is. -/
theorem Frame.json_eq (f : Frame) : f.json
    = .obj (Json.optionalMember "users_online" (fun n : Nat => .int n) f.usersOnline
      ++ Json.optionalMember "latest_incomes" (.ofList IncomeNotice.json) f.latestIncomes
      ++ Json.optionalMember "delta_income" IncomeNotice.json f.newIncome) := by
  obtain ⟨usersOnline, latest, notice⟩ := f
  cases usersOnline <;> rfl

theorem Frame.tells {f : Frame} (h : f.Held) : f.json.Tells reader f := by
  have latest : ∀ notices ∈ f.latestIncomes,
      (Json.ofList IncomeNotice.json notices).Tells (.list IncomeNotice.reader) notices := by
    intro notices listed
    have each := tells_list (r := IncomeNotice.reader) fun n hn =>
      IncomeNotice.tells (h.latestIncomes notices listed n hn)
    rwa [List.map_id'] at each
  have told := Json.Fields.Told.optional "users_online" (g := fun n : Nat => .int n)
    (fun n hn => tells_count (h.usersOnline n hn)) nofun <|
    .optional "latest_incomes" latest nofun <|
    .optional "delta_income" (fun n hn => IncomeNotice.tells (h.newIncome n hn)) nofun .nil
  rw [List.append_nil, ← List.append_assoc] at told
  rw [json_eq]
  exact tells_record told (by decide) rfl

/-! ## The ledger -/

/-- An income is **held** if its numbers fit and its time is on the clock. -/
structure Income.Held (i : Income) : Prop where
  id : Amount.Fits i.id
  user : Amount.Fits i.user
  referrer : ∀ r ∈ i.referrer, Amount.Fits r
  amount : Amount.Fits i.amount
  referrerAmount : Amount.Fits i.referrerAmount
  createdAt : i.createdAt.OnClock

/-- A withdrawal is **held** if its numbers fit and its times are on the clock. -/
structure Withdrawal.Held (w : Withdrawal) : Prop where
  id : Amount.Fits w.id
  user : Amount.Fits w.user
  amount : Amount.Fits w.amount
  createdAt : w.createdAt.OnClock
  updatedAt : w.updatedAt.OnClock

/-- What is known of a user is **held** if its numbers fit. -/
structure NewUser.Held (u : NewUser) : Prop where
  referrer : ∀ r ∈ u.referrer, Amount.Fits r
  rewardInterval : Amount.Fits u.rewardInterval

/-- A user is **held** if its numbers fit and its times are on the clock. -/
structure User.Held (u : User) : Prop where
  id : Amount.Fits u.id
  balance : Amount.Fits u.balance
  totalIncome : Amount.Fits u.totalIncome
  totalFromReferees : Amount.Fits u.totalFromReferees
  totalToReferrer : Amount.Fits u.totalToReferrer
  referrer : ∀ r ∈ u.referrer, Amount.Fits r
  rewardInterval : Amount.Fits u.rewardInterval
  rewardedAt : ∀ t ∈ u.rewardedAt, t.OnClock
  createdAt : u.createdAt.OnClock

/-- What is left of a user on the wire: all but the referrer. -/
def User.withoutReferrer (u : User) : User := { u with referrer := none }

theorem Income.tells {i : Income} (h : i.Held) : i.json.Tells reader i :=
  tells_record
    (.given (tells_amount h.id) <| .given (tells_amount h.user) <|
      .given (tells_option (fun r hr => tells_amount (h.referrer r hr)) nofun) <|
      .given (IncomeSource.tells _) <| .given (tells_amount h.amount) <|
      .given (tells_amount h.referrerAmount) <| .given (Instant.tells h.createdAt) .nil)
    (by decide) rfl

theorem Withdrawal.tells {w : Withdrawal} (h : w.Held) : w.json.Tells reader w :=
  tells_record
    (.given (tells_amount h.id) <| .given (tells_amount h.user) <| .given (tells_text _) <|
      .given (tells_amount h.amount) <| .given (WithdrawalStatus.tells _) <|
      .given (tells_option (fun s _ => tells_text s) nofun) <|
      .given (Instant.tells h.createdAt) <| .given (Instant.tells h.updatedAt) .nil)
    (by decide) rfl

theorem NewUser.tells {u : NewUser} (h : u.Held) : u.json.Tells reader u :=
  tells_record
    (.given (tells_text _) <| .given (tells_text _) <|
      .given (tells_option (fun r hr => tells_amount (h.referrer r hr)) nofun) <|
      .given (tells_amount h.rewardInterval) .nil)
    (by decide) rfl

/-- **A user tells all but its referrer.** -/
theorem User.tells {u : User} (h : u.Held) : u.json.Tells reader u.withoutReferrer :=
  tells_record
    (.given (tells_amount h.id) <| .given (tells_text _) <| .given (tells_text _) <|
      .given (tells_amount h.balance) <| .given (tells_amount h.totalIncome) <|
      .given (tells_amount h.totalFromReferees) <| .given (tells_amount h.totalToReferrer) <|
      .omitted rfl <| .given (tells_amount h.rewardInterval) <|
      .given (tells_option (fun t ht => Instant.tells (h.rewardedAt t ht)) nofun) <|
      .given (Instant.tells h.createdAt) .nil)
    (by decide) rfl

/-- **The text of a user names no referrer**, whatever the user is. -/
theorem User.unnamed_referrer (u : User) : ∃ members,
    Document.ofText u.json.text.toList = (.object members, true)
      ∧ "referer_id" ∉ members.names := by
  have plain : u.json.Plain := by
    refine .obj fun m listed => ?_
    have rewarded : (Json.ofOption Instant.json u.rewardedAt).Plain := by
      cases u.rewardedAt with
      | none => exact .null
      | some t => exact .str _
    simp only [List.mem_cons, List.not_mem_nil, or_false] at listed
    obtain rfl | rfl | rfl | rfl | rfl | rfl | rfl | rfl | rfl | rfl := listed
    all_goals first | exact .int _ | exact .str _ | exact rewarded
  have read : Document.ofText u.json.text.toList = (u.json.layout, true) := by
    rw [Json.text, String.toList_ofList, plain.ofText_chars]
  refine ⟨_, read, ?_⟩
  rw [Json.names_layoutMembers]
  simp

/-! ## Requests and pages -/

namespace Api

/-- A partner's notice is **held** if its numbers fit. -/
structure PartnerNotice.Held (n : PartnerNotice) : Prop where
  user : Amount.Fits n.user
  amount : Amount.Fits n.amount

/-- A request to withdraw is **held** if its amount fits. -/
def Payout.Held (p : Payout) : Prop := Amount.Fits p.amount

/-- A request to move withdrawals is **held** if their numbers fit. -/
def Advance.Held (a : Advance) : Prop := ∀ id ∈ a.ids, Amount.Fits id

/-- A page is **held** if its withdrawals are. -/
def WithdrawalPage.Held (p : WithdrawalPage) : Prop := ∀ w ∈ p.items, w.Held

/-- A page is **held** if its incomes are, and the number of all of them fits. -/
structure IncomePage.Held (p : IncomePage) : Prop where
  count : Amount.Fits p.count
  items : ∀ i ∈ p.items, i.Held

/-- A page is **held** if its users are. -/
def RefereePage.Held (p : RefereePage) : Prop := ∀ u ∈ p.items, u.Held

/-- What is left of a page of users on the wire. -/
def RefereePage.withoutReferrers (p : RefereePage) : RefereePage :=
  ⟨p.items.map User.withoutReferrer⟩

theorem PartnerNotice.tells {n : PartnerNotice} (h : n.Held) : n.json.Tells reader n :=
  tells_record
    (.given (tells_text _) <| .given (tells_amount h.user) <|
      .given (tells_amount h.amount) .nil)
    (by decide) rfl

theorem Payout.tells {p : Payout} (h : p.Held) : p.json.Tells reader p :=
  tells_record
    (.given (tells_amount h) <| .given (tells_option (fun s _ => tells_text s) nofun) .nil)
    (by decide) rfl

theorem Advance.tells {a : Advance} (h : a.Held) : a.json.Tells reader a :=
  tells_record
    (.given (tells_list fun id hid => tells_amount (h id hid)) <|
      .given (WithdrawalStatus.tells _) <| .given (WithdrawalStatus.tells _) <|
      .given (tells_option (fun s _ => tells_text s) nofun) .nil)
    (by decide) (by rw [List.map_id'])

theorem WithdrawalPage.tells {p : WithdrawalPage} (h : p.Held) : p.json.Tells reader p :=
  tells_record (.given (tells_list fun w hw => Withdrawal.tells (h w hw)) .nil) (by decide)
    (by rw [List.map_id'])

theorem IncomePage.tells {p : IncomePage} (h : p.Held) : p.json.Tells reader p :=
  tells_record
    (.given (tells_amount h.count) <|
      .given (tells_list fun i hi => Income.tells (h.items i hi)) .nil)
    (by decide) (by rw [List.map_id'])

/-- **A page of users tells all but their referrers.** -/
theorem RefereePage.tells {p : RefereePage} (h : p.Held) :
    p.json.Tells reader p.withoutReferrers :=
  tells_record (.given (tells_list fun u hu => User.tells (h u hu)) .nil) (by decide) rfl

end Api

/-- **The wire loses nothing but the referrer.** Every value that can be held is read back
from its text as it was, a user and every user on a page without the referrer. So no two
values have one text, but for users who differ in the referrer alone. No text of a user names
a referrer. The instants are all that can be read from any text. -/
theorem wire_loses_only_referrers :
    GivesBack IncomeNotice.Held IncomeNotice.json IncomeNotice.reader id
    ∧ GivesBack Frame.Held Frame.json Frame.reader id
    ∧ GivesBack Income.Held Income.json Income.reader id
    ∧ GivesBack Withdrawal.Held Withdrawal.json Withdrawal.reader id
    ∧ GivesBack NewUser.Held NewUser.json NewUser.reader id
    ∧ GivesBack Api.PartnerNotice.Held Api.PartnerNotice.json Api.PartnerNotice.reader id
    ∧ GivesBack Api.Payout.Held Api.Payout.json Api.Payout.reader id
    ∧ GivesBack Api.Advance.Held Api.Advance.json Api.Advance.reader id
    ∧ GivesBack Api.WithdrawalPage.Held Api.WithdrawalPage.json Api.WithdrawalPage.reader id
    ∧ GivesBack Api.IncomePage.Held Api.IncomePage.json Api.IncomePage.reader id
    ∧ GivesBack User.Held User.json User.reader User.withoutReferrer
    ∧ GivesBack Api.RefereePage.Held Api.RefereePage.json Api.RefereePage.reader
      Api.RefereePage.withoutReferrers
    ∧ (∀ u : User, ∃ members, Document.ofText u.json.text.toList = (.object members, true)
      ∧ "referer_id" ∉ members.names)
    ∧ ∀ t : Instant, t.OnClock ↔ ∃ text, Instant.reader.wholeText text = .ok t :=
  ⟨givesBack_of_tells fun _ => IncomeNotice.tells, givesBack_of_tells fun _ => Frame.tells,
    givesBack_of_tells fun _ => Income.tells, givesBack_of_tells fun _ => Withdrawal.tells,
    givesBack_of_tells fun _ => NewUser.tells,
    givesBack_of_tells fun _ => Api.PartnerNotice.tells,
    givesBack_of_tells fun _ => Api.Payout.tells,
    givesBack_of_tells fun _ => Api.Advance.tells,
    givesBack_of_tells fun _ => Api.WithdrawalPage.tells,
    givesBack_of_tells fun _ => Api.IncomePage.tells, givesBack_of_tells fun _ => User.tells,
    givesBack_of_tells fun _ => Api.RefereePage.tells, User.unnamed_referrer,
    fun _ => Instant.onClock_iff_read⟩

/-- A frame with the greatest count and the least amount, an address that has to be escaped,
and the last nanosecond of a leap second before the year zero. -/
theorem frame_given_back_of_leap_second :
    let n : IncomeNotice :=
      ⟨"\"\\\n\x01é", Amount.least, .adscendMedia, ⟨-62198755201, 1999999999⟩⟩
    let f : Frame := ⟨some Amount.greatestCount, some [n, n], none⟩
    f.Held ∧ Timestamp.text n.time = "-0002-12-31T23:59:60.999999999Z"
      ∧ Frame.reader.wholeText f.text = .ok f := by
  intro n f
  have notice : n.Held := ⟨by decide, ⟨by decide, by decide, by decide⟩⟩
  have held : f.Held := by
    refine ⟨fun _ told => ?_, fun _ told => ?_, nofun⟩
    · cases told
      exact Nat.le_refl _
    · cases told
      intro m listed
      simp only [List.mem_cons, List.not_mem_nil, or_false, or_self] at listed
      exact listed ▸ notice
  exact ⟨held, by decide, wire_loses_only_referrers.2.1.wholeText f held⟩

end RewardLedger
