import RewardLedger.Feed
import RewardLedger.Json.Reader
import RewardLedger.Reward
import RewardLedger.Time.Timestamp
import RewardLedger.User
import RewardLedger.Withdrawal

/-!
# The ledger on the wire

How users, incomes, withdrawals, bands and frames are written as JSON, and how
they are read back. The member of a user that names the referrer is read but
never written: who referred whom is not told to clients.
-/

namespace RewardLedger

open Json (Field Reader)

namespace Instant

/-- An instant as a timestamp. -/
def json (t : Instant) : Json := .str (Timestamp.text t)

/-- Read a timestamp. -/
def reader : Reader Instant := .parsed Timestamp.parse?

end Instant

namespace Day

/-- A day as text. -/
def json (d : Day) : Json := .str (Timestamp.dayText d)

/-- Read a day. -/
def reader : Reader Day := .parsed Timestamp.parseDay?

end Day

namespace IncomeSource

def json (s : IncomeSource) : Json := .str s.name

def reader : Reader IncomeSource := .choice ofName?

end IncomeSource

namespace WithdrawalStatus

def json (s : WithdrawalStatus) : Json := .str s.name

def reader : Reader WithdrawalStatus := .choice ofName?

end WithdrawalStatus

namespace PoolLevel

def json (l : PoolLevel) : Json := .str l.name

def reader : Reader PoolLevel := .choice ofName?

end PoolLevel

namespace User

/-- What clients may know of a user: all but the referrer. -/
def json (u : User) : Json :=
  .obj [("id", .int u.id), ("email", .str u.email), ("address", .str u.address),
    ("balance", .int u.balance), ("total_income", .int u.totalIncome),
    ("total_income_from_referees", .int u.totalFromReferees),
    ("referer_total_income", .int u.totalToReferrer),
    ("reward_interval_secs", .int u.rewardInterval),
    ("rewarded_at", .ofOption Instant.json u.rewardedAt),
    ("created_at", u.createdAt.json)]

/-- The fields of a user. -/
@[reducible] def fields : List Field :=
  [.required "id" .amount, .required "email" .text, .required "address" .text,
    .required "balance" .amount, .required "total_income" .amount,
    .required "total_income_from_referees" .amount,
    .required "referer_total_income" .amount, .optional "referer_id" .amount,
    .required "reward_interval_secs" .amount, .optional "rewarded_at" Instant.reader,
    .required "created_at" Instant.reader]

def reader : Reader User :=
  .record fields fun
    (id, email, address, balance, totalIncome, totalFromReferees, totalToReferrer,
      referrer, rewardInterval, rewardedAt, createdAt, ()) =>
    { id, email, address, balance, totalIncome, totalFromReferees, totalToReferrer,
      referrer, rewardInterval, rewardedAt, createdAt }

end User

namespace NewUser

def json (u : NewUser) : Json :=
  .obj [("email", .str u.email), ("address", .str u.address),
    ("referer_id", .ofOption .int u.referrer),
    ("reward_interval_secs", .int u.rewardInterval)]

@[reducible] def fields : List Field :=
  [.required "email" .text, .required "address" .text, .optional "referer_id" .amount,
    .required "reward_interval_secs" .amount]

def reader : Reader NewUser :=
  .record fields fun (email, address, referrer, rewardInterval, ()) =>
    { email, address, referrer, rewardInterval }

end NewUser

namespace Income

def json (i : Income) : Json :=
  .obj [("id", .int i.id), ("user_id", .int i.user),
    ("referer_id", .ofOption .int i.referrer), ("source", i.source.json),
    ("amount", .int i.amount), ("referer_amount", .int i.referrerAmount),
    ("created_at", i.createdAt.json)]

@[reducible] def fields : List Field :=
  [.required "id" .amount, .required "user_id" .amount, .optional "referer_id" .amount,
    .required "source" IncomeSource.reader, .required "amount" .amount,
    .required "referer_amount" .amount, .required "created_at" Instant.reader]

def reader : Reader Income :=
  .record fields fun (id, user, referrer, source, amount, referrerAmount, createdAt, ()) =>
    { id, user, referrer, source, amount, referrerAmount, createdAt }

end Income

namespace Withdrawal

def json (w : Withdrawal) : Json :=
  .obj [("id", .int w.id), ("user_id", .int w.user), ("address", .str w.address),
    ("amount", .int w.amount), ("status", w.status.json),
    ("transaction_id", .ofOption .str w.transaction),
    ("created_at", w.createdAt.json), ("updated_at", w.updatedAt.json)]

@[reducible] def fields : List Field :=
  [.required "id" .amount, .required "user_id" .amount, .required "address" .text,
    .required "amount" .amount, .required "status" WithdrawalStatus.reader,
    .optional "transaction_id" .text, .required "created_at" Instant.reader,
    .required "updated_at" Instant.reader]

def reader : Reader Withdrawal :=
  .record fields fun
    (id, user, address, amount, status, transaction, createdAt, updatedAt, ()) =>
    { id, user, address, amount, status, transaction, createdAt, updatedAt }

end Withdrawal

namespace RewardBand

def json (b : RewardBand) : Json :=
  .obj [("band", b.level.json), ("min", .int b.min), ("max", .int b.max),
    ("weight", .int b.weight)]

@[reducible] def fields : List Field :=
  [.required "band" PoolLevel.reader, .required "min" .amount, .required "max" .amount,
    .required "weight" .amount]

def reader : Reader RewardBand :=
  .record fields fun (level, min, max, weight, ()) => { level, min, max, weight }

end RewardBand

namespace RewardPolicy

def json (p : RewardPolicy) : Json :=
  .obj [("total_reward_threshold", .int p.threshold),
    ("referer_reward_rate", .double p.referrerRate), ("created_at", p.createdAt.json)]

@[reducible] def fields : List Field :=
  [.required "total_reward_threshold" .amount, .required "referer_reward_rate" .double,
    .required "created_at" Instant.reader]

def reader : Reader RewardPolicy :=
  .record fields fun (threshold, referrerRate, createdAt, ()) =>
    { threshold, referrerRate, createdAt }

end RewardPolicy

namespace DayTotal

def json (t : DayTotal) : Json := .obj [("day", t.day.json), ("total", .int t.total)]

@[reducible] def fields : List Field :=
  [.required "day" Day.reader, .required "total" .amount]

def reader : Reader DayTotal := .record fields fun (day, total, ()) => { day, total }

end DayTotal

namespace IncomeNotice

def json (n : IncomeNotice) : Json :=
  .obj [("address", .str n.address), ("amount", .int n.amount), ("type", n.source.json),
    ("time", n.time.json)]

@[reducible] def fields : List Field :=
  [.required "address" .text, .required "amount" .amount,
    .required "type" IncomeSource.reader, .required "time" Instant.reader]

def reader : Reader IncomeNotice :=
  .record fields fun (address, amount, source, time, ()) =>
    { address, amount, source, time }

end IncomeNotice

namespace Frame

/-- What a frame does not tell is left out. -/
def json (f : Frame) : Json :=
  .obj (Json.optionalMember "users_online" (fun n => .int n) f.usersOnline
    ++ Json.optionalMember "latest_incomes" (.ofList IncomeNotice.json) f.latestIncomes
    ++ Json.optionalMember "delta_income" IncomeNotice.json f.newIncome)

@[reducible] def fields : List Field :=
  [.optional "users_online" (.count Amount.greatestCount),
    .optional "latest_incomes" (.list IncomeNotice.reader),
    .optional "delta_income" IncomeNotice.reader]

def reader : Reader Frame :=
  .record fields fun (usersOnline, latestIncomes, newIncome, ()) =>
    { usersOnline, latestIncomes, newIncome }

/-- The text of a frame. -/
def text (f : Frame) : String := f.json.text

end Frame

end RewardLedger
