import RewardLedger.Api.Message
import RewardLedger.Wire.Ledger

/-!
# Requests and answers on the wire
-/

namespace RewardLedger.Api

open Json (Field Reader)

namespace Signup

def json (s : Signup) : Json :=
  .obj [("email", .str s.email), ("address", .str s.address),
    ("referer_id", .ofOption .int s.referrer),
    ("reward_interval_secs", .ofOption .int s.rewardInterval)]

@[reducible] def fields : List Field :=
  [.required "email" .text, .required "address" .text, .optional "referer_id" .amount,
    .optional "reward_interval_secs" .amount]

def reader : Reader Signup :=
  .record fields fun (email, address, referrer, rewardInterval, ()) =>
    { email, address, referrer, rewardInterval }

end Signup

namespace PartnerNotice

def json (n : PartnerNotice) : Json :=
  .obj [("external_key", .str n.key), ("user_id", .int n.user), ("amount", .int n.amount)]

@[reducible] def fields : List Field :=
  [.required "external_key" .text, .required "user_id" .amount, .required "amount" .amount]

def reader : Reader PartnerNotice :=
  .record fields fun (key, user, amount, ()) => { key, user, amount }

end PartnerNotice

namespace Payout

def json (p : Payout) : Json :=
  .obj [("amount", .int p.amount), ("address", .ofOption .str p.address)]

@[reducible] def fields : List Field :=
  [.required "amount" .amount, .optional "address" .text]

def reader : Reader Payout := .record fields fun (amount, address, ()) => { amount, address }

end Payout

namespace Advance

def json (a : Advance) : Json :=
  .obj [("ids", .ofList .int a.ids), ("from", a.current.json), ("to", a.next.json),
    ("transaction_id", .ofOption .str a.transaction)]

@[reducible] def fields : List Field :=
  [.required "ids" (.list .amount), .required "from" WithdrawalStatus.reader,
    .required "to" WithdrawalStatus.reader, .optional "transaction_id" .text]

def reader : Reader Advance :=
  .record fields fun (ids, current, next, transaction, ()) =>
    { ids, current, next, transaction }

end Advance

namespace Advanced

def json (a : Advanced) : Json := .obj [("advanced", .int a.count)]

@[reducible] def fields : List Field :=
  [.required "advanced" (.count Amount.greatestCount)]

def reader : Reader Advanced := .record fields fun (count, ()) => { count }

end Advanced

namespace WithdrawalPage

def json (p : WithdrawalPage) : Json := .obj [("items", .ofList Withdrawal.json p.items)]

@[reducible] def fields : List Field := [.required "items" (.list Withdrawal.reader)]

def reader : Reader WithdrawalPage := .record fields fun (items, ()) => { items }

end WithdrawalPage

namespace IncomePage

def json (p : IncomePage) : Json :=
  .obj [("count", .int p.count), ("items", .ofList Income.json p.items)]

@[reducible] def fields : List Field :=
  [.required "count" .amount, .required "items" (.list Income.reader)]

def reader : Reader IncomePage := .record fields fun (count, items, ()) => { count, items }

end IncomePage

namespace RefereePage

def json (p : RefereePage) : Json := .obj [("items", .ofList User.json p.items)]

@[reducible] def fields : List Field := [.required "items" (.list User.reader)]

def reader : Reader RefereePage := .record fields fun (items, ()) => { items }

end RefereePage

namespace PageRequest

@[reducible] def fields : List Field := [.optional "limit" .amount, .optional "offset" .amount]

def reader : Reader PageRequest := .record fields fun (limit, offset, ()) => { limit, offset }

end PageRequest

namespace Condition

def json (c : Condition) : Json := .str c.name

def reader : Reader Condition := .choice ofName?

end Condition

namespace CheckResult

/-- Details that are absent are left out. -/
def json (r : CheckResult) : Json :=
  .obj (("status", r.condition.json) :: Json.optionalMember "details" .str r.details)

@[reducible] def fields : List Field :=
  [.required "status" Condition.reader, .optional "details" .text]

def reader : Reader CheckResult :=
  .record fields fun (condition, details, ()) => { condition, details }

end CheckResult

namespace HealthReport

def json (r : HealthReport) : Json :=
  .obj [("status", r.condition.json),
    ("checks", .obj (r.checks.map fun (name, result) => (name, result.json))),
    ("uptime", .int r.uptime)]

@[reducible] def fields : List Field :=
  [.required "status" Condition.reader, .required "checks" (.dictionary CheckResult.reader),
    .required "uptime" (.count Amount.greatestCount)]

def reader : Reader HealthReport :=
  .record fields fun (condition, checks, uptime, ()) => { condition, checks, uptime }

end HealthReport

namespace StatusReport

/-- How deep the values of a status report may be nested when one is read. -/
def depth : Nat := 125

/-- An empty list of additional values is left out. -/
def json (r : StatusReport) : Json :=
  .obj ([("name", .str r.name), ("version", .str r.version), ("uptime", .int r.uptime),
      ("timestamp", .str r.timestamp)]
    ++ if r.additional.isEmpty then [] else [("additional", .obj r.additional)])

@[reducible] def fields : List Field :=
  [.required "name" .text, .required "version" .text,
    .required "uptime" (.count Amount.greatestCount), .required "timestamp" .text,
    .required "additional" (.dictionary (.any depth))]

def reader : Reader StatusReport :=
  .record fields fun (name, version, uptime, timestamp, additional, ()) =>
    { name, version, uptime, timestamp, additional }

end StatusReport

namespace Answer

/-- What is absent is left out. -/
def json {α : Type} (f : α → Json) (a : Answer α) : Json :=
  .obj (("success", .bool a.success) :: Json.optionalMember "data" f a.data
    ++ Json.optionalMember "error" .str a.error)

@[reducible] def fields {α : Type} (r : Reader α) : List Field :=
  [.required "success" .bool, .optional "data" r, .optional "error" .text]

def reader {α : Type} (r : Reader α) : Reader (Answer α) :=
  .record (fields r) fun (success, data, error, ()) => { success, data, error }

end Answer

end RewardLedger.Api
