import RewardLedger.Amount
import RewardLedger.IncomeSource
import RewardLedger.Time.Instant

/-!
# Incomes

An income is the record of one successful credit, and is never changed. The
orders that lead to one, and the receipt that a credit leaves, are here too.
-/

namespace RewardLedger

/-- One credit to a user. -/
structure Income where
  id : Int
  user : Int
  /-- The user's referrer at the time of the credit. -/
  referrer : Option Int
  source : IncomeSource
  amount : Int
  /-- The share that the referrer was credited; zero when none was. -/
  referrerAmount : Int
  createdAt : Instant
  deriving DecidableEq, Repr

/-- An order to credit a scheduled reward. -/
structure RewardCredit where
  user : Int
  amount : Int
  /-- The share offered to the referrer, credited only if there is one. -/
  referrerAmount : Int
  now : Instant
  deriving DecidableEq, Repr

/-- An order to credit a partner's event. -/
structure PartnerCredit where
  source : IncomeSource
  /-- The partner's own name for the event. -/
  key : String
  user : Int
  amount : Int
  /-- The share offered to the referrer, credited only if there is one. -/
  referrerAmount : Int
  now : Instant
  deriving DecidableEq, Repr

/-- A partner's event for one user: what is credited at most once. -/
structure PartnerEvent where
  source : IncomeSource
  key : String
  user : Int
  deriving DecidableEq, Repr

/-- The event that an order credits. -/
def PartnerCredit.event (c : PartnerCredit) : PartnerEvent := ⟨c.source, c.key, c.user⟩

/-- What a committed credit leaves. -/
structure Receipt where
  income : Income
  /-- The payout address of the user. -/
  address : String
  referrerCredited : Bool
  deriving DecidableEq, Repr

/-- What a credit paid out in all, to the user and to the referrer, when the
sum fits. -/
def Receipt.disbursed? (r : Receipt) : Option Int :=
  Amount.add? r.income.amount r.income.referrerAmount

end RewardLedger
