import RewardLedger.Income

/-!
# The live feed

Clients of the live feed are sent frames. A frame tells how many clients are
online, lists the latest incomes, or announces one new income; what it does
not tell is absent.
-/

namespace RewardLedger

/-- The public account of one credit. -/
structure IncomeNotice where
  /-- The payout address of the user. -/
  address : String
  amount : Int
  source : IncomeSource
  time : Instant
  deriving DecidableEq, Repr

/-- What the feed says about a committed credit. -/
def IncomeNotice.ofReceipt (r : Receipt) : IncomeNotice :=
  ⟨r.address, r.income.amount, r.income.source, r.income.createdAt⟩

/-- One message to a client. -/
structure Frame where
  usersOnline : Option Nat
  latestIncomes : Option (List IncomeNotice)
  newIncome : Option IncomeNotice
  deriving DecidableEq, Repr

namespace Frame

/-- The frame that announces one income. -/
def ofNotice (n : IncomeNotice) : Frame := ⟨none, none, some n⟩

/-- The frame that tells how many clients are online. -/
def ofUsersOnline (count : Nat) : Frame := ⟨some count, none, none⟩

/-- The first frame of a new client. -/
def snapshot (count : Nat) (latest : List IncomeNotice) : Frame :=
  ⟨some count, some latest, none⟩

end Frame

end RewardLedger
