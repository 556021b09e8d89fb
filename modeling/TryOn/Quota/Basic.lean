import TryOn.Timestamp.Civil

/-! What a user may still submit. Free units are a monthly allowance and come back with a new
billing month; paid units are bought once and last. Free units are spent first. -/

set_option autoImplicit false

namespace TryOn

structure BillingPeriod where
  year : Int
  month : Nat
  deriving DecidableEq, Repr

def BillingPeriod.containing (moment : Timestamp) : BillingPeriod :=
  ⟨moment.date.year, moment.date.month⟩

namespace Quota

inductive Allowance where
  | free
  | paid
  deriving DecidableEq, Repr

def maxCount : Nat := Nat.pow 2 32 - 1

structure Balance where
  plan : String
  monthlyLimit : Nat
  freeUsed : Nat
  paidUsed : Nat
  remainingFree : Nat
  remainingPaid : Nat
  deriving DecidableEq, Repr

def Balance.hasRemaining (balance : Balance) : Bool :=
  0 < balance.remainingFree || 0 < balance.remainingPaid

def Balance.totalRemaining (balance : Balance) : Nat :=
  min (balance.remainingFree + balance.remainingPaid) maxCount

structure Account where
  plan : String
  monthlyLimit : Nat
  freeUsed : Nat
  paidCredits : Nat
  paidUsed : Nat
  period : BillingPeriod
  deriving DecidableEq, Repr

namespace Account

def opened (plan : String) (monthlyLimit : Nat) (now : Timestamp) : Account where
  plan := plan
  monthlyLimit := monthlyLimit
  freeUsed := 0
  paidCredits := 0
  paidUsed := 0
  period := .containing now

/-- The account in the given month: in any month but its own nothing of the free allowance has
been used. -/
def inPeriod (account : Account) (period : BillingPeriod) : Account :=
  if account.period = period then account else { account with freeUsed := 0, period := period }

def roll (account : Account) (now : Timestamp) : Account :=
  account.inPeriod (.containing now)

def rollsAt (account : Account) (now : Timestamp) : Bool :=
  account.period ≠ .containing now

def balance (account : Account) : Balance where
  plan := account.plan
  monthlyLimit := account.monthlyLimit
  freeUsed := account.freeUsed
  paidUsed := account.paidUsed
  remainingFree := account.monthlyLimit - account.freeUsed
  remainingPaid := account.paidCredits - account.paidUsed

def nextCharge (account : Account) : Option Allowance :=
  if account.freeUsed < account.monthlyLimit then some .free
  else if account.paidUsed < account.paidCredits then some .paid
  else none

def charge (account : Account) : Allowance → Account
  | .free => { account with freeUsed := account.freeUsed + 1 }
  | .paid => { account with paidUsed := account.paidUsed + 1 }

def consume (account : Account) : Option (Allowance × Account) :=
  account.nextCharge.map fun allowance => (allowance, account.charge allowance)

/-- Add paid units, up to the largest count. -/
def grant (account : Account) (credits : Nat) : Account :=
  { account with paidCredits := min (account.paidCredits + credits) maxCount }

/-- A unit can be taken exactly while the balance shows one. -/
theorem nextCharge_isSome_iff (account : Account) :
    account.nextCharge.isSome = account.balance.hasRemaining := by
  have left : 0 < account.monthlyLimit - account.freeUsed
      ↔ account.freeUsed < account.monthlyLimit := Nat.sub_pos_iff_lt
  have right : 0 < account.paidCredits - account.paidUsed
      ↔ account.paidUsed < account.paidCredits := Nat.sub_pos_iff_lt
  by_cases free : account.freeUsed < account.monthlyLimit <;>
    by_cases paid : account.paidUsed < account.paidCredits <;>
      simp [nextCharge, Balance.hasRemaining, balance, left, right, free, paid]

@[simp] theorem roll_period (account : Account) (now : Timestamp) :
    (account.roll now).period = .containing now := by
  simp only [roll, inPeriod]
  split
  · assumption
  · rfl

theorem roll_roll (account : Account) (now : Timestamp) :
    (account.roll now).roll now = account.roll now := by
  have same := roll_period account now
  rw [roll, inPeriod, if_pos same]

end Account

end Quota

end TryOn
