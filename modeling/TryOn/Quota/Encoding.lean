import TryOn.Data.Decode
import TryOn.Quota.Basic

/-! Quota accounts and balances as plain data. Counts fit 32 bits. -/

set_option autoImplicit false

namespace TryOn

open Data (required asText? asNat?)

namespace BillingPeriod

def fieldNames : List String := ["year", "month"]

def toData (period : BillingPeriod) : Data :=
  .ofFields [("year", .int period.year), ("month", .ofNat period.month)]

def ofData? : Data → Option BillingPeriod :=
  Data.openRecord fieldNames do
    return ⟨← required (Data.asIntBetween? (-Int.pow 2 31) (Int.pow 2 31 - 1)),
      ← required (asNat? 32)⟩

end BillingPeriod

namespace Quota

namespace Allowance

def name : Allowance → String
  | .free => "free"
  | .paid => "paid"

def toData (allowance : Allowance) : Data :=
  .text allowance.name

def ofData? : Data → Option Allowance :=
  Data.asVariant? ([.free, .paid].map fun allowance => (allowance.name, allowance))

end Allowance

namespace Balance

def fieldNames : List String :=
  ["plan", "monthly_limit", "free_used", "paid_used", "remaining_free", "remaining_paid"]

def toData (balance : Balance) : Data :=
  .ofFields [("plan", .text balance.plan), ("monthly_limit", .ofNat balance.monthlyLimit),
    ("free_used", .ofNat balance.freeUsed), ("paid_used", .ofNat balance.paidUsed),
    ("remaining_free", .ofNat balance.remainingFree),
    ("remaining_paid", .ofNat balance.remainingPaid)]

def ofData? : Data → Option Balance :=
  Data.openRecord fieldNames do
    return ⟨← required asText?, ← required (asNat? 32), ← required (asNat? 32),
      ← required (asNat? 32), ← required (asNat? 32), ← required (asNat? 32)⟩

end Balance

namespace Account

def fieldNames : List String :=
  ["plan", "monthly_limit", "free_used", "paid_credits", "paid_used", "period"]

def toData (account : Account) : Data :=
  .ofFields [("plan", .text account.plan), ("monthly_limit", .ofNat account.monthlyLimit),
    ("free_used", .ofNat account.freeUsed), ("paid_credits", .ofNat account.paidCredits),
    ("paid_used", .ofNat account.paidUsed), ("period", account.period.toData)]

def ofData? : Data → Option Account :=
  Data.openRecord fieldNames do
    return ⟨← required asText?, ← required (asNat? 32), ← required (asNat? 32),
      ← required (asNat? 32), ← required (asNat? 32), ← required BillingPeriod.ofData?⟩

end Account

end Quota

end TryOn
