import TryOn.Retry.Policy
import TryOn.Table

/-! Retry policies by class of operation, with one for all other classes. -/

set_option autoImplicit false

namespace TryOn.Retry

structure Policies where
  fallback : Policy
  table : Table String Policy

namespace Policies

def ofFallback (fallback : Policy) : Policies := ⟨fallback, .empty⟩

def standard : Policies where
  fallback := .standard
  table := .ofList [("processor", .exponential 5 1000 30000), ("notifier", .fixed 3 500),
    ("images", .exponential 3 100 2000), ("queue", .exponential 3 50 1000)]

def insert (policies : Policies) (key : String) (policy : Policy) : Policies :=
  { policies with table := policies.table.insert key policy }

def get (policies : Policies) (key : String) : Policy :=
  (policies.table.get? key).getD policies.fallback

/-- Name the first setting that cannot be honoured, and where it stands. -/
def check (policies : Policies) : Except String Unit := do
  let within (path : String) (policy : Policy) : Except String Unit :=
    policy.check.mapError fun reason => path ++ ": " ++ reason
  within "retry.default" policies.fallback
  policies.table.entries.forM fun entry => within ("retry.policies." ++ entry.1) entry.2

def toData (policies : Policies) : Data :=
  .ofFields [("default", policies.fallback.toData),
    ("policies", .table (policies.table.entries.map fun entry => (entry.1, entry.2.toData)))]

/-- Read policies. The fallback may be left out, and a class left out has no policy of its own. -/
def decode? (excess : Data.Excess) : Data → Option Policies :=
  Data.closedRecord excess ["default", "policies"] do
    return ⟨← Data.orDefault .standard (Policy.decode? excess),
      .ofList (← Data.orDefault [] (Data.asTable? (Policy.decode? excess)))⟩

def ofData? : Data → Option Policies := decode? .refused

end Policies

end TryOn.Retry
