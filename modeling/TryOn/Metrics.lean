import TryOn.Data.Basic
import TryOn.Table

/-! Counters of what a service has done. -/

set_option autoImplicit false

namespace TryOn

inductive MetricEvent where
  | started
  | completed (processingMillis : Nat)
  | failed
  | rejected (reason : String)
  deriving DecidableEq, Repr

structure Metrics where
  started : Nat := 0
  completed : Nat := 0
  failed : Nat := 0
  /-- The time spent on completed conversions; the sum starts again at zero after 64 bits. -/
  processingMillis : Nat := 0
  rejected : Table String Nat := .empty

namespace Metrics

def rejectedFor (metrics : Metrics) (reason : String) : Nat :=
  (metrics.rejected.get? reason).getD 0

def count (metrics : Metrics) : MetricEvent → Metrics
  | .started => { metrics with started := metrics.started + 1 }
  | .completed millis =>
    { metrics with
      completed := metrics.completed + 1
      processingMillis := (metrics.processingMillis + millis) % Nat.pow 2 64 }
  | .failed => { metrics with failed := metrics.failed + 1 }
  | .rejected reason =>
    { metrics with rejected := metrics.rejected.insert reason (metrics.rejectedFor reason + 1) }

def toData (metrics : Metrics) : Data :=
  .ofFields [("started", .ofNat metrics.started), ("completed", .ofNat metrics.completed),
    ("failed", .ofNat metrics.failed),
    ("processing_time_ms_total", .ofNat metrics.processingMillis),
    ("rejected", .table (metrics.rejected.entries.map fun entry => (entry.1, .ofNat entry.2)))]

end Metrics

end TryOn
