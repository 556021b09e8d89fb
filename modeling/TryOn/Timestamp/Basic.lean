/-! Instants of the wall clock, in universal time. A leap second keeps the whole second before
it and counts its own fraction from one thousand million nanoseconds upwards. -/

set_option autoImplicit false

namespace TryOn

/-- Whole seconds since the start of 1970 and the nanoseconds into that second. -/
structure Timestamp where
  seconds : Int
  nanos : Nat
  deriving DecidableEq

namespace Timestamp

def Before (first second : Timestamp) : Prop :=
  first.seconds < second.seconds
    ∨ (first.seconds = second.seconds ∧ first.nanos < second.nanos)

instance (first second : Timestamp) : Decidable (Before first second) :=
  inferInstanceAs (Decidable (_ ∨ _))

instance : LT Timestamp := ⟨Before⟩

instance : LE Timestamp := ⟨fun first second => ¬ second < first⟩

instance (first second : Timestamp) : Decidable (first < second) :=
  inferInstanceAs (Decidable (Before first second))

instance (first second : Timestamp) : Decidable (first ≤ second) :=
  inferInstanceAs (Decidable (¬ Before second first))

theorem lt_iff {first second : Timestamp} : first < second ↔
    first.seconds < second.seconds
      ∨ (first.seconds = second.seconds ∧ first.nanos < second.nanos) := Iff.rfl

theorem le_iff {first second : Timestamp} : first ≤ second ↔ ¬ second < first := Iff.rfl

theorem le_refl (moment : Timestamp) : moment ≤ moment := by
  rw [le_iff, lt_iff]
  omega

theorem le_trans {first second third : Timestamp} (left : first ≤ second)
    (right : second ≤ third) : first ≤ third := by
  rw [le_iff, lt_iff] at *
  omega

theorem lt_trans {first second third : Timestamp} (left : first < second)
    (right : second < third) : first < third := by
  rw [lt_iff] at *
  omega

theorem le_antisymm {first second : Timestamp} (left : first ≤ second)
    (right : second ≤ first) : first = second := by
  obtain ⟨s, n⟩ := first
  obtain ⟨s', n'⟩ := second
  simp only [le_iff, lt_iff] at left right
  simp only [mk.injEq]
  omega

end Timestamp

end TryOn
