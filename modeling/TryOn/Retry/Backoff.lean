/-! The growth of waiting times from attempt to attempt. The formulas are stated once, over any
arithmetic that has them; programs run on floating-point numbers, and the rational numbers give
the exact values that these approximate. -/

set_option autoImplicit false

namespace TryOn.Retry

inductive Growth where
  | fixed
  | exponential
  | linear
  deriving DecidableEq, Repr

/-- What waiting times are computed with. -/
class Arithmetic (α : Type) where
  ofNat : Nat → α
  add : α → α → α
  mul : α → α → α
  least : α → α → α
  greatest : α → α → α
  tenth : α → α
  /-- Whether waiting times may grow by a factor: whether it is a number, and at least one. -/
  isFactor : α → Bool
  /-- The whole part of a number, brought into 64 bits. -/
  whole : α → Nat

def maxMillis : Nat := Nat.pow 2 64 - 1

/-- The lesser of two numbers; what is no number at all does not count. -/
def leastFloat (first second : Float) : Float :=
  if first.isNaN then second else if second.isNaN then first
  else if second < first then second else first

def greatestFloat (first second : Float) : Float :=
  if first.isNaN then second else if second.isNaN then first
  else if first < second then second else first

/-- Floating-point arithmetic; counts are rounded to the nearest number. -/
instance Arithmetic.float : Arithmetic Float where
  ofNat := Float.ofNat
  add first second := first + second
  mul first second := first * second
  least := leastFloat
  greatest := greatestFloat
  tenth value := value * 0.1
  isFactor value := value.isFinite && 1.0 ≤ value
  whole value := value.toUInt64.toNat

instance Arithmetic.exact : Arithmetic Rat where
  ofNat count := count
  add first second := first + second
  mul first second := first * second
  least first second := if first ≤ second then first else second
  greatest first second := if first ≤ second then second else first
  tenth value := value / 10
  isFactor value := 1 ≤ value
  whole value := min value.floor.toNat maxMillis

namespace Arithmetic

variable {α : Type} (arithmetic : Arithmetic α)

/-- `result` times the power of `base`, by repeated squaring. -/
def powerOnto (base result : α) (exponent : Nat) : α :=
  let result := if exponent % 2 = 1 then arithmetic.mul result base else result
  if exponent / 2 = 0 then result
  else powerOnto (arithmetic.mul base base) result (exponent / 2)
termination_by exponent

def power (base : α) (exponent : Nat) : α :=
  arithmetic.powerOnto base (arithmetic.ofNat 1) exponent

def maxExponent : Nat := Nat.pow 2 31 - 1

def shape (growth : Growth) (multiplier : α) (base : Nat) (attempt : Nat) : α :=
  let base := arithmetic.ofNat base
  match growth with
  | .fixed => base
  | .exponential => arithmetic.mul base (arithmetic.power multiplier (min attempt maxExponent))
  | .linear => arithmetic.mul base (arithmetic.add (arithmetic.ofNat attempt) (arithmetic.ofNat 1))

def delay (growth : Growth) (multiplier : α) (base greatest attempt : Nat) : Nat :=
  arithmetic.whole (arithmetic.greatest
    (arithmetic.least (arithmetic.shape growth multiplier base attempt)
      (arithmetic.ofNat greatest))
    (arithmetic.ofNat 0))

/-- The whole part of a tenth of a waiting time, up to which it may be prolonged. -/
def spread (delay : Nat) : Nat :=
  arithmetic.whole (arithmetic.tenth (arithmetic.ofNat delay))

end Arithmetic

end TryOn.Retry
