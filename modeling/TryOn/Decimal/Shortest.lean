/-! The shortest decimal that reads back as a given floating-point number. The reals that round
to a number form an interval; the coarsest decimal grid with a point in it gives the fewest
digits, and of two points on that grid the nearer one is taken. Where both are equally near the
writer chooses. -/

set_option autoImplicit false

namespace TryOn

/-- A non-negative decimal: `digits` times ten to the power `exponent`. -/
structure Decimal where
  digits : Nat
  exponent : Int
  deriving DecidableEq, Repr

namespace Decimal

/-- A finite positive binary number: `significand` times two to the power `exponent`. -/
structure Binary where
  significand : Nat
  exponent : Int

inductive Reading where
  | nan
  | infinite (negative : Bool)
  | zero (negative : Bool)
  | finite (negative : Bool) (magnitude : Binary)

def read (x : Float) : Reading :=
  let bits := x.toBits.toNat
  let negative := bits / Nat.pow 2 63 = 1
  let biased : Nat := bits / Nat.pow 2 52 % Nat.pow 2 11
  let stored := bits % Nat.pow 2 52
  if biased = 2047 then (if stored = 0 then .infinite negative else .nan)
  else if biased = 0 then
    (if stored = 0 then .zero negative else .finite negative ⟨stored, -1074⟩)
  else .finite negative ⟨Nat.pow 2 52 + stored, (biased : Int) - 1075⟩

/-- The rounding interval around a number, and the number itself, in quarters of a unit of its
last place. -/
structure Interval where
  low : Nat
  value : Nat
  high : Nat
  closed : Bool
  unit : Int

/-- Below a power of two the neighbours are half as far away as above it. -/
def Binary.interval (x : Binary) : Interval where
  low := 4 * x.significand - (if x.significand = Nat.pow 2 52 ∧ -1074 < x.exponent then 1 else 2)
  value := 4 * x.significand
  high := 4 * x.significand + 2
  closed := x.significand % 2 = 0
  unit := x.exponent - 2

inductive Tie where
  | toEven
  | away
  deriving DecidableEq, Repr

def powerOf (base : Nat) (exponent : Int) : Nat :=
  Nat.pow base exponent.toNat

/-- The nearest grid point `n * 10 ^ grid` inside the interval, if there is one. -/
def Interval.pointOn? (span : Interval) (tie : Tie) (grid : Int) : Option Nat :=
  let scale := powerOf 2 span.unit * powerOf 10 (-grid)
  let step := powerOf 10 grid * powerOf 2 (-span.unit)
  let value := span.value * scale
  let inside (n : Nat) : Bool :=
    if span.closed then span.low * scale ≤ n * step && n * step ≤ span.high * scale
    else span.low * scale < n * step && n * step < span.high * scale
  let below := value / step
  let rest := value - below * step
  let staysBelow := tie = .toEven ∧ below % 2 = 0
  let first := if 2 * rest < step ∨ (2 * rest = step ∧ staysBelow) then below else below + 1
  let second := if first = below then below + 1 else below
  if inside first then some first else if inside second then some second else none

def Interval.search (span : Interval) (tie : Tie) (grid : Int) : Nat → Decimal
  | 0 => ⟨0, 0⟩
  | fuel + 1 =>
    match span.pointOn? tie grid with
    | some (digits + 1) => ⟨digits + 1, grid⟩
    | _ => span.search tie (grid - 1) fuel

/-- The shortest decimal in the rounding interval. Every number lies between the grids tried. -/
def Binary.shortest (x : Binary) (tie : Tie) : Decimal :=
  x.interval.search tie 309 640

example : (⟨2 ^ 52 + 2 ^ 35, -52⟩ : Binary).shortest .toEven = ⟨10000076293945312, -16⟩ := by
  decide +kernel

example : (⟨2 ^ 52 + 2 ^ 35, -52⟩ : Binary).shortest .away = ⟨10000076293945313, -16⟩ := by
  decide +kernel

end Decimal

end TryOn
