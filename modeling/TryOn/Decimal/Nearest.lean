import TryOn.Decimal.Shortest
import TryOn.Text.Digits

/-! The floating-point number nearest to a decimal, and decimals as they are written: digits,
a point, more digits, and an exponent. -/

set_option autoImplicit false

namespace TryOn.Decimal

/-- The largest exponent worth computing with; beyond it every number is zero or infinite. -/
def exponentBound : Nat := 2000

/-- The nearest floating-point number; infinity stands for all that is too large. -/
def nearest (decimal : Decimal) : Float :=
  if decimal.digits = 0 then 0
  else if decimal.exponent < 0 then
    Float.ofScientific decimal.digits true
      (min decimal.exponent.natAbs (exponentBound + decimal.digits.log2))
  else Float.ofScientific decimal.digits false (min decimal.exponent.natAbs exponentBound)

def ofParts? (whole fraction : List Char) (exponent : Int) : Option Decimal :=
  (Text.digitsValue? 10 (whole ++ fraction)).map fun digits => ⟨digits, exponent - fraction.length⟩

def fractionPart : List Char → Option (Option (List Char) × List Char)
  | '.' :: rest =>
    let (digits, rest) := Text.takeDigits rest
    if digits.isEmpty then none else some (some digits, rest)
  | rest => some (none, rest)

def exponentPart : List Char → Option (Option Int × List Char)
  | 'e' :: rest | 'E' :: rest =>
    let (negative, rest) := match rest with
      | '-' :: rest => (true, rest)
      | '+' :: rest => (false, rest)
      | rest => (false, rest)
    let (digits, rest) := Text.takeDigits rest
    (Text.digitsValue? 10 digits).map fun value =>
      (some (if negative then -(value : Int) else value), rest)
  | rest => some (none, rest)

def signed (negative : Bool) (magnitude : Float) : Float :=
  if negative then -magnitude else magnitude

end TryOn.Decimal
