import TryOn.Decimal.Shortest
import TryOn.Text.Digits

/-! Floating-point numbers as text: the shortest digits that read back, positional in a middle
range and with an exponent outside it. Where the range begins, how an exponent is written and
where ties go are the writer's choice. -/

set_option autoImplicit false

namespace TryOn.Decimal

/-- A choice of form: the decimal point stands in the digits, or among zeros around them, while
its position from the front of the digits lies between `lowest` and `highest`. -/
structure Form where
  lowest : Int
  highest : Int
  /-- Whether an exponent that is not negative has a plus sign. -/
  signsExponent : Bool
  tie : Tie

def Form.shown : Form := ⟨-3, 16, false, .away⟩

def Form.document : Form := ⟨-4, 16, true, .toEven⟩

def positional (digits : List Char) (position : Int) : List Char :=
  if position ≤ 0 then '0' :: '.' :: List.replicate (-position).toNat '0' ++ digits
  else
    let whole := position.toNat
    if digits.length ≤ whole then
      digits ++ List.replicate (whole - digits.length) '0' ++ ['.', '0']
    else digits.take whole ++ '.' :: digits.drop whole

def scientific (signsExponent : Bool) (digits : List Char) (position : Int) : List Char :=
  let mantissa := match digits with
    | [] => []
    | [only] => [only]
    | first :: rest => first :: '.' :: rest
  let plus := if signsExponent && 1 ≤ position then ['+'] else []
  mantissa ++ 'e' :: plus ++ (Text.signedDecimal (position - 1)).toList

def Form.write (form : Form) (value : Decimal) : List Char :=
  let digits := Nat.toDigits 10 value.digits
  let position := digits.length + value.exponent
  if form.lowest ≤ position ∧ position ≤ form.highest then positional digits position
  else scientific form.signsExponent digits position

example : String.ofList (Form.shown.write ⟨1, 16⟩) = "1e16" := by decide +kernel

example : String.ofList (Form.document.write ⟨1, 16⟩) = "1e+16" := by decide +kernel

def Form.text (form : Form) (x : Float) : String :=
  let signed (negative : Bool) (magnitude : String) :=
    if negative then "-" ++ magnitude else magnitude
  match read x with
  | .nan => "NaN"
  | .infinite negative => signed negative "inf"
  | .zero negative => signed negative "0.0"
  | .finite negative magnitude =>
    signed negative (String.ofList (form.write (magnitude.shortest form.tie)))

end TryOn.Decimal
