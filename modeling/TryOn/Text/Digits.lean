/-! Positional numerals: fixed-width hexadecimal and padded decimal, each with its reader.
Reading accepts both cases of a hexadecimal letter; writing uses the lower case. -/

set_option autoImplicit false

namespace TryOn.Text

def digitAlphabet : List Char :=
  ['0', '1', '2', '3', '4', '5', '6', '7', '8', '9', 'a', 'b', 'c', 'd', 'e', 'f']

def digitChar (value : Nat) : Char :=
  digitAlphabet.getD value '0'

def digitValue? (base : Nat) (c : Char) : Option Nat :=
  (digitAlphabet.findIdx? (· == c.toLower)).filter (· < base)

/-- Exactly `width` digits of `value`, the most significant first. -/
def fixedDigits (base : Nat) : Nat → Nat → List Char
  | 0, _ => []
  | width + 1, value => fixedDigits base width (value / base) ++ [digitChar (value % base)]

/-- Read digits onto a leading part of known value. -/
def digitsOnto? (base : Nat) : Nat → List Char → Option Nat
  | value, [] => some value
  | value, c :: rest =>
    match digitValue? base c with
    | some digit => digitsOnto? base (value * base + digit) rest
    | none => none

def digitsValue? (base : Nat) (chars : List Char) : Option Nat :=
  if chars.isEmpty then none else digitsOnto? base 0 chars

@[simp] theorem fixedDigits_length (base width value : Nat) :
    (fixedDigits base width value).length = width := by
  induction width generalizing value with
  | zero => rfl
  | succ width ih => simp [fixedDigits, ih]

theorem digitsOnto?_append (base value : Nat) (first rest : List Char) :
    digitsOnto? base value (first ++ rest)
      = (digitsOnto? base value first).bind fun middle => digitsOnto? base middle rest := by
  induction first generalizing value with
  | nil => rfl
  | cons c first ih =>
    cases known : digitValue? base c with
    | none => simp [digitsOnto?, known]
    | some digit => simp [digitsOnto?, known, ih]

theorem digitValue?_digitChar :
    ∀ value < 16, digitValue? 16 (digitChar value) = some value := by decide

theorem digitsOnto?_fixedDigits (lead width value : Nat) :
    digitsOnto? 16 lead (fixedDigits 16 width value)
      = some (lead * Nat.pow 16 width + value % Nat.pow 16 width) := by
  induction width generalizing value with
  | zero => simp [fixedDigits, digitsOnto?, Nat.mod_one]
  | succ width ih =>
    have digit := digitValue?_digitChar (value % 16) (Nat.mod_lt _ (by decide))
    have grows : Nat.pow 16 (width + 1) = Nat.pow 16 width * 16 := rfl
    have split : value % Nat.pow 16 (width + 1)
        = (value / 16 % Nat.pow 16 width) * 16 + value % 16 := by
      rw [grows, Nat.mul_comm, Nat.mod_mul]
      omega
    simp only [fixedDigits, digitsOnto?_append, ih, Option.bind_some, digitsOnto?, digit, split]
    rw [grows, Nat.add_mul, Nat.mul_assoc, Nat.add_assoc]

theorem digitsValue?_fixedDigits {width value : Nat} (room : value < Nat.pow 16 width)
    (wide : 0 < width) : digitsValue? 16 (fixedDigits 16 width value) = some value := by
  have filled : (fixedDigits 16 width value).isEmpty = false := by
    cases shape : fixedDigits 16 width value with
    | nil => have := fixedDigits_length 16 width value; simp [shape] at this; omega
    | cons => rfl
  rw [digitsValue?, filled, digitsOnto?_fixedDigits, Nat.mod_eq_of_lt room]
  simp

theorem digitChar_ne_hyphen : ∀ value < 16, digitChar value ≠ '-' := by decide

theorem hyphen_notMem_fixedDigits (width value : Nat) :
    '-' ∉ fixedDigits 16 width value := by
  induction width generalizing value with
  | zero => simp [fixedDigits]
  | succ width ih =>
    simp only [fixedDigits, List.mem_append, List.mem_singleton, not_or]
    exact ⟨ih _, (digitChar_ne_hyphen _ (Nat.mod_lt _ (by decide))).symm⟩

def decimal (value : Nat) : String :=
  String.ofList (Nat.toDigits 10 value)

def paddedDecimal (width value : Nat) : List Char :=
  let digits := Nat.toDigits 10 value
  List.replicate (width - digits.length) '0' ++ digits

def signedDecimal (value : Int) : String :=
  if value < 0 then "-" ++ decimal value.natAbs else decimal value.natAbs

def takeDigits (chars : List Char) : List Char × List Char :=
  (chars.takeWhile Char.isDigit, chars.dropWhile Char.isDigit)

end TryOn.Text
