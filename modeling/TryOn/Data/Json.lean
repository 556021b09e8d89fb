import TryOn.Data.Basic
import TryOn.Decimal.Nearest
import TryOn.Decimal.Text
import TryOn.Text.Digits

/-! Plain data as JSON text. Reading keeps whole numbers exact while they fit 64 bits and takes
every other number as a floating-point one; writing leaves no blanks. -/

set_option autoImplicit false

namespace TryOn

namespace Data.Json

def isSpace (c : Char) : Bool :=
  c = ' ' || c = '\t' || c = '\n' || c = '\r'

def skipSpace (chars : List Char) : List Char :=
  chars.dropWhile isSpace

def simpleEscape? : Char → Option Char
  | '"' => some '"'
  | '\\' => some '\\'
  | '/' => some '/'
  | 'b' => some '\x08'
  | 'f' => some '\x0c'
  | 'n' => some '\n'
  | 'r' => some '\r'
  | 't' => some '\t'
  | _ => none

def joinSurrogates (high low : Nat) : Char :=
  Char.ofNat (0x10000 + (high - 0xD800) * 0x400 + (low - 0xDC00))

def isHighSurrogate (unit : Nat) : Bool :=
  0xD800 ≤ unit && unit < 0xDC00

def isLowSurrogate (unit : Nat) : Bool :=
  0xDC00 ≤ unit && unit < 0xE000

def stringBody : List Char → Option (List Char × List Char)
  | [] => none
  | '"' :: rest => some ([], rest)
  | '\\' :: 'u' :: a :: b :: c :: d :: rest =>
    match Text.digitsValue? 16 [a, b, c, d] with
    | none => none
    | some unit =>
      if isHighSurrogate unit then
        match rest with
        | '\\' :: 'u' :: e :: f :: g :: h :: rest =>
          match Text.digitsValue? 16 [e, f, g, h] with
          | none => none
          | some low =>
            if isLowSurrogate low then
              (stringBody rest).map fun part => (joinSurrogates unit low :: part.1, part.2)
            else none
        | _ => none
      else if isLowSurrogate unit then none
      else (stringBody rest).map fun part => (Char.ofNat unit :: part.1, part.2)
  | '\\' :: escaped :: rest =>
    match simpleEscape? escaped with
    | some c => (stringBody rest).map fun part => (c :: part.1, part.2)
    | none => none
  | c :: rest =>
    if c.toNat < 0x20 then none
    else (stringBody rest).map fun part => (c :: part.1, part.2)

def tenTo (exponent : Nat) : Float :=
  Float.ofScientific 1 false exponent

def greatestPower : Nat := 308

def scaleDown (x : Float) (exponent : Nat) : Float :=
  if exponent ≤ greatestPower then x / tenTo exponent
  else if x == 0.0 then x
  else scaleDown (x / tenTo greatestPower) (exponent - greatestPower)
termination_by exponent
decreasing_by simp [greatestPower] at *; omega

def scaleUp? (x : Float) (exponent : Nat) : Option Float :=
  if x == 0.0 then some x
  else if exponent ≤ greatestPower then
    let product := x * tenTo exponent
    if product.isInf then none else some product
  else none

/-- A floating-point number out of its digits and its exponent. The digits as a whole number and
the result are each rounded, so the result need not be the nearest number to the decimal. -/
def scaled? (negative : Bool) (digits : Nat) (exponent : Int) : Option Float :=
  let x := (UInt64.ofNat digits).toFloat
  let magnitude :=
    if exponent < 0 then some (scaleDown x exponent.natAbs) else scaleUp? x exponent.natAbs
  magnitude.map (Decimal.signed negative)

/-- Take digits onto a number while it fits 64 bits. The rest of them is counted only. -/
def takeOnto (number : Nat) : List Char → Nat × Nat
  | [] => (number, 0)
  | c :: rest =>
    let next := number * 10 + (Text.digitValue? 10 c).getD 0
    if next < Nat.pow 2 64 then takeOnto next rest else (number, rest.length + 1)

def fitsWord (value : Int) : Bool :=
  -Int.pow 2 63 ≤ value && value < Int.pow 2 64

/-- A whole number out of its sign and its digits; a negative zero is a floating-point one. -/
def wholeNumber? (negative : Bool) (whole : List Char) : Option Data :=
  let (digits, dropped) := takeOnto 0 whole
  let value : Int := if negative then -digits else digits
  if dropped = 0 ∧ fitsWord value ∧ ¬ (negative ∧ digits = 0) then some (.int value)
  else (scaled? negative digits dropped).map .float

def unsigned (negative : Bool) (chars : List Char) : Option (Data × List Char) := do
  let (whole, rest) := Text.takeDigits chars
  if whole.isEmpty then none
  if 1 < whole.length ∧ whole.head? = some '0' then none
  let (fraction, rest) ← Decimal.fractionPart rest
  let (exponent, rest) ← Decimal.exponentPart rest
  match fraction, exponent with
  | none, none => (wholeNumber? negative whole).map (·, rest)
  | _, _ =>
    let fraction := fraction.getD []
    let (digits, dropped) := takeOnto 0 whole
    let (digits, left) := takeOnto digits fraction
    let scale := exponent.getD 0 + dropped - (fraction.length - left : Nat)
    let x ← scaled? negative digits scale
    some (.float x, rest)

def number : List Char → Option (Data × List Char)
  | '-' :: rest => unsigned true rest
  | chars => unsigned false chars

def keyword (word : String) (value : Data) (chars : List Char) : Option (Data × List Char) :=
  (Text.dropLead? word.toList chars).map (value, ·)

mutual

/-- One value. The first argument bounds the nesting of calls. -/
def value : Nat → List Char → Option (Data × List Char)
  | 0, _ => none
  | fuel + 1, chars =>
    match skipSpace chars with
    | '"' :: rest => (stringBody rest).map fun part => (.text (String.ofList part.1), part.2)
    | '[' :: rest =>
      match skipSpace rest with
      | ']' :: rest => some (.list [], rest)
      | rest => (items fuel rest).map fun part => (.list part.1, part.2)
    | '{' :: rest =>
      match skipSpace rest with
      | '}' :: rest => some (.table [], rest)
      | rest => (members fuel rest).map fun part => (ofFields part.1, part.2)
    | 't' :: rest => keyword "rue" (.bool true) rest
    | 'f' :: rest => keyword "alse" (.bool false) rest
    | 'n' :: rest => keyword "ull" .null rest
    | rest => number rest

def items : Nat → List Char → Option (List Data × List Char)
  | 0, _ => none
  | fuel + 1, chars => do
    let (head, rest) ← value fuel chars
    match skipSpace rest with
    | ',' :: rest => (items fuel rest).map fun part => (head :: part.1, part.2)
    | ']' :: rest => some ([head], rest)
    | _ => none

def members : Nat → List Char → Option (List (String × Data) × List Char)
  | 0, _ => none
  | fuel + 1, chars =>
    match skipSpace chars with
    | '"' :: rest => do
      let (key, rest) ← stringBody rest
      match skipSpace rest with
      | ':' :: rest => do
        let (head, rest) ← value fuel rest
        let member := (String.ofList key, head)
        match skipSpace rest with
        | ',' :: rest => (members fuel rest).map fun part => (member :: part.1, part.2)
        | '}' :: rest => some ([member], rest)
        | _ => none
      | _ => none
    | _ => none

end

def ofText? (text : String) : Option Data := do
  let chars := text.toList
  let (result, rest) ← value (2 * chars.length + 2) chars
  if (skipSpace rest).isEmpty then some result else none

def escape? (c : Char) : Option (List Char) :=
  match c with
  | '"' => some ['\\', '"']
  | '\\' => some ['\\', '\\']
  | '\n' => some ['\\', 'n']
  | '\r' => some ['\\', 'r']
  | '\t' => some ['\\', 't']
  | '\x08' => some ['\\', 'b']
  | '\x0c' => some ['\\', 'f']
  | c => if c.toNat < 0x20 then some ('\\' :: 'u' :: Text.fixedDigits 16 4 c.toNat) else none

/-- Characters beyond ASCII that some readers take for the end of a line. -/
def endsLine (c : Char) : Bool :=
  c = '\u0085' || c = '\u2028' || c = '\u2029'

/-- A string in quotes; `oneLine` also escapes the line ends beyond ASCII. -/
def quoted (oneLine : Bool) (text : String) : String :=
  let body := text.toList.flatMap fun c =>
    match escape? c with
    | some escaped => escaped
    | none => if oneLine && endsLine c then '\\' :: 'u' :: Text.fixedDigits 16 4 c.toNat else [c]
  String.ofList ('"' :: body ++ ['"'])

mutual

/-- Write a value. A number that JSON cannot hold is written as null. -/
def write (oneLine : Bool) : Data → String
  | .null => "null"
  | .bool b => if b then "true" else "false"
  | .int n => Text.signedDecimal n
  | .float x => if x.isFinite then Decimal.Form.document.text x else "null"
  | .text s => quoted oneLine s
  | .list items => "[" ++ ",".intercalate (writeItems oneLine items) ++ "]"
  | .table fields => "\x7b" ++ ",".intercalate (writeMembers oneLine fields) ++ "\x7d"

def writeItems (oneLine : Bool) : List Data → List String
  | [] => []
  | item :: rest => write oneLine item :: writeItems oneLine rest

def writeMembers (oneLine : Bool) : List (String × Data) → List String
  | [] => []
  | (key, item) :: rest =>
    (quoted oneLine key ++ ":" ++ write oneLine item) :: writeMembers oneLine rest

end

end Data.Json

def Data.json (value : Data) : String :=
  Data.Json.write false value

def Data.jsonLine (value : Data) : String :=
  Data.Json.write true value

end TryOn
