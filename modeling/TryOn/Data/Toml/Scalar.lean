import TryOn.Data.Basic
import TryOn.Decimal.Nearest
import TryOn.Timestamp.Text

/-! The scalars of TOML: strings in four spellings, numbers, truth values, dates and times. -/

set_option autoImplicit false

namespace TryOn.Data.Toml

abbrev Reader := StateT (List Char) Option

def isBlank (c : Char) : Bool :=
  c = ' ' || c = '\t'

def isInline (c : Char) : Bool :=
  c = '\t' || (0x20 ≤ c.toNat && c ≠ '\x7f')

def simpleEscape? : Char → Option Char
  | 'b' => some '\x08'
  | 't' => some '\t'
  | 'n' => some '\n'
  | 'f' => some '\x0c'
  | 'r' => some '\r'
  | '"' => some '"'
  | '\\' => some '\\'
  | _ => none

def numbered? (digits : List Char) : Option Char :=
  (Text.digitsValue? 16 digits).bind fun code =>
    if code.isValidChar then some (Char.ofNat code) else none

def prepend (c : Option Char) (part : Option (List Char × List Char)) :
    Option (List Char × List Char) :=
  c.bind fun c => part.map fun part => (c :: part.1, part.2)

def basicBody : List Char → Option (List Char × List Char)
  | [] => none
  | '"' :: rest => some ([], rest)
  | '\\' :: 'u' :: a :: b :: c :: d :: rest => prepend (numbered? [a, b, c, d]) (basicBody rest)
  | '\\' :: 'U' :: a :: b :: c :: d :: e :: f :: g :: h :: rest =>
    prepend (numbered? [a, b, c, d, e, f, g, h]) (basicBody rest)
  | '\\' :: c :: rest => prepend (simpleEscape? c) (basicBody rest)
  | c :: rest => if isInline c then prepend (some c) (basicBody rest) else none

def dropLineEnd? : List Char → Option (List Char)
  | '\n' :: rest | '\r' :: '\n' :: rest => some rest
  | _ => none

def isLineDone (chars : List Char) : Bool :=
  (dropLineEnd? (chars.dropWhile isBlank)).isSome

/-- A string with escapes on several lines, up to its closing quotes. Behind a backslash at the
end of a line blanks and line ends are left out. -/
def basicBlock (skipping : Bool) : List Char → Option (List Char × List Char)
  | [] => none
  | '"' :: '"' :: '"' :: '"' :: '"' :: rest => some (['"', '"'], rest)
  | '"' :: '"' :: '"' :: '"' :: rest => some (['"'], rest)
  | '"' :: '"' :: '"' :: rest => some ([], rest)
  | '\\' :: 'u' :: a :: b :: c :: d :: rest =>
    prepend (numbered? [a, b, c, d]) (basicBlock false rest)
  | '\\' :: 'U' :: a :: b :: c :: d :: e :: f :: g :: h :: rest =>
    prepend (numbered? [a, b, c, d, e, f, g, h]) (basicBlock false rest)
  | '\\' :: c :: rest =>
    if isLineDone (c :: rest) then basicBlock true (c :: rest)
    else prepend (simpleEscape? c) (basicBlock false rest)
  | '\r' :: '\n' :: rest | '\n' :: rest =>
    if skipping then basicBlock true rest else prepend (some '\n') (basicBlock false rest)
  | c :: rest =>
    if skipping && isBlank c then basicBlock true rest
    else if isInline c then prepend (some c) (basicBlock false rest)
    else none

def literalBody : List Char → Option (List Char × List Char)
  | [] => none
  | '\'' :: rest => some ([], rest)
  | c :: rest => if isInline c then prepend (some c) (literalBody rest) else none

def literalBlock : List Char → Option (List Char × List Char)
  | [] => none
  | '\'' :: '\'' :: '\'' :: '\'' :: '\'' :: rest => some (['\'', '\''], rest)
  | '\'' :: '\'' :: '\'' :: '\'' :: rest => some (['\''], rest)
  | '\'' :: '\'' :: '\'' :: rest => some ([], rest)
  | '\r' :: '\n' :: rest | '\n' :: rest => prepend (some '\n') (literalBlock rest)
  | c :: rest => if isInline c then prepend (some c) (literalBlock rest) else none

def afterOpening (chars : List Char) : List Char :=
  (dropLineEnd? chars).getD chars

def lineString? : List Char → Option (List Char × List Char)
  | '"' :: rest => basicBody rest
  | '\'' :: rest => literalBody rest
  | _ => none

def string? : List Char → Option (List Char × List Char)
  | '"' :: '"' :: '"' :: rest => basicBlock false (afterOpening rest)
  | '\'' :: '\'' :: '\'' :: rest => literalBlock (afterOpening rest)
  | chars => lineString? chars

/-- Leave out the underscores, each of which has to stand between two digits. -/
def ungrouped? (isDigit : Char → Bool) (afterDigit : Bool) : List Char → Option (List Char)
  | [] => some []
  | '_' :: rest =>
    if afterDigit && rest.head?.any isDigit then ungrouped? isDigit false rest else none
  | c :: rest => (ungrouped? isDigit (isDigit c) rest).map (c :: ·)

def wholeNumber? (value : Int) : Option Data :=
  if -Int.pow 2 63 ≤ value ∧ value < Int.pow 2 63 then some (.int value) else none

def basedNumber? (base : Nat) (digits : List Char) : Option Data := do
  let digits ← ungrouped? (fun c => (Text.digitValue? base c).isSome) false digits
  wholeNumber? (← Text.digitsValue? base digits)

/-- A number in base ten without its sign. One that is too far above zero is refused; one too far
below it becomes infinite. -/
def decimalNumber? (negative : Bool) (chars : List Char) : Option Data := do
  let (whole, rest) := Text.takeDigits (← ungrouped? Char.isDigit false chars)
  let value ← Text.digitsValue? 10 whole
  if 1 < whole.length ∧ whole.head? = some '0' then none
  let (fraction, rest) ← Decimal.fractionPart rest
  let (exponent, rest) ← Decimal.exponentPart rest
  if !rest.isEmpty then none
  match fraction, exponent with
  | none, none => wholeNumber? (if negative then -(value : Int) else value)
  | _, _ =>
    let x := (← Decimal.ofParts? whole (fraction.getD []) (exponent.getD 0)).nearest
    if x.isInf && !negative then none else some (.float (Decimal.signed negative x))

def signedNumber? (negative : Bool) : List Char → Option Data
  | ['i', 'n', 'f'] => some (.float (Decimal.signed negative (1.0 / 0.0)))
  | ['n', 'a', 'n'] => some (.float (0.0 / 0.0))
  | chars => decimalNumber? negative chars

def word? : List Char → Option Data
  | ['t', 'r', 'u', 'e'] => some (.bool true)
  | ['f', 'a', 'l', 's', 'e'] => some (.bool false)
  | '0' :: 'x' :: digits => basedNumber? 16 digits
  | '0' :: 'o' :: digits => basedNumber? 8 digits
  | '0' :: 'b' :: digits => basedNumber? 2 digits
  | '-' :: chars => signedNumber? true chars
  | '+' :: chars => signedNumber? false chars
  | chars => signedNumber? false chars

def upTo? (greatest : Nat) (chars : List Char) : Option (Nat × List Char) :=
  (Timestamp.twoDigits chars).filter (·.1 ≤ greatest)

def dropDate? (chars : List Char) : Option (List Char) := do
  let year ← (Text.digitsValue? 10 (chars.take 4)).filter fun _ => chars.length ≥ 10
  let (month, chars) ← Timestamp.twoDigits (← Text.dropLead? ['-'] (chars.drop 4))
  let (day, chars) ← Timestamp.twoDigits (← Text.dropLead? ['-'] chars)
  if (⟨year, month, day⟩ : CivilDate).Exists then some chars else none

def dropTime? (chars : List Char) : Option (List Char) := do
  let (_, chars) ← upTo? 23 chars
  let (_, chars) ← upTo? 59 (← Text.dropLead? [':'] chars)
  let (_, chars) ← upTo? 60 (← Text.dropLead? [':'] chars)
  return (← Decimal.fractionPart chars).2

def dropOffset? : List Char → Option (List Char)
  | 'Z' :: rest | 'z' :: rest => some rest
  | '+' :: rest | '-' :: rest => do
    let (_, rest) ← upTo? 23 rest
    let (_, rest) ← upTo? 59 (← Text.dropLead? [':'] rest)
    return rest
  | _ => none

def dropMoment? (chars : List Char) : Option (List Char) :=
  match dropDate? chars with
  | none => dropTime? chars
  | some rest =>
    match rest with
    | 'T' :: later | 't' :: later | ' ' :: later =>
      match dropTime? later with
      | some later => some ((dropOffset? later).getD later)
      | none => some rest
    | _ => some rest

/-- Plain data has no dates; one stands there as a table with this key alone. -/
def momentKey : String := "$moment"

def isWordChar (c : Char) : Bool :=
  c.isAlphanum || c = '_' || c = '+' || c = '-' || c = '.'

def bareScalar? (chars : List Char) : Option (Data × List Char) :=
  match dropMoment? chars with
  | some rest =>
    let text := String.ofList (chars.take (chars.length - rest.length))
    some (.ofFields [(momentKey, .text text)], rest)
  | none => (word? (chars.takeWhile isWordChar)).map (·, chars.dropWhile isWordChar)

end TryOn.Data.Toml
