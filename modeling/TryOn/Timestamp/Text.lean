import TryOn.Data.Basic
import TryOn.Timestamp.Civil
import TryOn.Text.Blank
import TryOn.Text.Digits
import TryOn.Text.Search

/-! Timestamps as text. Written: the date, `T`, the time, a fraction of 0, 3, 6 or 9 digits
and `Z`. Read: any offset, numbers without leading zeros, a blank in place of `T`, and blanks
between the parts; the date must exist, both as it is written and in universal time. -/

set_option autoImplicit false

namespace TryOn

namespace Timestamp

def firstYear : Int := -262143

def lastYear : Int := 262142

def isCovered (moment : Timestamp) : Bool :=
  firstYear ≤ moment.date.year && moment.date.year ≤ lastYear

/-- A year in at least four digits, with a sign outside 0 to 9999. -/
def yearText (year : Int) : List Char :=
  if 0 ≤ year ∧ year ≤ 9999 then Text.paddedDecimal 4 year.toNat
  else (if year < 0 then '-' else '+') :: Text.paddedDecimal 4 year.natAbs

/-- The fewest of 0, 3, 6 or 9 digits that give the fraction exactly. -/
def fractionText (nanos : Nat) : List Char :=
  if nanos = 0 then []
  else if nanos % 1000000 = 0 then '.' :: Text.paddedDecimal 3 (nanos / 1000000)
  else if nanos % 1000 = 0 then '.' :: Text.paddedDecimal 6 (nanos / 1000)
  else '.' :: Text.paddedDecimal 9 nanos

def nanosPerSecond : Nat := 1000000000

def text (moment : Timestamp) : String :=
  let date := moment.date
  let second := moment.secondOfDay
  let leap := moment.nanos / nanosPerSecond
  String.ofList (yearText date.year ++ '-' :: Text.paddedDecimal 2 date.month
    ++ '-' :: Text.paddedDecimal 2 date.day ++ 'T' :: Text.paddedDecimal 2 (second / 3600)
    ++ ':' :: Text.paddedDecimal 2 (second / 60 % 60)
    ++ ':' :: Text.paddedDecimal 2 (second % 60 + leap)
    ++ fractionText (moment.nanos % nanosPerSecond) ++ ['Z'])

def skipBlanks (chars : List Char) : List Char :=
  chars.dropWhile Text.isBlank

/-- A number of one to `width` digits, blanks in front skipped. -/
def number (width : Nat) (chars : List Char) : Option (Nat × List Char) :=
  let chars := skipBlanks chars
  let digits := (chars.take width).takeWhile Char.isDigit
  (Text.digitsValue? 10 digits).map fun value => (value, chars.drop digits.length)

/-- A year: up to four digits, or any number of them behind a sign. -/
def year (chars : List Char) : Option (Int × List Char) :=
  match skipBlanks chars with
  | '-' :: rest => (Text.digitsValue? 10 (Text.takeDigits rest).1).map fun value =>
      (-(value : Int), (Text.takeDigits rest).2)
  | '+' :: rest => (Text.digitsValue? 10 (Text.takeDigits rest).1).map fun value =>
      ((value : Int), (Text.takeDigits rest).2)
  | rest => (number 4 rest).map fun part => ((part.1 : Int), part.2)

def separator (mark : Char) (chars : List Char) : Option (List Char) :=
  match skipBlanks chars with
  | c :: rest => if c = mark then some rest else none
  | [] => none

/-- An optional fraction of a second in nanoseconds; digits from the tenth on are dropped. -/
def fraction : List Char → Option (Nat × List Char)
  | '.' :: rest =>
    let (digits, left) := Text.takeDigits rest
    let kept := digits.take 9
    (Text.digitsValue? 10 kept).map fun value => (value * Nat.pow 10 (9 - kept.length), left)
  | chars => some (0, chars)

def twoDigits : List Char → Option (Nat × List Char)
  | a :: b :: rest => (Text.digitsValue? 10 [a, b]).map fun value => (value, rest)
  | _ => none

def signedOffset (sign : Int) (chars : List Char) : Option (Int × List Char) := do
  let (hours, chars) ← twoDigits chars
  let (minutes, chars) ← twoDigits (chars.dropWhile fun c => c = ':' || Text.isBlank c)
  if minutes ≤ 59 ∧ hours ≤ 23 then some (sign * (hours * 3600 + minutes * 60 : Nat), chars)
  else none

def offset (chars : List Char) : Option (Int × List Char) :=
  match chars with
  | 'Z' :: rest | 'z' :: rest => some (0, rest)
  | '+' :: rest => signedOffset 1 rest
  | '-' :: rest | '−' :: rest => signedOffset (-1) rest
  | _ =>
    if (chars.take 3).map Char.toLower = ['u', 't', 'c'] then some (0, chars.drop 3) else none

def ofText? (text : String) : Option Timestamp := do
  let (year, chars) ← year text.toList
  let (month, chars) ← number 2 (← separator '-' chars)
  let (day, chars) ← number 2 (← separator '-' chars)
  let chars ← match chars with
    | 't' :: rest | 'T' :: rest | ' ' :: rest => some rest
    | _ => none
  let (hour, chars) ← number 2 chars
  let (minute, chars) ← number 2 (← separator ':' chars)
  let (second, chars) ← number 2 (← separator ':' chars)
  let (nanos, chars) ← fraction chars
  let (offset, chars) ← offset (skipBlanks chars)
  let date : CivilDate := ⟨year, month, day⟩
  if date.Exists ∧ firstYear ≤ year ∧ year ≤ lastYear ∧ hour ≤ 23 ∧ minute ≤ 59 ∧ second ≤ 60
      ∧ (skipBlanks chars).isEmpty then
    let leap := if second = 60 then 1 else 0
    let moment : Timestamp :=
      ⟨date.dayNumber * secondsPerDay + (hour * 3600 + minute * 60 + (second - leap) : Nat)
        - offset, nanos + leap * nanosPerSecond⟩
    if moment.isCovered then some moment else none
  else none

def toData (moment : Timestamp) : Data :=
  .text moment.text

def ofData? : Data → Option Timestamp
  | .text text => ofText? text
  | _ => none

end Timestamp

end TryOn
