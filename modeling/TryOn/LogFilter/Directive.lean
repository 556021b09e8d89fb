import TryOn.Text.Alphanumeric
import TryOn.Text.Blank
import TryOn.Text.Digits
import TryOn.Text.LowerCase
import TryOn.Text.Search

/-! The parts of a log filter: each says down to which level something is shown. -/

set_option autoImplicit false

namespace TryOn

inductive LogLevel where
  | off
  | error
  | warn
  | info
  | debug
  | trace
  deriving DecidableEq, Repr

namespace LogLevel

def all : List LogLevel := [.off, .error, .warn, .info, .debug, .trace]

def name : LogLevel → String
  | .off => "off"
  | .error => "error"
  | .warn => "warn"
  | .info => "info"
  | .debug => "debug"
  | .trace => "trace"

def ofPlace? (chars : List Char) : Option LogLevel :=
  let digits := match chars with
    | '+' :: rest => rest
    | rest => rest
  (Text.digitsValue? 10 digits).bind fun place => all[place]?

def ofChars? (chars : List Char) : Option LogLevel :=
  let word := Text.asciiLowerCase (String.ofList chars)
  ofPlace? chars <|> all.find? fun level => level.name == word

end LogLevel

namespace LogFilter

/-- A field that a span has to have, and the value it has to have there if that matters. -/
structure FieldMatch where
  name : String
  value : Option String
  deriving DecidableEq, Repr

namespace FieldMatch

def order (first second : FieldMatch) : Ordering :=
  (compare first.value.isSome second.value.isSome).then
    ((compare first.name second.name).then (compare first.value second.value))

instance : Ord FieldMatch := ⟨order⟩

def ofText? (text : String) : Option FieldMatch :=
  match Text.splitAll '=' text.toList with
  | [[]] | [] => none
  | [name] => some ⟨String.ofList name, none⟩
  | name :: value :: _ => some ⟨String.ofList name, some (String.ofList value)⟩

def text (field : FieldMatch) : String :=
  match field.value with
  | some value => field.name ++ "=" ++ value
  | none => field.name

end FieldMatch

/-- One part of a filter. Without a target and a span it is for all that no other part is for. -/
structure Directive where
  target : Option String
  span : Option String := none
  fields : List FieldMatch := []
  level : LogLevel
  deriving DecidableEq, Repr

namespace Directive

def isStatic (directive : Directive) : Bool :=
  directive.span.isNone && directive.fields.all (·.value.isNone)

def isDynamic (directive : Directive) : Bool :=
  directive.span.isSome || !directive.fields.isEmpty

/-- How specific a directive is: by the length of its target, by whether it names a span, and by
its number of fields. Of equally specific ones the later in the order of characters is above. -/
def order (first second : Directive) : Ordering :=
  (compare (first.target.map String.utf8ByteSize) (second.target.map String.utf8ByteSize)).then <|
  (compare first.span.isSome second.span.isSome).then <|
  (compare first.fields.length second.fields.length).then <|
  (compare first.target second.target).then <|
  (compare first.span second.span).then (compare first.fields second.fields)

def spanText (directive : Directive) : String :=
  if !directive.isDynamic then ""
  else
    let fields := if directive.fields.isEmpty then ""
      else "\x7b" ++ ",".intercalate (directive.fields.map FieldMatch.text) ++ "\x7d"
    "[" ++ directive.span.getD "" ++ fields ++ "]"

def text (directive : Directive) : String :=
  let subject := directive.target.getD "" ++ directive.spanText
  let named := directive.target.isSome || directive.isDynamic
  (if named then subject ++ "=" else "") ++ directive.level.name

def startsWord (c : Char) : Bool :=
  c = '-' || c = ':' || c = '_' || Text.isAlphanumeric c

def cut (text : List Char) (start stop : Nat) : String :=
  String.ofList ((text.take stop).drop start)

def levelFrom? (text : List Char) (start : Nat) : Option LogLevel :=
  match text.drop start with
  | [] => some .trace
  | rest => LogLevel.ofChars? rest

def levelBehind? (text : List Char) (place : Nat) : List Char → Option LogLevel
  | [] => some .trace
  | '=' :: _ => levelFrom? text (place + 1)
  | _ => none

def spanned? (text : List Char) (target : Option String) (start : Nat) (rest : List Char) :
    Option Directive := do
  let name := rest.takeWhile fun c => c ≠ ']' && c ≠ '\x7b'
  let stop := start + name.length
  let span := cut text start stop
  match rest.drop name.length with
  | ']' :: rest => return ⟨target, some span, [], ← levelBehind? text (stop + 1) rest⟩
  | '\x7b' :: rest =>
    let body := rest.takeWhile (· ≠ '\x7d')
    let last := stop + 1 + body.length
    let field ← FieldMatch.ofText? (cut text (stop + 1) last)
    match rest.drop body.length with
    | '\x7d' :: ']' :: rest =>
      let span := if span.isEmpty then none else some span
      return ⟨target, span, [field], ← levelBehind? text (last + 2) rest⟩
    | _ => none
  | _ => none

/-- Read a directive: a level, or a target or a span with or without its level. A target alone is
shown in full. The marks between the parts are looked for with the blanks at the ends left out,
but the parts are cut out of the text as it stands, so a blank at an end makes a level a target. -/
def ofChars? (text : List Char) : Option Directive :=
  let bare := Text.trimChars text
  let word := bare.takeWhile fun c => c ≠ '=' && c ≠ '['
  match word, bare.drop word.length with
  | [], '[' :: rest => spanned? text none 1 rest
  | [], _ => none
  | c :: _, rest =>
    if !startsWord c then none
    else
      let target := cut text 0 word.length
      match rest with
      | '[' :: rest => spanned? text (some target) (word.length + 1) rest
      | '=' :: _ => (levelFrom? text (word.length + 1)).map fun level =>
          { target := some target, level }
      | _ => match LogLevel.ofChars? text with
        | some level => some { target := none, level }
        | none => some { target := some (String.ofList text), level := .trace }

end Directive

end LogFilter

end TryOn
