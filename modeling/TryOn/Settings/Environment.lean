import TryOn.Data.Overlay
import TryOn.Data.Toml.Scalar
import TryOn.Text.Blank
import TryOn.Text.LowerCase
import TryOn.Text.Search

/-! Settings in environment variables. The name of a variable, behind a lead that all of them
share, names one setting: `watch_grace_ms` is `grace_ms` in `watch`. Names of sections and of
settings both have underscores in them, so the sections are told by their names. -/

set_option autoImplicit false

namespace TryOn.Settings.Environment

def programLead : String := "FITSWAP_"

def sections : List String := ["logging", "rate_limit", "quota", "watch", "worker"]

def sectionPath? (key : List Char) (name : String) : Option (List Char) :=
  (Text.dropLead? (name.toList ++ ['_']) key).map fun field => name.toList ++ '.' :: field

theorem sectionPath?_eq_some_iff (key : List Char) (name : String) (found : List Char) :
    sectionPath? key name = some found
      ↔ ∃ field, key = name.toList ++ '_' :: field ∧ found = name.toList ++ '.' :: field := by
  rw [sectionPath?, Option.map_eq_some_iff]
  constructor
  · rintro ⟨field, cut, rfl⟩
    have whole := (Text.dropLead?_eq_some_iff _ _ _).1 cut
    exact ⟨field, by simpa using whole, rfl⟩
  · rintro ⟨field, rfl, rfl⟩
    exact ⟨field, (Text.dropLead?_eq_some_iff _ _ _).2 (by simp), rfl⟩

/-- The path of a setting of a retry policy: of the fallback, or of a class of operations, whose
name has no underscore. -/
def policyPath? (key : List Char) : Option (List Char) := do
  let rest ← Text.dropLead? "retry_".toList key
  match Text.dropLead? "default_".toList rest with
  | some field => return "retry.default.".toList ++ field
  | none =>
    let policy ← Text.dropLead? "policies_".toList rest
    let (name, field) ← Text.splitOnce '_' policy
    return "retry.policies.".toList ++ name ++ '.' :: field

/-- The path that a key names, its parts parted by dots. A key of another form is its own path. -/
def path (key : List Char) : List Char :=
  (policyPath? key).getD ((sections.findSome? (sectionPath? key)).getD key)

/-- The parts of the path that the name of a variable stands for, in lower case, if the name
begins with the lead, whatever the case of its letters, and no part is empty. -/
def setting? (lead name : String) : Option (List String) := do
  let chars := Text.trimChars name.toList
  let start := String.ofList (chars.take lead.length)
  if Text.asciiLowerCase start ≠ Text.asciiLowerCase lead then none
  let parts := Text.splitAll '.' (Text.trimChars (path (chars.drop lead.length)))
  if parts.any List.isEmpty then none
  return parts.map fun part => Text.asciiLowerCase (String.ofList part)

example : setting? "A_" "a_watch_ms" = some ["watch", "ms"] := by decide +kernel

def isSpace (c : Char) : Bool :=
  c = ' ' || c = '\t' || c = '\n' || c = '\r' || c = '\x0c'

def isMark (c : Char) : Bool :=
  c = ',' || c = '\x7b' || c = '\x7d' || c = '[' || c = ']'

/-- The magnitude of a floating-point number. There may be no digits on one side of the point. -/
def magnitude? (chars : List Char) : Option Float := do
  let (whole, rest) := Text.takeDigits chars
  let (fraction, rest) := match rest with
    | '.' :: rest => Text.takeDigits rest
    | rest => ([], rest)
  let (exponent, rest) ← Decimal.exponentPart rest
  if !rest.isEmpty then none
  return (← Decimal.ofParts? whole fraction (exponent.getD 0)).nearest

/-- A number: with a point in it a floating-point number, else a whole one that fits 64 bits. -/
def number? (chars : List Char) : Option Data := do
  let (negative, rest) := match chars with
    | '-' :: rest => (true, rest)
    | '+' :: rest => (false, rest)
    | rest => (false, rest)
  if rest.contains '.' then
    return .float (Decimal.signed negative (← magnitude? rest))
  let value : Int := ← Text.digitsValue? 10 rest
  let value := if negative then -value else value
  if -Int.pow 2 63 ≤ value ∧ value < Int.pow 2 64 then some (.int value) else none

def word (chars : List Char) : Data :=
  (number? chars).getD (.text (String.ofList chars))

open Data.Toml (Reader basicBody)

def skipSpace : Reader Unit :=
  modify fun chars => chars.dropWhile isSpace

def pairKey : Reader String := fun chars =>
  match chars with
  | '"' :: rest => (basicBody rest).map fun part => (String.ofList part.1, part.2)
  | chars =>
    let isKeyChar (c : Char) : Bool := c.isAlphanum || c = '_' || c = '-'
    let key := chars.takeWhile isKeyChar
    if key.isEmpty then none else some (String.ofList key, chars.dropWhile isKeyChar)

mutual

/-- One value, blanks around it left out. What begins like a truth value is one. The first argument
bounds the nesting of calls. -/
def value : Nat → Reader Data
  | 0 => failure
  | fuel + 1 => do
    skipSpace
    let read ← match ← get with
      | 't' :: 'r' :: 'u' :: 'e' :: rest =>
        set rest
        pure (.bool true)
      | 'f' :: 'a' :: 'l' :: 's' :: 'e' :: rest =>
        set rest
        pure (.bool false)
      | '[' :: rest =>
        set rest
        pure (.list (← items fuel))
      | '\x7b' :: rest =>
        set rest
        pure (.ofFields (← pairs fuel))
      | '"' :: rest =>
        let (chars, rest) ← StateT.lift (basicBody rest)
        set rest
        pure (.text (String.ofList chars))
      | '\'' :: c :: '\'' :: rest =>
        set rest
        pure (.text c.toString)
      | '\'' :: _ => failure
      | chars =>
        set (chars.dropWhile fun c => !isMark c)
        pure (word (Text.trimChars (chars.takeWhile fun c => !isMark c)))
    skipSpace
    return read

/-- The items of a list up to its closing bracket. A comma may follow the last if nothing stands
between it and the bracket; else there is an empty text between them. -/
def items : Nat → Reader (List Data)
  | 0 => failure
  | fuel + 1 => do
    match ← get with
    | ']' :: rest =>
      set rest
      return []
    | _ =>
      let head ← value fuel
      match ← get with
      | ',' :: rest =>
        set rest
        return head :: (← items fuel)
      | ']' :: rest =>
        set rest
        return [head]
      | _ => failure

/-- The pairs of a table up to its closing brace. A comma may follow the last if nothing stands
between it and the brace. -/
def pairs : Nat → Reader (List (String × Data))
  | 0 => failure
  | fuel + 1 => do
    match ← get with
    | '\x7d' :: rest =>
      set rest
      return []
    | _ =>
      skipSpace
      let key ← pairKey
      skipSpace
      match ← get with
      | '=' :: rest => set rest
      | _ => failure
      let head ← value fuel
      match ← get with
      | ',' :: rest =>
        set rest
        return (key, head) :: (← pairs fuel)
      | '\x7d' :: rest =>
        set rest
        return [(key, head)]
      | _ => failure

end

def readValue (text : String) : Data :=
  let chars := text.toList
  match (value (2 * chars.length + 2)).run chars with
  | some (read, []) => read
  | _ => .text text

def nested (value : Data) : List String → Data
  | [] => value
  | part :: parts => .table [(part, nested value parts)]

/-- All settings in the variables, given with their values. Where two name the same one, that
counts whose name comes later in the order of characters. -/
def settings (lead : String) (assignments : List (String × String)) : Data :=
  let ordered := assignments.mergeSort fun first second => first.1 ≤ second.1
  ordered.foldl (fun below (name, text) =>
    match setting? lead name with
    | some parts => below.overlay (nested (readValue text) parts)
    | none => below) (.table [])

end TryOn.Settings.Environment
