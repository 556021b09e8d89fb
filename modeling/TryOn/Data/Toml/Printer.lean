import TryOn.Data.Basic
import TryOn.Decimal.Text

/-! Plain data as a TOML document: the scalars and lists of a table first, then each table in it
under a header. There is no document of data with a null in it, or with a whole number that does
not fit 64 bits with its sign. -/

set_option autoImplicit false

namespace TryOn.Data.Toml

def escaped (c : Char) : List Char :=
  match c with
  | '"' => ['\\', '"']
  | '\\' => ['\\', '\\']
  | '\n' => ['\\', 'n']
  | c => if 0x20 ≤ c.toNat && c ≠ '\x7f' then [c] else '\\' :: 'u' :: Text.fixedDigits 16 4 c.toNat

def quoted (text : String) : String :=
  String.ofList ('"' :: text.toList.flatMap escaped ++ ['"'])

def keyText (key : String) : String :=
  if !key.isEmpty && key.toList.all (fun c => c.isAlphanum || c = '_' || c = '-') then key
  else quoted key

mutual

def inlineText? : Data → Option String
  | .null => none
  | .bool value => some (if value then "true" else "false")
  | .int value =>
    if -Int.pow 2 63 ≤ value ∧ value < Int.pow 2 63 then some (Text.signedDecimal value) else none
  | .float value => some (if value.isNaN then "nan" else Decimal.Form.document.text value)
  | .text value => some (quoted value)
  | .list items => (inlineItems? items).map fun items => "[" ++ ", ".intercalate items ++ "]"
  | .table fields =>
    (inlineMembers? fields).map fun members => "\x7b " ++ ", ".intercalate members ++ " \x7d"

def inlineItems? : List Data → Option (List String)
  | [] => some []
  | item :: rest => do return (← inlineText? item) :: (← inlineItems? rest)

def inlineMembers? : List (String × Data) → Option (List String)
  | [] => some []
  | (key, value) :: rest => do
    return (keyText key ++ " = " ++ (← inlineText? value)) :: (← inlineMembers? rest)

end

def plainLines? : List (String × Data) → Option (List String)
  | [] => some []
  | (_, .table _) :: rest => plainLines? rest
  | (key, value) :: rest => do
    return (keyText key ++ " = " ++ (← inlineText? value)) :: (← plainLines? rest)

mutual

def section? (path : List String) : Data → Option (List String)
  | .table fields => do
    let header := "[" ++ ".".intercalate (path.map keyText) ++ "]"
    return header :: (← plainLines? fields) ++ (← sections? path fields)
  | _ => some []

def sections? (path : List String) : List (String × Data) → Option (List String)
  | [] => some []
  | (key, value) :: rest => do
    return (← section? (path ++ [key]) value) ++ (← sections? path rest)

end

def text? (fields : List (String × Data)) : Option String := do
  let lines := (← plainLines? fields) ++ (← sections? [] fields)
  return String.join (lines.map (· ++ "\n"))

end TryOn.Data.Toml
