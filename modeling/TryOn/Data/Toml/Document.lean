import TryOn.Data.Toml.Node
import TryOn.Data.Toml.Scalar

/-! TOML documents: a line is blank, begins a table, or gives a value to a key of the table begun
last. What comes of it is plain data. -/

set_option autoImplicit false

namespace TryOn.Data.Toml

def skipBlanks : Reader Unit :=
  modify fun chars => chars.dropWhile isBlank

def expect (mark : String) : Reader Unit := fun chars =>
  (Text.dropLead? mark.toList chars).map ((), ·)

def withoutSpace (inComment : Bool) : List Char → List Char
  | [] => []
  | '\r' :: '\n' :: rest | '\n' :: rest => withoutSpace false rest
  | c :: rest =>
    if inComment then (if isInline c then withoutSpace true rest else c :: rest)
    else if c = '#' then withoutSpace true rest
    else if isBlank c then withoutSpace false rest
    else c :: rest

def skipSpace : Reader Unit :=
  modify (withoutSpace false)

def isBareKeyChar (c : Char) : Bool :=
  c.isAlphanum || c = '_' || c = '-'

def keyPart : Reader String := fun chars =>
  match lineString? chars with
  | some (part, rest) => some (String.ofList part, rest)
  | none =>
    let part := chars.takeWhile isBareKeyChar
    if part.isEmpty then none else some (String.ofList part, chars.dropWhile isBareKeyChar)

/-- How many parts a key may have, and how deep lists and inline tables may be nested. -/
def maxDepth : Nat := 79

def keyPath : Nat → Reader (List String)
  | 0 => failure
  | parts + 1 => do
    skipBlanks
    let part ← keyPart
    skipBlanks
    match ← get with
    | '.' :: rest =>
      set rest
      return part :: (← keyPath parts)
    | _ => return [part]

def inlineTable (pairs : List (List String × Data)) : Option Data := do
  let entries ← pairs.foldlM (fun (entries : Entries) (path, value) =>
    entries.assign path.dropLast (path.getLast?.getD "") value .header) []
  return (Node.table .header entries).toData

mutual

/-- One value. The first argument bounds the nesting of calls; the second is how deep lists and
inline tables may still be nested. -/
def value : Nat → Nat → Reader Data
  | 0, _ => failure
  | fuel + 1, room => do
    match room, ← get with
    | 0, '[' :: _ | 0, '\x7b' :: _ => failure
    | room + 1, '[' :: rest =>
      set rest
      return .list (← items fuel room)
    | room + 1, '\x7b' :: rest =>
      set rest
      skipBlanks
      match ← get with
      | '\x7d' :: rest =>
        set rest
        return .table []
      | _ => StateT.lift (inlineTable (← pairs fuel room))
    | _, '"' :: _ | _, '\'' :: _ =>
      let text ← (string? : Reader (List Char))
      return .text (String.ofList text)
    | _, _ => bareScalar?

def items : Nat → Nat → Reader (List Data)
  | 0, _ => failure
  | fuel + 1, room => do
    skipSpace
    match ← get with
    | ']' :: rest =>
      set rest
      return []
    | _ =>
      let head ← value fuel room
      skipSpace
      match ← get with
      | ',' :: rest =>
        set rest
        return head :: (← items fuel room)
      | ']' :: rest =>
        set rest
        return [head]
      | _ => failure

def pairs : Nat → Nat → Reader (List (List String × Data))
  | 0, _ => failure
  | fuel + 1, room => do
    let path ← keyPath maxDepth
    expect "="
    skipBlanks
    let head ← value fuel room
    skipBlanks
    match ← get with
    | ',' :: rest =>
      set rest
      return (path, head) :: (← pairs fuel room)
    | '\x7d' :: rest =>
      set rest
      return [(path, head)]
    | _ => failure

end

/-- A document as far as it has been read, and the header of the table begun last. -/
structure Document where
  entries : Entries := []
  header : List String := []

namespace Document

def change (document : Document) (path : List String)
    (act : Origin → Entries → Option Entries) : Option Document :=
  (Entries.within false act path .header document.entries).map fun entries =>
    { document with entries := entries }

def assign (document : Document) (path : List String) (value : Data) : Option Document :=
  document.change document.header (Entries.assign path.dropLast (path.getLast?.getD "") value)

def begin (document : Document) (isItem : Bool) (path : List String) : Option Document :=
  let key := path.getLast?.getD ""
  (document.change path.dropLast
    (if isItem then Entries.openItem key else Entries.openTable key)).map fun document =>
      { document with header := path }

def line (document : Document) : Reader Document := do
  let size := (← get).length
  match ← get with
  | '[' :: '[' :: rest =>
    set rest
    let path ← keyPath maxDepth
    expect "]]"
    StateT.lift (document.begin true path)
  | '[' :: rest =>
    set rest
    let path ← keyPath maxDepth
    expect "]"
    StateT.lift (document.begin false path)
  | _ =>
    let path ← keyPath maxDepth
    expect "="
    skipBlanks
    let assigned ← value (2 * size + 2) maxDepth
    StateT.lift (document.assign path assigned)

def lineEnd : Reader Unit := do
  skipBlanks
  if (← get).head? = some '#' then modify fun chars => chars.dropWhile isInline
  match dropLineEnd? (← get) with
  | some rest => set rest
  | none => if !(← get).isEmpty then failure

def lines (document : Document) : Nat → Reader Document
  | 0 => failure
  | left + 1 => do
    skipSpace
    if (← get).isEmpty then return document
    let next ← document.line
    lineEnd
    next.lines left

end Document

def withoutMark : List Char → List Char
  | '\ufeff' :: rest => rest
  | chars => chars

def ofText? (text : String) : Option Data := do
  let chars := withoutMark text.toList
  let document ← (Document.lines {} (chars.length + 1)).run' chars
  return (Node.table .header document.entries).toData

end TryOn.Data.Toml
