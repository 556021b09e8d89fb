import TryOn.Data.Basic

/-! The tables of a TOML document while it is read. How a table has come about decides what may
still be put into it: each table is begun once, and each key is given a value once. -/

set_option autoImplicit false

namespace TryOn.Data.Toml

inductive Origin where
  /-- By a header of its own, or as the whole document. -/
  | header
  /-- In passing, as a part of the header of another. -/
  | implied
  /-- In passing, as a part of a dotted key. -/
  | dotted
  deriving DecidableEq, Repr

inductive Node where
  | value (value : Data)
  | table (origin : Origin) (entries : List (String × Node))
  /-- Tables that share a header in double brackets. -/
  | tables (items : List (List (String × Node)))

abbrev Entries := List (String × Node)

namespace Entries

def put (entries : Entries) (key : String) (node : Node) : Entries :=
  match entries with
  | [] => [(key, node)]
  | (other, old) :: rest =>
    if key = other then (key, node) :: rest else (other, old) :: put rest key node

/-- Change the table at the end of a path. Tables on the way are made where there are none. A
dotted key does not lead into a table with a header of its own, and nothing leads into a value. -/
def within (isDotted : Bool) (change : Origin → Entries → Option Entries) :
    List String → Origin → Entries → Option Entries
  | [], origin, entries => change origin entries
  | key :: path, _, entries =>
    match entries.lookup key with
    | none =>
      let origin := if isDotted then .dotted else .implied
      (within isDotted change path origin []).map fun inner => put entries key (.table origin inner)
    | some (.table origin inner) =>
      if isDotted && origin = .header then none
      else (within isDotted change path origin inner).map fun inner =>
        put entries key (.table origin inner)
    | some (.tables items) =>
      (within isDotted change path .header (items.getLast?.getD [])).map fun inner =>
        put entries key (.tables (items.dropLast ++ [inner]))
    | some (.value _) => none

/-- Give a value to a key that has none. A dotted key belongs to a table made by dotted keys. -/
def assign (parents : List String) (key : String) (value : Data) (origin : Origin)
    (entries : Entries) : Option Entries :=
  within true
    (fun origin entries =>
      if (origin == .dotted) = parents.isEmpty || (entries.lookup key).isSome then none
      else some (put entries key (.value value)))
    parents origin entries

def openTable (key : String) (_ : Origin) (entries : Entries) : Option Entries :=
  match entries.lookup key with
  | none => some (put entries key (.table .header []))
  | some (.table .implied inner) => some (put entries key (.table .header inner))
  | some _ => none

def openItem (key : String) (_ : Origin) (entries : Entries) : Option Entries :=
  match entries.lookup key with
  | none => some (put entries key (.tables [[]]))
  | some (.tables items) => some (put entries key (.tables (items ++ [[]])))
  | some _ => none

end Entries

mutual

def Node.toData : Node → Data
  | .value value => value
  | .table _ entries => .ofFields (entryData entries)
  | .tables items => .list (itemData items)

def entryData : List (String × Node) → List (String × Data)
  | [] => []
  | (key, node) :: rest => (key, node.toData) :: entryData rest

def itemData : List (List (String × Node)) → List Data
  | [] => []
  | entries :: rest => .ofFields (entryData entries) :: itemData rest

end

end TryOn.Data.Toml
