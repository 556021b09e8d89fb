import TryOn.Data.Basic

/-! Reading typed values out of plain data. A record is read field by field, in the order in
which it declares them, out of a table or out of a list of the values alone. -/

set_option autoImplicit false

namespace TryOn.Data

/-- Where the value of a declared field is: in place, left out of a table, or behind the end of
a list. -/
inductive Slot where
  | filled (value : Data)
  | absent
  | beyond

/-- What becomes of the items of a list behind those that the fields of a record take. -/
inductive Excess where
  | refused
  | ignored
  deriving DecidableEq, Repr

def slots? (names : List String) (closed : Bool) (excess : Excess) : Data → Option (List Slot)
  | .table fields =>
    if closed && fields.any (fun field => !names.contains field.1) then none
    else some (names.map fun name =>
      match field? fields name with
      | some value => .filled value
      | none => .absent)
  | .list items =>
    if excess = .refused ∧ names.length < items.length then none
    else some ((items.take names.length).map .filled
      ++ List.replicate (names.length - items.length) .beyond)
  | _ => none

abbrev FieldReader (α : Type) := StateT (List Slot) Option α

def nextSlot : FieldReader Slot := fun slots =>
  match slots with
  | slot :: rest => some (slot, rest)
  | [] => none

def required {α : Type} (decode : Data → Option α) : FieldReader α := do
  match ← nextSlot with
  | .filled value => StateT.lift (decode value)
  | _ => StateT.lift none

/-- A field that may be left out of a table or hold null, though a list needs its place. -/
def optional {α : Type} (decode : Data → Option α) : FieldReader (Option α) := do
  match ← nextSlot with
  | .filled .null | .absent => pure none
  | .filled value => StateT.lift ((decode value).map some)
  | .beyond => StateT.lift none

def orDefault {α : Type} (fallback : α) (decode : Data → Option α) : FieldReader α := do
  match ← nextSlot with
  | .filled value => StateT.lift (decode value)
  | _ => pure fallback

def nullable {α : Type} (decode : Data → Option α) : Data → Option (Option α)
  | .null => some none
  | value => (decode value).map some

def openRecord {α : Type} (names : List String) (reader : FieldReader α) (data : Data) :
    Option α := do
  let slots ← slots? names false .refused data
  reader.run' slots

def closedRecord {α : Type} (excess : Excess) (names : List String) (reader : FieldReader α)
    (data : Data) : Option α := do
  let slots ← slots? names true excess data
  reader.run' slots

def asText? : Data → Option String
  | .text value => some value
  | _ => none

def asBool? : Data → Option Bool
  | .bool value => some value
  | _ => none

def asIntBetween? (least greatest : Int) : Data → Option Int
  | .int value => if least ≤ value ∧ value ≤ greatest then some value else none
  | _ => none

def asNat? (bits : Nat) : Data → Option Nat
  | .int value => if 0 ≤ value ∧ value < Int.pow 2 bits then some value.toNat else none
  | _ => none

def asFloat? : Data → Option Float
  | .float value => some value
  | .int value =>
    let magnitude := (UInt64.ofNat value.natAbs).toFloat
    some (if value < 0 then -magnitude else magnitude)
  | _ => none

def asList? {α : Type} (decode : Data → Option α) : Data → Option (List α)
  | .list items => items.mapM decode
  | _ => none

def asTable? {α : Type} (decode : Data → Option α) : Data → Option (List (String × α))
  | .table fields => fields.mapM fun field => (decode field.2).map (field.1, ·)
  | _ => none

/-- One of several named values, written as its name or as a table from its name to null. -/
def asVariant? {α : Type} (variants : List (String × α)) : Data → Option α
  | .text name => variants.lookup name
  | .table [(name, .null)] => variants.lookup name
  | _ => none

end TryOn.Data
