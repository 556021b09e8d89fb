import TryOn.Data.Basic

/-! Wrapped values in a layer of settings. Below the top a table may hold, under a key of its own,
the value that it stands for. Another key is kept for the number of the layer that a value is from.
Numbers of layers are made up on loading, so a table that comes with one cannot be unwrapped. -/

set_option autoImplicit false

namespace TryOn.Settings.Wrapping

def valueKey : String := "___figment_value_value"

def layerKey : String := "___figment_value_id"

/-- What a table stands for whose values are unwrapped: the value it wraps, or itself. -/
def standsFor? (fields : List (String × Data)) : Option Data :=
  match Data.field? fields layerKey with
  | none => some ((Data.field? fields valueKey).getD (.table fields))
  | some _ => none

mutual

def unwrap? : Data → Option Data
  | .table fields => (unwrapFields? fields).bind standsFor?
  | .list items => (unwrapItems? items).map .list
  | other => some other

def unwrapFields? : List (String × Data) → Option (List (String × Data))
  | [] => some []
  | (key, value) :: rest => do return (key, ← unwrap? value) :: (← unwrapFields? rest)

def unwrapItems? : List Data → Option (List Data)
  | [] => some []
  | item :: rest => do return (← unwrap? item) :: (← unwrapItems? rest)

end

/-- A layer with all values in it unwrapped. The layer itself is no wrapped value. -/
def unwrapLayer? : Data → Option Data
  | .table fields => (unwrapFields? fields).map .table
  | other => some other

end TryOn.Settings.Wrapping
