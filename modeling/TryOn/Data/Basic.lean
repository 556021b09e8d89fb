import TryOn.Text.Search

/-! Plain data, as documents hold it: scalars, lists, and tables whose keys are in ascending
order and differ from each other. Whole numbers and floating-point numbers are kept apart. -/

set_option autoImplicit false

namespace TryOn

inductive Data where
  | null
  | bool (value : Bool)
  | int (value : Int)
  | float (value : Float)
  | text (value : String)
  | list (items : List Data)
  | table (fields : List (String × Data))
  deriving Inhabited

namespace Data

def field? (fields : List (String × Data)) (key : String) : Option Data :=
  fields.lookup key

def setField (fields : List (String × Data)) (key : String) (value : Data) :
    List (String × Data) :=
  match fields with
  | [] => [(key, value)]
  | (other, old) :: rest =>
    if key = other then (key, value) :: rest
    else if key < other then (key, value) :: (other, old) :: rest
    else (other, old) :: setField rest key value

/-- A table of the given fields; of two with one key the later wins. -/
def ofFields (fields : List (String × Data)) : Data :=
  .table (fields.foldl (fun table field => setField table field.1 field.2) [])

def ofOption {α : Type} (encode : α → Data) : Option α → Data
  | some value => encode value
  | none => .null

def ofNat (value : Nat) : Data :=
  .int value

theorem field?_setField_self (fields : List (String × Data)) (key : String) (value : Data) :
    field? (setField fields key value) key = some value := by
  induction fields with
  | nil => simp [setField, field?]
  | cons head rest ih =>
    obtain ⟨other, old⟩ := head
    by_cases same : key = other
    · simp [setField, field?, same]
    · by_cases before : key < other
      · simp [setField, field?, same, before]
      · have differ : (key == other) = false := by simpa using same
        simp only [field?] at ih
        simp [setField, field?, same, before, List.lookup_cons, differ, ih]

theorem field?_setField_ne (fields : List (String × Data)) {key other : String} (value : Data)
    (differ : other ≠ key) : field? (setField fields key value) other = field? fields other := by
  have unequal : (other == key) = false := by simpa using differ
  induction fields with
  | nil => simp [setField, field?, List.lookup_cons, unequal]
  | cons head rest ih =>
    obtain ⟨first, old⟩ := head
    simp only [field?] at ih
    by_cases same : key = first
    · subst same
      simp [setField, field?, List.lookup_cons, unequal]
    · by_cases before : key < first
      · simp [setField, field?, same, before, List.lookup_cons, unequal]
      · simp [setField, field?, same, before, List.lookup_cons, ih]

end Data

end TryOn
