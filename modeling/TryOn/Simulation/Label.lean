import TryOn.Simulation.World

/-! Labels for identifiers that a simulation has made up: a letter for what is identified, and how
many there were then. Results have their numbers by where they are first named as such. -/

set_option autoImplicit false

namespace TryOn.Simulation

namespace Origin

def letter : Origin → Char
  | .conversion => 'c'
  | .image => 'i'
  | .result => 'r'

def label (origin : Origin) (count : Nat) : List Char :=
  origin.letter :: Nat.toDigits 10 (count + 1)

def labelled? (made : Origin → Nat) (label : String) : Option Uuid := do
  let origin ← [Origin.conversion, Origin.image].find? fun origin =>
    label.toList.head? = some origin.letter
  let number ← Text.digitsValue? 10 (label.toList.drop 1)
  if number ≤ made origin ∧ label.toList = origin.label (number - 1) then
    some (origin.identifier (number - 1))
  else none

end Origin

def World.made (world : World) : Origin → Nat
  | .conversion => world.conversionsMade
  | .image => world.imagesMade
  | .result => world.resultsMade

def World.creationDate? (world : World) (label : String) : Option Timestamp := do
  let (origin, count) ← Origin.ofIdentifier? (← Origin.labelled? world.made label)
  if origin = .conversion then world.creationDates[count]? else none

def textLength : Nat := 36

def identifierAt? (chars : List Char) : Option Uuid :=
  if (chars.drop 8).head? = some '-' then
    (Uuid.ofHyphenated? (chars.take textLength)).filter fun id =>
      id.text.toList = chars.take textLength
  else none

def resultKey : String := "result_image_id"

/-- The result that a table names, unless it was given from outside. -/
def ownResult? (isGiven : String → Bool) (fields : List (String × Data)) : Option Uuid := do
  let text ← Data.asText? (← Data.field? fields resultKey)
  if text.length = textLength ∧ !isGiven text then identifierAt? text.toList else none

mutual

/-- The results that are named as such, each as often as it is. What a table names itself comes
before what is in it. -/
def resultsIn (isGiven : String → Bool) : Data → List Uuid
  | .table fields => (ownResult? isGiven fields).toList ++ resultsInFields isGiven fields
  | .list items => resultsInItems isGiven items
  | _ => []

def resultsInItems (isGiven : String → Bool) : List Data → List Uuid
  | [] => []
  | item :: rest => resultsIn isGiven item ++ resultsInItems isGiven rest

def resultsInFields (isGiven : String → Bool) : List (String × Data) → List Uuid
  | [] => []
  | (_, value) :: rest => resultsIn isGiven value ++ resultsInFields isGiven rest

end

/-- The label of an identifier: of a result by its place among those named, of another one that
was made up by how many there were. -/
def labelOf? (results : List Uuid) (id : Uuid) : Option (List Char) :=
  match results.idxOf? id, Origin.ofIdentifier? id with
  | some place, _ => some (Origin.result.label place)
  | none, some (.result, _) | none, none => none
  | none, some (origin, count) => some (origin.label count)

def relabelChars (results : List Uuid) : Nat → List Char → List Char
  | _, [] => []
  | skipped + 1, _ :: rest => relabelChars results skipped rest
  | 0, c :: rest =>
    match (identifierAt? (c :: rest)).bind (labelOf? results) with
    | some label => label ++ relabelChars results (textLength - 1) rest
    | none => c :: relabelChars results 0 rest

mutual

def relabel (results : List Uuid) : Data → Data
  | .text text => .text (String.ofList (relabelChars results 0 text.toList))
  | .list items => .list (relabelItems results items)
  | .table fields => .table (relabelFields results fields)
  | other => other

def relabelItems (results : List Uuid) : List Data → List Data
  | [] => []
  | item :: rest => relabel results item :: relabelItems results rest

def relabelFields (results : List Uuid) : List (String × Data) → List (String × Data)
  | [] => []
  | (key, value) :: rest => (key, relabel results value) :: relabelFields results rest

end

def labelled (isGiven : String → Bool) (data : Data) : Data :=
  relabel (resultsIn isGiven data).eraseDups data

end TryOn.Simulation
