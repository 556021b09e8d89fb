import TryOn.Data.Basic
import TryOn.Uuid
import TryOn.Violation

/-! Identifiers of users, conversions and images. Each kind is a type of its own, so that one
cannot stand where another is meant; all three are written as their unique identifier. -/

set_option autoImplicit false

namespace TryOn

inductive Referent where
  | user
  | conversion
  | image
  deriving DecidableEq, Repr

def Referent.label : Referent → String
  | .user => "UserId"
  | .conversion => "ConversionId"
  | .image => "ImageId"

structure Id (referent : Referent) where
  uuid : Uuid
  deriving DecidableEq

abbrev UserId := Id .user
abbrev ConversionId := Id .conversion
abbrev ImageId := Id .image

namespace Id

variable {referent : Referent}

instance : Ord (Id referent) := ⟨compareOn (·.uuid)⟩

instance : Std.TransOrd (Id referent) :=
  inferInstanceAs (Std.TransCmp (compareOn fun id : Id referent => id.uuid))

instance : Std.LawfulEqOrd (Id referent) where
  eq_of_compare {first second} same := by
    cases first
    cases second
    exact congrArg Id.mk (Std.LawfulEqOrd.eq_of_compare (α := Uuid) same)

def text (id : Id referent) : String :=
  id.uuid.text

def ofText? (text : String) : Except Violation (Id referent) :=
  match Uuid.ofText? text with
  | some uuid => .ok ⟨uuid⟩
  | none => .error (.identifier referent.label)

theorem ofText?_text (id : Id referent) : ofText? id.text = .ok id := by
  simp [ofText?, text, Uuid.ofText?_text]

def toData (id : Id referent) : Data :=
  .text id.text

def ofData? : Data → Option (Id referent)
  | .text text => (ofText? text).toOption
  | _ => none

@[simp] theorem ofData?_toData (id : Id referent) : ofData? id.toData = some id := by
  simp [ofData?, toData, ofText?_text, Except.toOption]

end Id

end TryOn
