import TryOn.Data.Decode
import TryOn.Identifier
import TryOn.Retry.Classification

/-! Stored images: who owns one, who may see it, and what follows for using it. -/

set_option autoImplicit false

namespace TryOn

inductive ImageOwner where
  | user (id : UserId)
  | vendor
  deriving DecidableEq

inductive Visibility where
  | hidden
  | shown
  deriving DecidableEq, Repr

structure Image where
  id : ImageId
  owner : ImageOwner
  visibility : Visibility
  deriving DecidableEq

inductive ImageError where
  | notFound (image : ImageId)
  | denied (image : ImageId) (user : UserId)
  | unavailable (reason : String)
  deriving DecidableEq

def ImageError.message : ImageError → String
  | .notFound image => "image not found: " ++ image.text
  | .denied image user => "access to image " ++ image.text ++ " denied for user " ++ user.text
  | .unavailable reason => "image service unavailable: " ++ reason

instance : Retry.Failing ImageError where
  message := ImageError.message
  verdict?
    | .unavailable _ => some .retryable
    | .notFound _ | .denied _ _ => some .terminal

namespace ImageOwner

def toData : ImageOwner → Data
  | .user id => .ofFields [("kind", .text "user"), ("id", id.toData)]
  | .vendor => .ofFields [("kind", .text "vendor")]

def ofKind? (isUser : Bool) (content : Option Data) : Option ImageOwner :=
  if isUser then content.bind fun id => (Id.ofData? id).map .user
  else match content with
    | none | some .null => some .vendor
    | some _ => none

def kind? : Data → Option Bool :=
  Data.asVariant? [("user", true), ("vendor", false)]

def ofData? : Data → Option ImageOwner
  | .table fields => do ofKind? (← kind? (← Data.field? fields "kind")) (Data.field? fields "id")
  | .list [kind, id] => do ofKind? (← kind? kind) (some id)
  | _ => none

end ImageOwner

namespace Visibility

def name : Visibility → String
  | .hidden => "private"
  | .shown => "public"

def toData (visibility : Visibility) : Data :=
  .text visibility.name

def ofData? : Data → Option Visibility :=
  Data.asVariant? ([.hidden, .shown].map fun visibility => (visibility.name, visibility))

end Visibility

namespace Image

def isOwnedBy (image : Image) (user : UserId) : Bool :=
  image.owner = .user user

def isUsableAsTargetBy (image : Image) (user : UserId) : Bool :=
  image.visibility = .shown || image.owner = .vendor || image.isOwnedBy user

def grantTo (image : Image) (user : UserId) : Except ImageError Unit :=
  if image.isUsableAsTargetBy user then .ok () else .error (.denied image.id user)

def ofUser (id : ImageId) (user : UserId) : Image := ⟨id, .user user, .hidden⟩

def ofVendor (id : ImageId) : Image := ⟨id, .vendor, .shown⟩

def toData (image : Image) : Data :=
  .ofFields [("id", image.id.toData), ("owner", image.owner.toData),
    ("visibility", image.visibility.toData)]

def ofData? : Data → Option Image :=
  Data.openRecord ["id", "owner", "visibility"] do
    return ⟨← Data.required Id.ofData?, ← Data.required ImageOwner.ofData?,
      ← Data.required Visibility.ofData?⟩

end Image

/-- The images there are; of two with one identifier the first counts. -/
structure Catalogue where
  images : List Image := []

namespace Catalogue

def insert (catalogue : Catalogue) (image : Image) : Catalogue :=
  ⟨image :: catalogue.images⟩

def get (catalogue : Catalogue) (id : ImageId) : Except ImageError Image :=
  match catalogue.images.find? (·.id = id) with
  | some image => .ok image
  | none => .error (.notFound id)

def access (catalogue : Catalogue) (id : ImageId) (user : UserId) : Except ImageError Unit :=
  catalogue.get id >>= fun image => image.grantTo user

end Catalogue

end TryOn
