import TryOn.Service.Basic

/-! Admission of a conversion: the rate limit, the images, the form of the request and the quota,
in this order; the first that refuses decides. What follows an admission cannot undo it. -/

set_option autoImplicit false

namespace TryOn

structure AdmissionRequest where
  source : ImageId
  target : ImageId
  style : Option String
  deriving DecidableEq

namespace AdmissionRequest

def toData (request : AdmissionRequest) : Data :=
  .ofFields [("source_image_id", request.source.toData),
    ("target_image_id", request.target.toData), ("style", .ofOption .text request.style)]

def ofData? : Data → Option AdmissionRequest :=
  Data.openRecord ["source_image_id", "target_image_id", "style"] do
    return ⟨← Data.required Id.ofData?, ← Data.required Id.ofData?,
      ← Data.orDefault none (Data.nullable Data.asText?)⟩

def draft (request : AdmissionRequest) (user : UserId) : Draft :=
  ⟨user, request.source, request.target, request.style⟩

end AdmissionRequest

/-- How a failed look at an image is reported. What was called off before it failed for the
first time counts as called off. -/
def Failure.ofLookup (failure : Retry.Failure ImageError) : Failure :=
  match failure.last? with
  | none => .cancelled
  | some (.notFound image) => .invalidImage ("image " ++ image.text ++ " does not exist")
  | some (.denied image _) => .accessDenied ("image " ++ image.text ++ " is not accessible")
  | some (.unavailable reason) =>
    .retryExhausted failure.attempts (ImageError.unavailable reason).message

namespace Service

variable (service : Service)

def resolveImage (id : ImageId) : Action Image := do
  let looked ← ExceptT.lift (Retry.execute (.ofProgram true) (service.policies.get imagesPolicy)
    fun _ => Program.request (.image id))
  Action.orFail .ofLookup looked

def reserve (draft : Draft) : Action Created :=
  Action.store (.create draft)

/-- Let a request pass all gates. It counts towards the rate limit only if it does. -/
def admission (user : UserId) (request : AdmissionRequest) : Action Created := do
  let allowed ← Action.request (.checkRate user)
  Action.orFail .ofRateLimited allowed
  let source ← service.resolveImage request.source
  if !source.isOwnedBy user then
    throw (.accessDenied ("source image " ++ source.id.text ++ " does not belong to the caller"))
  let target ← service.resolveImage request.target
  if !target.isUsableAsTargetBy user then
    throw (.accessDenied ("target image " ++ target.id.text ++ " is private"))
  let draft := request.draft user
  Action.orFail .ofViolation draft.check
  let created ← reserve draft
  Action.request (.recordRate user)
  return created

def creationMetadata (created : Created) : Data :=
  .ofFields [("charged", created.charged.toData),
    ("source_image_id", created.conversion.source.toData),
    ("target_image_id", created.conversion.target.toData),
    ("style", .ofOption .text created.conversion.style)]

def create (user : UserId) (request : AdmissionRequest) : Action Created := do
  let created ← tryCatch (service.admission user request) fun failure => do
    if failure.isAdmissionRejection then Action.request (.count (.rejected failure.code))
    throw failure
  let id := created.conversion.id
  Action.request (.count .started)
  Action.audit .created user id (creationMetadata created)
  service.notify ⟨id, user, .started, none⟩
  dispatch service.policies (Program.request (.enqueue id))
  return created

end Service

end TryOn
