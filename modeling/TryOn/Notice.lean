import TryOn.Data.Decode
import TryOn.Identifier
import TryOn.LogLine
import TryOn.Retry.Classification

/-! What a user is told of a conversion as it goes along, and how telling can fail. -/

set_option autoImplicit false

namespace TryOn

inductive NoticeKind where
  | started
  | completed
  | failed
  deriving DecidableEq, Repr

structure Notice where
  conversion : ConversionId
  user : UserId
  kind : NoticeKind
  detail : Option String
  deriving DecidableEq

inductive ChannelError where
  | transient (reason : String)
  | rejected (reason : String)
  deriving DecidableEq, Repr

namespace ChannelError

def message : ChannelError → String
  | .transient reason => "notification channel unavailable: " ++ reason
  | .rejected reason => "notification rejected: " ++ reason

instance : Retry.Failing ChannelError where
  message := message
  verdict?
    | .transient _ => some .retryable
    | .rejected _ => some .terminal

end ChannelError

namespace NoticeKind

def name : NoticeKind → String
  | .started => "started"
  | .completed => "completed"
  | .failed => "failed"

def logName : NoticeKind → String
  | .started => "Started"
  | .completed => "Completed"
  | .failed => "Failed"

def toData (kind : NoticeKind) : Data :=
  .text kind.name

def ofData? : Data → Option NoticeKind :=
  Data.asVariant? ([.started, .completed, .failed].map fun kind => (kind.name, kind))

end NoticeKind

namespace Notice

def logTarget : String := "notifications"

def logLine (notice : Notice) : LogLine where
  target := logTarget
  fields := [("message", "conversion notice"), ("conversion_id", notice.conversion.text),
    ("user_id", notice.user.text), ("kind", notice.kind.logName), ("detail", notice.detail.getD "")]

def toData (notice : Notice) : Data :=
  .ofFields [("conversion_id", notice.conversion.toData), ("user_id", notice.user.toData),
    ("kind", notice.kind.toData), ("detail", .ofOption .text notice.detail)]

def ofData? : Data → Option Notice :=
  Data.openRecord ["conversion_id", "user_id", "kind", "detail"] do
    return ⟨← Data.required Id.ofData?, ← Data.required Id.ofData?,
      ← Data.required NoticeKind.ofData?, ← Data.optional Data.asText?⟩

end Notice

structure Delivery where
  notice : Notice
  delivered : Bool
  deriving DecidableEq

/-- A channel that first fails as it was told to and then delivers everything. Nothing in its
script at a place means success there. -/
structure ScriptedChannel where
  script : List (Option ChannelError) := []
  deliveries : List Delivery := []
  deriving DecidableEq

def ScriptedChannel.send (channel : ScriptedChannel) (notice : Notice) :
    Except ChannelError Unit × ScriptedChannel :=
  let outcome := channel.script.headD none
  let next : ScriptedChannel :=
    ⟨channel.script.tail, channel.deliveries ++ [⟨notice, outcome.isNone⟩]⟩
  match outcome with
  | some failure => (.error failure, next)
  | none => (.ok (), next)

end TryOn
