import TryOn.Data.Decode
import TryOn.Duration
import TryOn.Identifier
import TryOn.Retry.Classification

/-! The work itself: putting a target image onto a source image. It is done elsewhere, takes a
while and may fail. -/

set_option autoImplicit false

namespace TryOn

structure ProcessRequest where
  conversion : ConversionId
  source : ImageId
  target : ImageId
  style : Option String
  deriving DecidableEq

inductive ProcessorError where
  /-- It is known to pass. -/
  | transient (reason : String)
  /-- The input was refused. -/
  | rejected (reason : String)
  /-- Anything else, known by its text alone. -/
  | other (text : String)
  deriving DecidableEq, Repr

namespace ProcessorError

def message : ProcessorError → String
  | .transient reason => "processor temporarily unavailable: " ++ reason
  | .rejected reason => "processor rejected input: " ++ reason
  | .other text => text

instance : Retry.Failing ProcessorError where
  message := message
  verdict?
    | .transient _ => some .retryable
    | .rejected _ => some .terminal
    | .other _ => none

end ProcessorError

namespace ProcessRequest

def fieldNames : List String := ["conversion_id", "source_image_id", "target_image_id", "style"]

def toData (request : ProcessRequest) : Data :=
  .ofFields [("conversion_id", request.conversion.toData),
    ("source_image_id", request.source.toData), ("target_image_id", request.target.toData),
    ("style", .ofOption .text request.style)]

def ofData? : Data → Option ProcessRequest :=
  Data.openRecord fieldNames do
    return ⟨← Data.required Id.ofData?, ← Data.required Id.ofData?, ← Data.required Id.ofData?,
      ← Data.optional Data.asText?⟩

end ProcessRequest

/-- A processor that first fails as it was told to and then always succeeds. -/
structure ScriptedProcessor where
  failures : List ProcessorError := []
  /-- How long each call waits before it ends. -/
  latency : Duration := 0
  calls : Nat := 0
  deriving DecidableEq, Repr

namespace ScriptedProcessor

def pause (processor : ScriptedProcessor) : Duration :=
  processor.latency.waited

def began (processor : ScriptedProcessor) : ScriptedProcessor :=
  { processor with calls := processor.calls + 1 }

def finish (processor : ScriptedProcessor) (result : ImageId) :
    Except ProcessorError ImageId × ScriptedProcessor :=
  match processor.failures with
  | failure :: rest => (.error failure, { processor with failures := rest })
  | [] => (.ok result, processor)

end ScriptedProcessor

end TryOn
