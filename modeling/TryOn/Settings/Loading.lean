import TryOn.Data.Toml.Document
import TryOn.Data.Toml.Printer
import TryOn.Settings.Encoding
import TryOn.Settings.Environment
import TryOn.Settings.Wrapping

/-! Loading settings: what a document says is laid over the defaults, and what the environment
says over both. -/

set_option autoImplicit false

namespace TryOn.Settings

/-- The settings that are seen when layers are laid over the defaults one by one, if they can be
understood and honoured. A list in the place of a table may be longer than the table's fields. -/
def ofLayers (layers : List Data) : Except Error Settings := do
  match decode? .ignored (layers.foldl Data.overlay standard.toData) with
  | none => throw .unreadable
  | some settings =>
    settings.check
    return settings

def load (document : Option String) (environment : Data) : Except Error Settings :=
  match document with
  | none => ofLayers [environment]
  | some text =>
    match (Data.Toml.ofText? text).bind Wrapping.unwrapLayer? with
    | some layer => ofLayers [layer, environment]
    | none => .error .unreadable

/-- The settings of a document, if there is one, with those of the program's variables over them. -/
def loadWith (document : Option String) (assignments : List (String × String)) :
    Except Error Settings :=
  load document (Environment.settings Environment.programLead assignments)

def standardDocument : Option String :=
  match standard.toData with
  | .table fields => Data.Toml.text? fields
  | _ => none

end TryOn.Settings
