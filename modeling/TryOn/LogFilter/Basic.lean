import TryOn.LogFilter.Directive

/-! What of the log is shown: a level for everything, or for a target, or several of these. -/

set_option autoImplicit false

namespace TryOn

/-- A filter. The most specific directives come first, and no two are for the same thing. Those
about spans stand apart; one that names only fields of theirs is among both. -/
structure LogFilter where
  statics : List LogFilter.Directive
  dynamics : List LogFilter.Directive
  deriving DecidableEq, Repr

namespace LogFilter

def insert (directive : Directive) : List Directive → List Directive
  | [] => [directive]
  | other :: rest =>
    match directive.order other with
    | .eq => directive :: rest
    | .gt => directive :: other :: rest
    | .lt => other :: insert directive rest

def ofDirectives (directives : List Directive) : LogFilter :=
  let placed (chosen : List Directive) :=
    chosen.foldl (fun placed directive => insert directive placed) []
  ⟨placed (directives.filter (·.isStatic)), placed (directives.filter (·.isDynamic))⟩

def standard : LogFilter := .ofDirectives [{ target := none, level := .info }]

def ofText? (text : String) : Option LogFilter := do
  let parts := (Text.splitAll ',' text.toList).filter fun part => !part.isEmpty
  return .ofDirectives (← parts.mapM Directive.ofChars?)

def text (filter : LogFilter) : String :=
  ",".intercalate ((filter.statics ++ filter.dynamics).map Directive.text)

def choose (asked : Option String) (level : String) : LogFilter :=
  ((asked.bind ofText?) <|> ofText? level).getD standard

example : (ofText? "info,my.app=debug").map text = some "my.app=debug,info" := by decide +kernel

example : (ofText? "warn ").map text = some "warn =trace" := by decide +kernel

example : (ofText? "a[b").map text = none := by decide +kernel

end LogFilter

end TryOn
