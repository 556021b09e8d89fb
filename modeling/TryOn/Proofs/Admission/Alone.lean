import TryOn.Proofs.Admission.Engine
import TryOn.Proofs.Interleaving.Conduct
import TryOn.Proofs.Interleaving.Play

/-! Programs that run by themselves in an engine, from their first request to their result. What
they make of the engine is a run of it. -/

set_option autoImplicit false

namespace TryOn

namespace Engine

variable {α : Type}

/-- Who runs a program: whether it is the call that is looked at, when it runs, and the identifier
that a conversion made by it gets. -/
structure Turn where
  own : Bool
  moment : Timestamp
  instant : Instant
  fresh : ConversionId

def react (engine : Engine) (respond : (request : Request) → request.Answer) (turn : Turn) :
    (request : Request) → request.Answer × Engine
  | .checkRate user =>
    let (answer, limiter) := engine.limiter.check user turn.instant
    (answer, { engine with limiter := limiter })
  | .recordRate user =>
    ((), { engine with limiter := engine.limiter.record user turn.instant })
  | request =>
    let (answer, store) := engine.store.react respond turn.moment turn.fresh request
    (answer, { engine with store := store })

theorem reacts_react (engine : Engine) (respond : (request : Request) → request.Answer)
    (turn : Turn) (request : Request) :
    engine.Reacts
      ⟨turn.moment, turn.instant, .exchange turn.own request (engine.react respond turn request).1⟩
      (engine.react respond turn request).2 := by
  have stored := engine.store.reacts_react respond turn.moment turn.fresh request
  cases request with
  | checkRate _ | recordRate _ => exact ⟨rfl, rfl⟩
  | _ => exact ⟨stored, rfl⟩

structure Played (α : Type) where
  occurrences : List Occurrence
  engine : Engine
  result : α

def play (respond : (request : Request) → request.Answer) (turn : Turn) :
    Program α → Engine → Played α
  | .done result, engine => ⟨[], engine, result⟩
  | .ask request resume, engine =>
    let (answer, next) := engine.react respond turn request
    let played := play respond turn (resume answer) next
    { played with occurrences :=
        ⟨turn.moment, turn.instant, .exchange turn.own request answer⟩ :: played.occurrences }

variable {respond : (request : Request) → request.Answer} {turn : Turn}

theorem run_play (program : Program α) (engine : Engine) :
    engine.Run (play respond turn program engine).occurrences
      (play respond turn program engine).engine := by
  induction program generalizing engine with
  | done result => exact .here engine
  | ask request resume ih => exact .step (engine.reacts_react respond turn request) (ih _ _)

theorem yields_play (mine : turn.own = true) (program : Program α) (engine : Engine) :
    program.Yields (Occurrence.own (play respond turn program engine).occurrences)
      (play respond turn program engine).result := by
  induction program generalizing engine with
  | done result => exact .done result
  | ask request resume ih =>
    unfold play
    rw [mine]
    exact .ask turn.moment (ih _ _)

theorem own_play (others : turn.own = false) (program : Program α) (engine : Engine) :
    Occurrence.own (play respond turn program engine).occurrences = [] := by
  induction program generalizing engine with
  | done result => rfl
  | ask request resume ih =>
    unfold play
    rw [others]
    exact ih _ _

end Engine

end TryOn
