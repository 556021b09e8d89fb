import TryOn.Simulation.Strand

/-! Running a scenario: its steps one after another, and beside them the steps put off, the worker
and what the worker has taken. Whatever can go on does: the steps first, then what has waited
longest, and the worker last. Only when nothing can does the clock move, to the next instant at
which something may. -/

set_option autoImplicit false

namespace TryOn

namespace Simulation

abbrev WorkResult := Except Failure Service.WorkOutcome

inductive Companion (ρ : Type) where
  | aside (strand : Strand ρ)
  | job (strand : Strand WorkResult)

end Simulation

open Simulation

structure Simulation (ρ : Type) where
  world : World
  pending : List (World → Step ρ)
  main : Option (Strand ρ) := none
  /-- What runs beside it; what has waited longest comes first. -/
  companions : List (Companion ρ) := []
  answers : List (Answer ρ) := []
  asideAnswers : List (Answer ρ) := []

namespace Simulation

variable {ρ : Type}

def answer (sim : Simulation ρ) (reply : Option ρ) : Simulation ρ :=
  { sim with answers := sim.answers ++ [⟨reply, sim.world.now⟩] }

def addAside (sim : Simulation ρ) (strand : Strand ρ) : Simulation ρ :=
  match strand.activity with
  | .finished reply =>
    { sim with asideAnswers := sim.asideAnswers ++ [⟨some reply, sim.world.now⟩] }
  | _ => { sim with companions := sim.companions ++ [.aside strand] }

def addJob (sim : Simulation ρ) (strand : Strand WorkResult) : Simulation ρ :=
  match strand.activity with
  | .finished outcome =>
    let worker := sim.world.worker.map fun worker => (worker.finish outcome).release
    { sim with world := { sim.world with worker := worker } }
  | _ => { sim with companions := sim.companions ++ [.job strand] }

def moveWorker? (sim : Simulation ρ) : Option (Simulation ρ) := do
  let worker ← sim.world.worker
  match ← worker.move? sim.world.queue with
  | .proceed worker queue =>
    return { sim with world := { sim.world with worker := some worker, queue := queue } }
  | .take id worker queue =>
    let world := { sim.world with worker := some worker, queue := queue }
    let (activity, world) := Activity.ofProgram .worker (world.service.executeOne id).run world
    return addJob { sim with world := world } ⟨.worker, world.now, activity⟩

def isOverdue (world : World) (strand : Strand ρ) : Bool :=
  strand.start + patience ≤ world.now

def advanceOne? (sim : Simulation ρ) : Companion ρ → Option (Simulation ρ)
  | .aside strand =>
    match strand.advance? sim.world with
    | some (strand, world, added) =>
      some (added.toList.foldl addAside (addAside { sim with world := world } strand))
    | none =>
      if isOverdue sim.world strand then
        some { sim with asideAnswers := sim.asideAnswers ++ [⟨none, sim.world.now⟩] }
      else none
  | .job strand =>
    (strand.advance? sim.world).map fun (strand, world, _) =>
      addJob { sim with world := world } strand

/-- Let the first companion go on that can, of those behind the ones passed over. -/
def advanceBehind? (sim : Simulation ρ) (passed : List (Companion ρ)) :
    List (Companion ρ) → Option (Simulation ρ)
  | [] => none
  | companion :: rest =>
    advanceOne? { sim with companions := passed ++ rest } companion
      <|> advanceBehind? sim (passed ++ [companion]) rest

/-- Begin steps, one after the other, until one has to wait. -/
def beginSteps (sim : Simulation ρ) : List (World → Step ρ) → Simulation ρ
  | [] => { sim with pending := [], main := none }
  | step :: rest =>
    let start := sim.world.now
    let (caller, activity, world, added) := (step sim.world).begin sim.world
    let sim := added.toList.foldl addAside { sim with world := world }
    match activity with
    | .finished reply => beginSteps (sim.answer (some reply)) rest
    | activity => { sim with pending := rest, main := some ⟨caller, start, activity⟩ }

/-- Go on with the step under way, or give it up, and then begin those that follow. -/
def advanceMain? (sim : Simulation ρ) : Option (Simulation ρ) := do
  let strand ← sim.main
  match strand.advance? sim.world with
  | some (strand, world, added) =>
    let sim := added.toList.foldl addAside { sim with world := world }
    match strand.activity with
    | .finished reply => return (sim.answer (some reply)).beginSteps sim.pending
    | _ => return { sim with main := some strand }
  | none =>
    if isOverdue sim.world strand then return (sim.answer none).beginSteps sim.pending
    else none

def advance? (sim : Simulation ρ) : Option (Simulation ρ) :=
  sim.advanceMain? <|> sim.advanceBehind? [] sim.companions <|> sim.moveWorker?

def wakeTimes (sim : Simulation ρ) : List Instant :=
  let ofStrand (strand : Strand ρ) : List Instant :=
    (strand.start + patience) :: strand.activity.wakeTimes strand.caller
  sim.main.toList.flatMap ofStrand ++ sim.companions.flatMap fun
    | .aside strand => ofStrand strand
    | .job strand => strand.activity.wakeTimes strand.caller

def sleep? (sim : Simulation ρ) : Option (Simulation ρ) :=
  (sim.wakeTimes.filter (sim.world.now < ·)).min?.map fun moment =>
    { sim with world := { sim.world with now := moment } }

def runFor : Nat → Simulation ρ → Simulation ρ
  | 0, sim => sim
  | moves + 1, sim =>
    if sim.main.isNone then sim
    else match sim.advance? <|> sim.sleep? with
      | some sim => runFor moves sim
      | none => sim

/-- More moves than any scenario of a few days makes. -/
def maxMoves : Nat := 1000000000000

def run (world : World) (steps : List (World → Step ρ)) : Simulation ρ :=
  let sim : Simulation ρ := { world, pending := steps }
  runFor maxMoves (sim.beginSteps steps)

end Simulation

end TryOn
