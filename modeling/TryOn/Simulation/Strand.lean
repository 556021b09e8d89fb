import TryOn.Simulation.World

/-! Strands of a simulation. A strand runs until it has to wait, and goes on when what it waits for
has come. -/

set_option autoImplicit false

namespace TryOn.Simulation

/-- A step of a scenario; its answer is of type `ρ`. -/
inductive Step (ρ : Type) where
  /-- Change the world at once. -/
  | act (change : World → ρ × World)
  /-- Run a program, which is called off after so many milliseconds if at all. -/
  | run (cancelAfter : Option Nat) (program : Program ρ)
  /-- Run a step beside all others after so many milliseconds. -/
  | later (millis : Nat) (step : World → Step ρ) (answer : ρ)
  /-- Start the worker, if nobody else receives from the queue. -/
  | startWorker (settings : Settings.Worker) (answer : Bool → ρ)
  /-- Wait until the worker is done, having told it something first. -/
  | awaitWorker (tell : Worker → Worker) (answer : Option Data → ρ)

inductive Activity (ρ : Type) where
  /-- Waiting for a step to begin at an instant. -/
  | scheduled (moment : Instant) (step : World → Step ρ)
  | blocked (request : Request) (due : Option Instant) (resume : request.Answer → Program ρ)
  | awaitingWorker (start : Instant) (answer : Option Data → ρ)
  | finished (answer : ρ)

namespace Activity

variable {ρ : Type}

/-- Run a program until it has to wait. -/
def ofProgram (caller : Caller) : Program ρ → World → Activity ρ × World
  | .done result, world => (.finished result, world)
  | .ask request resume, world =>
    match world.begin caller request with
    | (.answered answer, world) => ofProgram caller (resume answer) world
    | (.due moment, world) =>
      match world.settle? caller moment request with
      | some (answer, world) => ofProgram caller (resume answer) world
      | none => (.blocked request moment resume, world)

def wakeTimes (caller : Caller) : Activity ρ → List Instant
  | .scheduled moment _ => [moment]
  | .blocked request due _ => World.wakeTimes caller due request
  | .awaitingWorker _ _ | .finished _ => []

end Activity

structure Strand (ρ : Type) where
  caller : Caller
  start : Instant
  activity : Activity ρ

/-- The answer to a step, and when it came. Nothing stands for a step that was given up. -/
structure Answer (ρ : Type) where
  reply : Option ρ
  moment : Instant

/-- Milliseconds after which a step is given up: a day. -/
def patience : Duration := Duration.ofMillis 86400000

/-- Begin a step. The third part of the result is a strand to be added to the others. -/
def Step.begin {ρ : Type} (world : World) :
    Step ρ → Caller × Activity ρ × World × Option (Strand ρ)
  | .act change =>
    let (answer, world) := change world
    (.patient, .finished answer, world, none)
  | .run cancelAfter program =>
    let caller := world.callerAfter cancelAfter
    let (activity, world) := Activity.ofProgram caller program world
    (caller, activity, world, none)
  | .later millis step answer =>
    let moment := world.afterWait (Duration.ofMillis millis)
    (.patient, .finished answer, world, some ⟨.patient, moment, .scheduled moment step⟩)
  | .startWorker settings answer =>
    if world.worker.isNone && world.queue.hasReceiver then
      let world := { world with
        worker := some (.ofLimit settings.maxConcurrent), workerStart := some world.now }
      (.patient, .finished (answer true), world, none)
    else (.patient, .finished (answer false), world, none)
  | .awaitWorker tell answer =>
    match world.workerStart with
    | some start =>
      let world := { world with worker := world.worker.map tell, workerStart := none }
      (.patient, .awaitingWorker start answer, world, none)
    | none => (.patient, .finished (answer none), world, none)

def Strand.advance? {ρ : Type} (strand : Strand ρ) (world : World) :
    Option (Strand ρ × World × Option (Strand ρ)) :=
  match strand.activity with
  | .scheduled moment step =>
    if moment ≤ world.now then
      let (caller, activity, world, added) := (step world).begin world
      some (⟨caller, moment, activity⟩, world, added)
    else none
  | .blocked request due resume =>
    match world.settle? strand.caller due request with
    | some (answer, world) =>
      let (activity, world) := Activity.ofProgram strand.caller (resume answer) world
      some ({ strand with activity := activity }, world, none)
    | none => none
  | .awaitingWorker start answer =>
    match world.worker with
    | some worker =>
      if worker.phase = .stopped then
        let stats := worker.stats.toData (world.now - start)
        some ({ strand with activity := .finished (answer (some stats)) }, world, none)
      else none
    | none => none
  | .finished _ => none

end TryOn.Simulation
