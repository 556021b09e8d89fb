import TryOn.Simulation.World

/-! Running a program by itself: nothing happens beside it, so the clock moves on whenever it
waits. -/

set_option autoImplicit false

namespace TryOn.Simulation.World

variable {α : Type}

/-- Run a program to its end. The result is nothing if it waits for ever. -/
def runAlone (caller : Caller) : Program α → World → Option α × World
  | .done result, world => (some result, world)
  | .ask request resume, world =>
    match world.begin caller request with
    | (.answered answer, world) => runAlone caller (resume answer) world
    | (.due moment, world) =>
      match world.settle? caller moment request with
      | some (answer, world) => runAlone caller (resume answer) world
      | none =>
        let world := { world with now := (wakeTimes caller moment request).min?.getD world.now }
        match world.settle? caller moment request with
        | some (answer, world) => runAlone caller (resume answer) world
        | none => (none, world)

def dispatchTo (policies : Retry.Policies) (queue : WorkQueue) (ids : List ConversionId)
    (world : World) : WorkQueue × Duration :=
  let apart := { world with queue := queue, now := 0 }
  let handing := ids.forM fun id => Service.dispatch policies (Program.request (.enqueue id))
  let (_, apart) := runAlone .patient handing apart
  (apart.queue, apart.now)

end TryOn.Simulation.World
