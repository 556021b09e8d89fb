import TryOn.Conversion.Patch
import TryOn.Image
import TryOn.Store.Call

/-! Faults that a simulated store or image service can be told to have, one call after another. -/

set_option autoImplicit false

namespace TryOn.Simulation

inductive StoreMethod where
  | create
  | get
  | update
  | list
  | delete
  | balance
  | grant
  | setPlan
  deriving DecidableEq, Repr

def StoreMethod.all : List StoreMethod :=
  [.create, .get, .update, .list, .delete, .balance, .grant, .setPlan]

def StoreMethod.name : StoreMethod → String
  | .create => "create"
  | .get => "get"
  | .update => "update"
  | .list => "list"
  | .delete => "delete"
  | .balance => "quota"
  | .grant => "grant"
  | .setPlan => "set_plan"

def StoreMethod.ofCall : Store.Call → StoreMethod
  | .create _ => .create
  | .get _ => .get
  | .update _ _ => .update
  | .list _ _ => .list
  | .delete _ _ => .delete
  | .balance _ => .balance
  | .grant _ _ => .grant
  | .setPlan _ _ _ => .setPlan

inductive StoreFault where
  /-- There is never an answer. -/
  | stall
  /-- The call waits so many milliseconds before it goes on. -/
  | delay (millis : Nat)
  | fail (failure : StoreError)
  /-- Somebody else takes a step with the conversion first, if it may be taken. -/
  | race (transition : Transition)
  /-- Somebody else deletes the conversion first. -/
  | vanish

/-- The faults still to come. Nothing at a place means that all goes well there. A look at an image
can do no worse than fail. -/
structure Faults where
  store : StoreMethod → List (Option StoreFault) := fun _ => []
  image : List (Option ImageError) := []

def takeFault {α : Type} (faults : List (Option α)) : Option α × List (Option α) :=
  (faults.headD none, faults.tail)

def Faults.takeStore (faults : Faults) (method : StoreMethod) : Option StoreFault × Faults :=
  let (fault, rest) := takeFault (faults.store method)
  (fault, { faults with store := fun other => if other = method then rest else faults.store other })

def Faults.takeImage (faults : Faults) : Option ImageError × Faults :=
  let (fault, rest) := takeFault faults.image
  (fault, { faults with image := rest })

end TryOn.Simulation
