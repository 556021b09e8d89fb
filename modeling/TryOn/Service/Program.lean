import TryOn.Audit
import TryOn.Image
import TryOn.Metrics
import TryOn.Notice
import TryOn.Processor
import TryOn.RateLimit
import TryOn.Retry.Execution
import TryOn.Store.Call
import TryOn.WorkQueue

/-! Programs of the service as data: either finished, or a request to the surroundings and what
to do with each answer. Nothing happens between two requests, so what several programs do
together is some interleaving of their requests. -/

set_option autoImplicit false

namespace TryOn

structure Stop where
  onCancel : Bool
  deadline : Option Instant
  deriving DecidableEq, Repr

def Stop.never : Stop := ⟨false, none⟩

/-- What a program asks of its surroundings. -/
inductive Request where
  | store (call : Store.Call)
  /-- Read a conversion, unless it is time to stop before the store has answered. -/
  | poll (id : ConversionId) (stop : Stop)
  | image (id : ImageId)
  | checkRate (user : UserId)
  | recordRate (user : UserId)
  | wallClock
  /-- The instant, on a clock for measuring spans. -/
  | now
  /-- Whether the caller has called the program off. -/
  | isCancelled
  /-- Let a span of time pass, unless it is time to stop. -/
  | wait (span : Duration) (stop : Stop)
  /-- A number by chance, at most the given one. -/
  | draw (bound : Nat)
  | enqueue (id : ConversionId)
  | process (request : ProcessRequest)
  | deliver (notice : Notice)
  /-- Leave a notice where notices are collected. -/
  | post (notice : Notice)
  | audit (entry : AuditEntry)
  | count (event : MetricEvent)

/-- What each request is answered with. A wait is answered by whether it was waited out. -/
@[reducible] def Request.Answer : Request → Type
  | .store call => Except StoreError call.Answer
  | .poll _ _ => Option (Except StoreError Conversion)
  | .image _ => Except ImageError Image
  | .checkRate _ => Except RateLimited Unit
  | .wallClock => Timestamp
  | .now => Instant
  | .isCancelled => Bool
  | .wait _ _ => Bool
  | .draw _ => Nat
  | .enqueue _ => Except QueueError Unit
  | .process _ => Except ProcessorError ImageId
  | .deliver _ => Except ChannelError Unit
  | .recordRate _ | .post _ | .audit _ | .count _ => Unit

inductive Program (α : Type) : Type where
  | done (result : α)
  | ask (request : Request) (resume : request.Answer → Program α)

namespace Program

variable {α β : Type}

def bind (program : Program α) (next : α → Program β) : Program β :=
  match program with
  | .done result => next result
  | .ask request resume => .ask request fun answer => (resume answer).bind next

instance : Monad Program where
  pure := .done
  bind := bind

def request (request : Request) : Program request.Answer :=
  .ask request .done

@[simp] theorem pure_eq_done (result : α) : (pure result : Program α) = .done result := rfl

@[simp] theorem done_bind (result : α) (next : α → Program β) :
    (Program.done result >>= next) = next result := rfl

@[simp] theorem ask_bind (request : Request) (resume : request.Answer → Program α)
    (next : α → Program β) :
    (Program.ask request resume >>= next) = .ask request fun answer => resume answer >>= next := rfl

theorem bind_done (program : Program α) : program.bind .done = program := by
  induction program with
  | done result => rfl
  | ask request resume ih => simp [bind, ih]

theorem bind_assoc {γ : Type} (program : Program α) (next : α → Program β)
    (last : β → Program γ) :
    (program.bind next).bind last = program.bind fun result => (next result).bind last := by
  induction program with
  | done result => rfl
  | ask request resume ih => simp [bind, ih]

instance : LawfulMonad Program :=
  .mk' Program (fun program => bind_done program) (fun _ _ => rfl)
    (fun program next last => bind_assoc program next last)

end Program

def Retry.Means.ofProgram (heedsCancel : Bool) : Retry.Means Program where
  isCancelled := if heedsCancel then Program.request .isCancelled else pure false
  pause millis := Program.request (.wait (Duration.ofMillis millis) ⟨heedsCancel, none⟩)
  draw bound := if bound = 0 then pure 0 else Program.request (.draw bound)

end TryOn
