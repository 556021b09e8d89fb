import TryOn.Service.Operations
import TryOn.Service.Worker
import TryOn.Simulation.Fault

/-! A world for the programs of a service: everything they can ask for, kept in memory, on a clock
that moves only when it is told to. -/

set_option autoImplicit false

namespace TryOn.Simulation

inductive Origin where
  | conversion
  | image
  | result
  deriving DecidableEq, Repr

namespace Origin

def all : List Origin := [.conversion, .image, .result]

def upperHalf : Origin → Nat
  | .conversion => 0x01980c0517ac7c01
  | .image => 0x01980c0517ac7c02
  | .result => 0x01980c0517ac7c03

def firstLowerHalf : Nat := 0x8000000000000000

/-- The identifier made up when `count` have been made up before; later ones are greater. -/
def identifier (origin : Origin) (count : Nat) : Uuid :=
  .ofNat (origin.upperHalf * Nat.pow 2 64 + firstLowerHalf + count)

def ofIdentifier? (id : Uuid) : Option (Origin × Nat) := do
  let origin ← all.find? (·.upperHalf == id.value.val / Nat.pow 2 64)
  let lower := id.value.val % Nat.pow 2 64
  if firstLowerHalf ≤ lower then some (origin, lower - firstLowerHalf) else none

end Origin

inductive Sink where
  | memory
  | log
  deriving DecidableEq, Repr

structure World where
  service : Service
  now : Instant := 0
  looks : Nat := 0
  /-- The dates of all conversions made up so far, whether they are still there or not. -/
  creationDates : List Timestamp := []
  imagesMade : Nat := 0
  resultsMade : Nat := 0
  store : Store
  catalogue : Catalogue := {}
  limiter : RateLimiter
  queue : WorkQueue
  processor : ScriptedProcessor := {}
  channel : ScriptedChannel := {}
  noticeSink : Sink := .memory
  auditSink : Sink := .memory
  notices : List Notice := []
  audit : List AuditEntry := []
  logs : List LogLine := []
  metrics : Metrics := {}
  faults : Faults := {}
  worker : Option Worker := none
  workerStart : Option Instant := none

inductive Caller where
  /-- Nobody. -/
  | patient
  /-- Somebody who does so at an instant. -/
  | until (moment : Instant)
  /-- The worker, when it is told to abandon its work. -/
  | worker
  deriving DecidableEq, Repr

namespace World

def ofSettings (settings : Settings) (sendsNotices : Bool) : World where
  service := ⟨settings.retry, settings.watch, sendsNotices⟩
  store := .opened settings.quota
  limiter := ⟨settings.rateLimit.maxRequests, settings.rateLimit.window, .empty⟩
  queue := .bounded settings.worker.queueCapacity

def conversionsMade (world : World) : Nat :=
  world.creationDates.length

def firstLook : Int := 1768435200

def dateAt (look : Nat) : Timestamp :=
  ⟨firstLook + (look / 1000000 : Nat), look % 1000000 * 1000⟩

def lookAtDate (world : World) : Timestamp × World :=
  (dateAt world.looks, { world with looks := world.looks + 1 })

def isCancelled (world : World) : Caller → Bool
  | .patient => false
  | .until moment => moment ≤ world.now
  | .worker => world.worker.any (·.abandoned)

def stops (world : World) (caller : Caller) (stop : Stop) : Bool :=
  (stop.onCancel && world.isCancelled caller) || stop.deadline.any (· ≤ world.now)

def performStore (world : World) (call : Store.Call) :
    Except StoreError call.Answer × World :=
  let (date, world) := world.lookAtDate
  let (answer, store) :=
    world.store.perform date ⟨Origin.conversion.identifier world.conversionsMade⟩ call
  let made := store.conversions.size - world.store.conversions.size
  let dates := world.creationDates ++ List.replicate made date
  (answer, { world with store := store, creationDates := dates })

/-- Take a step with a conversion behind the back of all programs, if it may be taken. -/
def takeStep (world : World) (transition : Transition) (id : ConversionId) : World :=
  let (date, world) := world.lookAtDate
  match world.store.conversions.get? id with
  | some conversion =>
    match conversion.plan transition date with
    | .ok patch => { world with store := (world.store.update id patch).2 }
    | .error _ => world
  | none => world

def vanish (world : World) (id : ConversionId) : World :=
  { world with store :=
      { world.store with conversions := world.store.conversions.erase id } }

/-- What becomes of a request when it is made: an answer, or an answer at an instant if ever. -/
inductive Progress (α : Type) where
  | answered (answer : α)
  | due (moment : Option Instant)

def afterWait (world : World) (span : Duration) : Instant :=
  world.now + span.waited

def callerAfter (world : World) (cancelAfter : Option Nat) : Caller :=
  cancelAfter.elim .patient fun millis => .until (world.afterWait (Duration.ofMillis millis))

def beginStore (world : World) (call : Store.Call) :
    Progress (Except StoreError call.Answer) × World :=
  let (fault, faults) := world.faults.takeStore (.ofCall call)
  let world := { world with faults := faults }
  let perform (world : World) : Progress (Except StoreError call.Answer) × World :=
    let (answer, world) := world.performStore call
    (.answered answer, world)
  match fault with
  | none => perform world
  | some .stall => (.due none, world)
  | some (.delay millis) => (.due (some (world.afterWait (Duration.ofMillis millis))), world)
  | some (.fail failure) => (.answered (.error failure), world)
  | some (.race transition) =>
    perform (call.subject?.elim world (world.takeStep transition))
  | some .vanish => perform (call.subject?.elim world world.vanish)

def lookUpImage (world : World) (id : ImageId) : Except ImageError Image × World :=
  let (fault, faults) := world.faults.takeImage
  (fault.elim (world.catalogue.get id) .error, { world with faults := faults })

def finishProcess (world : World) : Except ProcessorError ImageId × World :=
  let (answer, processor) :=
    world.processor.finish ⟨Origin.result.identifier world.resultsMade⟩
  (answer, { world with processor := processor, resultsMade := world.resultsMade + 1 })

def post (world : World) (notice : Notice) : World :=
  match world.noticeSink with
  | .memory => { world with notices := world.notices ++ [notice] }
  | .log => { world with logs := world.logs ++ [notice.logLine] }

def record (world : World) (entry : AuditEntry) : World :=
  match world.auditSink with
  | .memory => { world with audit := world.audit ++ [entry] }
  | .log => { world with logs := world.logs ++ [entry.logLine] }

def begin (world : World) (caller : Caller) :
    (request : Request) → Progress request.Answer × World
  | .store call => world.beginStore call
  | .poll id _ =>
    match world.beginStore (.get id) with
    | (.answered answer, world) => (.answered (some answer), world)
    | (.due moment, world) => (.due moment, world)
  | .image id =>
    let (answer, world) := world.lookUpImage id
    (.answered answer, world)
  | .checkRate user =>
    let (answer, limiter) := world.limiter.check user world.now
    (.answered answer, { world with limiter := limiter })
  | .recordRate user =>
    (.answered (), { world with limiter := world.limiter.record user world.now })
  | .wallClock =>
    let (date, world) := world.lookAtDate
    (.answered date, world)
  | .now => (.answered world.now, world)
  | .isCancelled => (.answered (world.isCancelled caller), world)
  | .wait span _ => (.due (some (world.afterWait span)), world)
  | .draw _ => (.answered (0 : Nat), world)
  | .enqueue id =>
    let (answer, queue) := world.queue.enqueue id
    (.answered answer, { world with queue := queue })
  | .process _ =>
    (.due (some (world.now + world.processor.pause)),
      { world with processor := world.processor.began })
  | .deliver notice =>
    let (answer, channel) := world.channel.send notice
    (.answered answer, { world with channel := channel })
  | .post notice => (.answered (), world.post notice)
  | .audit entry => (.answered (), world.record entry)
  | .count event => (.answered (), { world with metrics := world.metrics.count event })

def stopOf : Request → Stop
  | .poll _ stop | .wait _ stop => stop
  | _ => .never

/-- Answer a request that has become due, or that it is time to give up, if either has happened.
A read that has become due is answered even if it is time to give up; a wait is not. -/
def settle? (world : World) (caller : Caller) (due : Option Instant) :
    (request : Request) → Option (request.Answer × World)
  | .store call =>
    if due.any (· ≤ world.now) then some (world.performStore call) else none
  | .poll id stop =>
    if due.any (· ≤ world.now) then
      let (answer, world) := world.performStore (.get id)
      some (some answer, world)
    else if world.stops caller stop then some (none, world)
    else none
  | .wait _ stop =>
    if world.stops caller stop then some (false, world)
    else if due.any (· ≤ world.now) then some (true, world)
    else none
  | .process _ => if due.any (· ≤ world.now) then some world.finishProcess else none
  | _ => none

def wakeTimes (caller : Caller) (due : Option Instant) (request : Request) : List Instant :=
  let stop := stopOf request
  let cancelled := match caller with
    | .until moment => if stop.onCancel then [moment] else []
    | .patient | .worker => []
  due.toList ++ stop.deadline.toList ++ cancelled

end World

end TryOn.Simulation
