import TryOn.Duration
import TryOn.Retry.Policies
import TryOn.Store.Basic

/-! What a service can be told before it starts, with the values that hold unless it is told
otherwise. Spans of time are in milliseconds. -/

set_option autoImplicit false

namespace TryOn

namespace Settings

structure Logging where
  level : String := "info"
  json : Bool := true
  deriving DecidableEq, Repr

structure RateLimit where
  maxRequests : Nat := 10
  windowMillis : Nat := 60000
  deriving DecidableEq, Repr

/-- Bounds and defaults for watching a conversion; `grace` is for one last look. -/
structure Watch where
  maxTimeout : Nat := 1800000
  minPoll : Nat := 10
  maxPoll : Nat := 10000
  defaultTimeout : Nat := 30000
  defaultPoll : Nat := 500
  grace : Nat := 2000
  deriving DecidableEq, Repr

/-- The worker: its name in the log, how much it does at once, and how much may wait for it. -/
structure Worker where
  name : String := "conversion-worker"
  maxConcurrent : Nat := 4
  queueCapacity : Nat := 256
  deriving DecidableEq, Repr

def standardTerms : Quota.Terms := ⟨"free", 3⟩

inductive Error where
  /-- What was written cannot be understood. -/
  | unreadable
  /-- It can, but the service cannot honour it. -/
  | invalid (reason : String)
  deriving DecidableEq, Repr

def Error.message : Error → String
  | .unreadable => "failed to load configuration"
  | .invalid reason => "invalid configuration: " ++ reason

namespace RateLimit

def window (settings : RateLimit) : Duration :=
  Duration.ofMillis settings.windowMillis

def check (settings : RateLimit) : Except String Unit :=
  if settings.windowMillis = 0 then .error "rate_limit.window_ms must be > 0" else .ok ()

end RateLimit

def Watch.check (settings : Watch) : Except String Unit :=
  if settings.minPoll = 0 ∨ settings.maxPoll < settings.minPoll then
    .error "watch.min_poll_ms must be > 0 and <= watch.max_poll_ms"
  else if settings.maxTimeout < settings.defaultTimeout then
    .error "watch.default_timeout_ms must be <= watch.max_timeout_ms"
  else .ok ()

def Worker.check (settings : Worker) : Except String Unit :=
  if settings.maxConcurrent = 0 ∨ settings.queueCapacity = 0 then
    .error "worker.max_concurrent and worker.queue_capacity must be > 0"
  else .ok ()

end Settings

structure Settings where
  logging : Settings.Logging := {}
  rateLimit : Settings.RateLimit := {}
  quota : Quota.Terms := Settings.standardTerms
  watch : Settings.Watch := {}
  worker : Settings.Worker := {}
  retry : Retry.Policies := .standard

namespace Settings

def standard : Settings := {}

def check (settings : Settings) : Except Error Unit :=
  (do
    settings.rateLimit.check
    settings.watch.check
    settings.worker.check
    settings.retry.check : Except String Unit).mapError .invalid

end Settings

end TryOn
