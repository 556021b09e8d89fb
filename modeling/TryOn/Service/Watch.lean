import TryOn.Service.Basic

/-! Watching a conversion until it is done or time is up. Once the conversion was seen and is the
caller's, there is an answer: at worst the last thing that was seen. -/

set_option autoImplicit false

namespace TryOn

structure WatchOptions where
  timeout : Duration
  pollInterval : Duration
  deriving DecidableEq, Repr

namespace WatchOptions

def minPollInterval : Duration := Duration.ofMillis 1

/-- What a caller asks for, in milliseconds, brought within the bounds of the settings. Where the
least pause is above the greatest it holds. -/
def clamped (timeout poll : Option Nat) (settings : Settings.Watch) : WatchOptions where
  timeout := Duration.ofMillis (min (timeout.getD settings.defaultTimeout) settings.maxTimeout)
  pollInterval := max
    (Duration.ofMillis
      (max (min (poll.getD settings.defaultPoll) settings.maxPoll) settings.minPoll))
    minPollInterval

def spanData (span : Duration) : Data :=
  .ofFields [("secs", .ofNat span.seconds), ("nanos", .ofNat (span % Duration.nanosPerSecond))]

def spanOfData? (data : Data) : Option Duration := do
  let (seconds, nanos) ← Data.closedRecord .refused ["secs", "nanos"]
    (do return (← Data.required (Data.asNat? 64), ← Data.required (Data.asNat? 32))) data
  let span := seconds * Duration.nanosPerSecond + nanos
  if span < Nat.pow 2 64 * Duration.nanosPerSecond then some span else none

def toData (options : WatchOptions) : Data :=
  .ofFields [("timeout", spanData options.timeout),
    ("poll_interval", spanData options.pollInterval)]

def ofData? : Data → Option WatchOptions :=
  Data.openRecord ["timeout", "poll_interval"] do
    return ⟨← Data.required spanOfData?, ← Data.required spanOfData?⟩

end WatchOptions

namespace Service

/-- How much later than planned a look may be without putting off those that follow. -/
def tickTolerance : Duration := Duration.ofMillis 5

def nextTick (planned now : Instant) (period : Duration) : Instant :=
  if planned + tickTolerance < now then now + period else planned + period

/-- A last look within the time of grace, or else what was seen before. -/
def lastLook (grace : Duration) (id : ConversionId) (seen : Conversion) : Action Conversion := do
  let now ← Action.now
  match ← Action.poll id ⟨false, some (now + grace)⟩ with
  | some (.ok conversion) => return conversion
  | _ => return seen

structure Watching where
  id : ConversionId
  grace : Duration
  period : Duration
  deadline : Instant

def Watching.stop (watching : Watching) : Stop := ⟨true, some watching.deadline⟩

def Watching.lookFrom (watching : Watching) : Nat → Instant → Conversion → Action Conversion
  | 0, _, seen => lastLook watching.grace watching.id seen
  | looks + 1, planned, seen => do
    let next (seen : Conversion) : Action Conversion := do
      let now ← Action.now
      if ← Action.wait (planned - now) watching.stop then
        let now ← Action.now
        lookFrom watching looks (nextTick planned now watching.period) seen
      else lastLook watching.grace watching.id seen
    match ← Action.poll watching.id watching.stop with
    | none => lastLook watching.grace watching.id seen
    | some (.ok conversion) => if conversion.isTerminal then return conversion else next conversion
    | some (.error (.notFound _)) => throw (.notFound watching.id)
    | some (.error _) => next seen

/-- Watch a conversion of the user. Looks are a period apart at least, so as many as fit into the
time there is are enough. -/
def watchFor (grace : Duration) (id : ConversionId) (user : UserId) (options : WatchOptions) :
    Action Conversion := do
  let started ← Action.now
  let period := max options.pollInterval WatchOptions.minPollInterval
  let watching : Watching := ⟨id, grace, period, started + options.timeout⟩
  match ← Action.poll id watching.stop with
  | none => throw .cancelled
  | some (.error failure) => throw (.ofStore failure)
  | some (.ok conversion) =>
    if !conversion.isOwnedBy user then throw (.notFound id)
    if conversion.isTerminal then return conversion
    watching.lookFrom (options.timeout / period + 2) (started + period) conversion

def watch (service : Service) (id : ConversionId) (user : UserId) (timeout poll : Option Nat) :
    Action Conversion :=
  watchFor (Duration.ofMillis service.watchSettings.grace) id user
    (.clamped timeout poll service.watchSettings)

end Service

end TryOn
