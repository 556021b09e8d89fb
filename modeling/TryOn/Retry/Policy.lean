import TryOn.Data.Decode
import TryOn.Retry.Backoff
import TryOn.Retry.Classification
import TryOn.Text.LowerCase
import TryOn.Text.Search

/-! Retry policies: how often to try, how long to wait in between, and which failures to give up
on at once. -/

set_option autoImplicit false

namespace TryOn.Retry

/-- How one class of operations is retried, with waiting times computed in the numbers `ν`.
`maxAttempts` counts the first attempt too. -/
structure Policy (ν : Type := Float) where
  maxAttempts : Nat
  baseDelay : Nat
  maxDelay : Nat
  multiplier : ν
  growth : Growth
  /-- Whether a waiting time is prolonged at random by up to a tenth of it. -/
  jitter : Bool
  retryablePatterns : List String
  terminalPatterns : List String
  /-- Whether to try again after a failure that matches no pattern. -/
  retryUnmatched : Bool

namespace Policy

def standardMultiplier : Float := 2.0

def standard : Policy where
  maxAttempts := 3
  baseDelay := 200
  maxDelay := 5000
  multiplier := standardMultiplier
  growth := .exponential
  jitter := true
  retryablePatterns :=
    ["timeout", "timed out", "temporarily", "connection", "unavailable", "429", "503"]
  terminalPatterns := ["invalid", "not found", "unauthorized", "forbidden", "unsupported"]
  retryUnmatched := true

def once : Policy :=
  { standard with maxAttempts := 1 }

def fixed (maxAttempts delay : Nat) : Policy :=
  { standard with
    maxAttempts := maxAttempts, baseDelay := delay, maxDelay := delay, growth := .fixed,
    jitter := false }

def exponential (maxAttempts baseDelay maxDelay : Nat) : Policy :=
  { standard with
    maxAttempts := maxAttempts, baseDelay := baseDelay, maxDelay := maxDelay,
    growth := .exponential }

section

variable {ν : Type} [arithmetic : Arithmetic ν]

def check (policy : Policy ν) : Except String Unit :=
  if policy.maxAttempts = 0 then .error "max_attempts must be at least 1"
  else if policy.maxDelay < policy.baseDelay then
    .error "max_delay_ms must not be smaller than base_delay_ms"
  else if arithmetic.isFactor policy.multiplier then .ok ()
  else .error "multiplier must be a finite number >= 1.0"

/-- The pause after an attempt, counted from zero, in milliseconds and before jitter. -/
def delay (policy : Policy ν) (attempt : Nat) : Nat :=
  arithmetic.delay policy.growth policy.multiplier policy.baseDelay policy.maxDelay attempt

def spread (policy : Policy ν) (attempt : Nat) : Nat :=
  if policy.jitter then arithmetic.spread (policy.delay attempt) else 0

def backoff (policy : Policy ν) (attempt draw : Nat) : Nat :=
  let delay := policy.delay attempt
  if !policy.jitter || delay = 0 then delay else min (delay + draw) policy.maxDelay

end

section

variable {ν : Type}

def allowsMore (policy : Policy ν) (attempts : Nat) : Bool :=
  attempts < policy.maxAttempts

/-- Whether a lower-cased message contains a pattern, whatever the case of its letters. Empty
patterns match nothing. -/
def matchesAny (patterns : List String) (lowered : String) : Bool :=
  patterns.any fun pattern => !pattern.isEmpty && Text.contains lowered (Text.lowerCase pattern)

/-- Judge a failure by its text; a terminal pattern wins over a retryable one. -/
def judgeText (policy : Policy ν) (message : String) : Verdict :=
  let lowered := Text.lowerCase message
  if matchesAny policy.terminalPatterns lowered then .terminal
  else if policy.retryUnmatched || matchesAny policy.retryablePatterns lowered then .retryable
  else .terminal

def judge {ε : Type} [Failing ε] (policy : Policy ν) (failure : ε) : Verdict :=
  (Failing.verdict? failure).getD (policy.judgeText (Failing.message failure))

end

end Policy

namespace Growth

def name : Growth → String
  | .fixed => "fixed"
  | .exponential => "exponential"
  | .linear => "linear"

def toData (growth : Growth) : Data :=
  .text growth.name

def ofData? : Data → Option Growth :=
  Data.asVariant? ([.fixed, .exponential, .linear].map fun growth => (growth.name, growth))

end Growth

namespace Policy

open Data (required orDefault asNat? asText? asBool? asList? asFloat?)

def fieldNames : List String :=
  ["max_attempts", "base_delay_ms", "max_delay_ms", "multiplier", "strategy", "jitter",
    "retryable_patterns", "non_retryable_patterns", "retry_unmatched"]

def toData (policy : Policy) : Data :=
  .ofFields [("max_attempts", .ofNat policy.maxAttempts),
    ("base_delay_ms", .ofNat policy.baseDelay), ("max_delay_ms", .ofNat policy.maxDelay),
    ("multiplier", .float policy.multiplier), ("strategy", policy.growth.toData),
    ("jitter", .bool policy.jitter),
    ("retryable_patterns", .list (policy.retryablePatterns.map .text)),
    ("non_retryable_patterns", .list (policy.terminalPatterns.map .text)),
    ("retry_unmatched", .bool policy.retryUnmatched)]

/-- Read a policy. Without patterns it has none, not the standard ones. -/
def decode? (excess : Data.Excess) : Data → Option Policy :=
  Data.closedRecord excess fieldNames do
    return ⟨← required (asNat? 32), ← required (asNat? 64), ← required (asNat? 64),
      ← orDefault standardMultiplier asFloat?, ← orDefault .exponential Growth.ofData?,
      ← orDefault true asBool?, ← orDefault [] (asList? asText?),
      ← orDefault [] (asList? asText?), ← orDefault true asBool?⟩

def ofData? : Data → Option Policy := decode? .refused

end Policy

end TryOn.Retry
