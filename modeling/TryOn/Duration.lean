/-! Spans of time, and instants as the span since some start, in whole nanoseconds. Neither is
bounded: of the sums that are formed it is assumed that they can be represented. -/

set_option autoImplicit false

namespace TryOn

/-- A span of time in nanoseconds. -/
abbrev Duration := Nat

/-- A point on a clock that only moves forward, as the time since it was started. -/
abbrev Instant := Nat

namespace Duration

def nanosPerMilli : Nat := 1000000

def nanosPerSecond : Nat := 1000000000

def ofMillis (millis : Nat) : Duration := millis * nanosPerMilli

def millis (span : Duration) : Nat := span / nanosPerMilli

def seconds (span : Duration) : Nat := span / nanosPerSecond

@[simp] theorem millis_ofMillis (count : Nat) : millis (ofMillis count) = count :=
  Nat.mul_div_cancel count (by decide)

/-- The longest that anybody waits in one go: thirty years of 365 days. -/
def longestWait : Duration := 30 * 365 * 24 * 60 * 60 * nanosPerSecond

def waited (span : Duration) : Duration := min span longestWait

end Duration

end TryOn
