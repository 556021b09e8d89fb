import TryOn.Duration
import TryOn.Identifier
import TryOn.Table
import TryOn.Text.Digits

/-! A limit on how many requests of one user may fall into a sliding window of time. Asking is
apart from counting: only what was let through in the end is recorded.

It is assumed that instants are exact, and that the end of a window which begins at any of them can
be represented. -/

set_option autoImplicit false

namespace TryOn

/-- A refusal: when to come back, and the limit that was reached. -/
structure RateLimited where
  retryAfter : Duration
  limit : Nat
  window : Duration
  deriving DecidableEq, Repr

def RateLimited.message (refusal : RateLimited) : String :=
  "rate limit of " ++ Text.decimal refusal.limit ++ " requests per "
    ++ Text.decimal refusal.window.seconds ++ "s exceeded; retry in "
    ++ Text.decimal refusal.retryAfter.millis ++ "ms"

/-- The limit, and for each user the instants of recorded requests, oldest first. -/
structure RateLimiter where
  maxRequests : Nat
  window : Duration
  hits : Table UserId (List Instant) := .empty

namespace RateLimiter

def prune (window : Duration) (now : Instant) (log : List Instant) : List Instant :=
  log.dropWhile fun moment => window ≤ now - moment

/-- Put a pruned log in the place of a user's log; nobody keeps an empty one. -/
def keepLog (limiter : RateLimiter) (user : UserId) (log : List Instant) : RateLimiter :=
  { limiter with
    hits := if log.isEmpty then limiter.hits.erase user else limiter.hits.insert user log }

def refusal (limiter : RateLimiter) (retryAfter : Duration) : RateLimited :=
  ⟨retryAfter, limiter.maxRequests, limiter.window⟩

def check (limiter : RateLimiter) (user : UserId) (now : Instant) :
    Except RateLimited Unit × RateLimiter :=
  if limiter.maxRequests = 0 then (.error (limiter.refusal limiter.window), limiter)
  else match limiter.hits.get? user with
    | none => (.ok (), limiter)
    | some log =>
      let log := prune limiter.window now log
      let pruned := limiter.keepLog user log
      match log with
      | [] => (.ok (), pruned)
      | oldest :: _ =>
        if log.length < limiter.maxRequests then (.ok (), pruned)
        else (.error (limiter.refusal (oldest + limiter.window - now)), pruned)

def record (limiter : RateLimiter) (user : UserId) (now : Instant) : RateLimiter :=
  let log := (limiter.hits.get? user).getD []
  { limiter with hits := limiter.hits.insert user (prune limiter.window now log ++ [now]) }

def reset (limiter : RateLimiter) (user : UserId) : RateLimiter :=
  { limiter with hits := limiter.hits.erase user }

def purgeIdle (limiter : RateLimiter) (now : Instant) : RateLimiter :=
  { limiter with
    hits := (limiter.hits.mapValues (prune limiter.window now)).filter (!·.isEmpty) }

def trackedUsers (limiter : RateLimiter) : Nat :=
  limiter.hits.size

end RateLimiter

/-- Purges at regular times: the pause between two of them, and when the next one is due. -/
structure Cleanup where
  every : Duration
  due : Instant
  deriving DecidableEq, Repr

namespace Cleanup

def lastUpTo? (cleanup : Cleanup) (now : Instant) : Option Instant :=
  if cleanup.due ≤ now then
    some (cleanup.due + (now - cleanup.due) / cleanup.every * cleanup.every)
  else none

def after (cleanup : Cleanup) (now : Instant) : Cleanup :=
  match cleanup.lastUpTo? now with
  | some last => { cleanup with due := last + cleanup.every }
  | none => cleanup

end Cleanup

structure SelfPurgingLimiter where
  limiter : RateLimiter
  now : Instant := 0
  /-- The cleanup that can be stopped: the one started last. -/
  cleanup : Option Cleanup := none
  /-- Cleanups that another was started beside. They go on for good. -/
  detached : List Cleanup := []

namespace SelfPurgingLimiter

def startCleanup (state : SelfPurgingLimiter) (every : Duration) : SelfPurgingLimiter :=
  let every := (max every (Duration.ofMillis 1)).waited
  { state with
    cleanup := some ⟨every, state.now + every⟩
    detached := state.cleanup.toList ++ state.detached }

/-- Let time pass. Of the purges of a cleanup that fall due only the last matters, since nothing is
recorded between them. -/
def advance (state : SelfPurgingLimiter) (span : Duration) : SelfPurgingLimiter :=
  let now := state.now + span
  let purges := (state.cleanup.toList ++ state.detached).filterMap (·.lastUpTo? now)
  { limiter := purges.foldl RateLimiter.purgeIdle state.limiter
    now := now
    cleanup := state.cleanup.map (·.after now)
    detached := state.detached.map (·.after now) }

end SelfPurgingLimiter

end TryOn
