import TryOn.Settings.Basic

/-! Settings as plain data. Anything may be left out and then has its default; no unknown field may
be there. Whether a list may be longer than the fields it gives is up to the reader. -/

set_option autoImplicit false

namespace TryOn

open Data (orDefault asText? asBool? asNat?)

namespace Quota.Terms

def toData (terms : Quota.Terms) : Data :=
  .ofFields [("plan", .text terms.plan), ("monthly_limit", .ofNat terms.monthlyLimit)]

def decode? (excess : Data.Excess) : Data → Option Quota.Terms :=
  Data.closedRecord excess ["plan", "monthly_limit"] do
    return ⟨← orDefault Settings.standardTerms.plan asText?,
      ← orDefault Settings.standardTerms.monthlyLimit (asNat? 32)⟩

def ofData? : Data → Option Quota.Terms := decode? .refused

end Quota.Terms

namespace Settings

namespace Logging

def toData (settings : Logging) : Data :=
  .ofFields [("level", .text settings.level), ("json", .bool settings.json)]

def decode? (excess : Data.Excess) : Data → Option Logging :=
  let standard : Logging := {}
  Data.closedRecord excess ["level", "json"] do
    return ⟨← orDefault standard.level asText?, ← orDefault standard.json asBool?⟩

def ofData? : Data → Option Logging := decode? .refused

end Logging

namespace RateLimit

def toData (settings : RateLimit) : Data :=
  .ofFields [("max_requests", .ofNat settings.maxRequests),
    ("window_ms", .ofNat settings.windowMillis)]

def decode? (excess : Data.Excess) : Data → Option RateLimit :=
  let standard : RateLimit := {}
  Data.closedRecord excess ["max_requests", "window_ms"] do
    return ⟨← orDefault standard.maxRequests (asNat? 32),
      ← orDefault standard.windowMillis (asNat? 64)⟩

def ofData? : Data → Option RateLimit := decode? .refused

end RateLimit

namespace Watch

def fieldNames : List String :=
  ["max_timeout_ms", "min_poll_ms", "max_poll_ms", "default_timeout_ms", "default_poll_ms",
    "grace_ms"]

def toData (settings : Watch) : Data :=
  .ofFields [("max_timeout_ms", .ofNat settings.maxTimeout),
    ("min_poll_ms", .ofNat settings.minPoll), ("max_poll_ms", .ofNat settings.maxPoll),
    ("default_timeout_ms", .ofNat settings.defaultTimeout),
    ("default_poll_ms", .ofNat settings.defaultPoll), ("grace_ms", .ofNat settings.grace)]

def decode? (excess : Data.Excess) : Data → Option Watch :=
  let standard : Watch := {}
  Data.closedRecord excess fieldNames do
    return ⟨← orDefault standard.maxTimeout (asNat? 64), ← orDefault standard.minPoll (asNat? 64),
      ← orDefault standard.maxPoll (asNat? 64), ← orDefault standard.defaultTimeout (asNat? 64),
      ← orDefault standard.defaultPoll (asNat? 64), ← orDefault standard.grace (asNat? 64)⟩

def ofData? : Data → Option Watch := decode? .refused

end Watch

namespace Worker

def toData (settings : Worker) : Data :=
  .ofFields [("name", .text settings.name), ("max_concurrent", .ofNat settings.maxConcurrent),
    ("queue_capacity", .ofNat settings.queueCapacity)]

def decode? (excess : Data.Excess) : Data → Option Worker :=
  let standard : Worker := {}
  Data.closedRecord excess ["name", "max_concurrent", "queue_capacity"] do
    return ⟨← orDefault standard.name asText?, ← orDefault standard.maxConcurrent (asNat? 64),
      ← orDefault standard.queueCapacity (asNat? 64)⟩

def ofData? : Data → Option Worker := decode? .refused

end Worker

def toData (settings : Settings) : Data :=
  .ofFields [("logging", settings.logging.toData), ("rate_limit", settings.rateLimit.toData),
    ("quota", settings.quota.toData), ("watch", settings.watch.toData),
    ("worker", settings.worker.toData), ("retry", settings.retry.toData)]

def decode? (excess : Data.Excess) : Data → Option Settings :=
  Data.closedRecord excess ["logging", "rate_limit", "quota", "watch", "worker", "retry"] do
    return ⟨← orDefault {} (Logging.decode? excess), ← orDefault {} (RateLimit.decode? excess),
      ← orDefault standardTerms (Quota.Terms.decode? excess), ← orDefault {} (Watch.decode? excess),
      ← orDefault {} (Worker.decode? excess), ← orDefault .standard (Retry.Policies.decode? excess)⟩

def ofData? : Data → Option Settings := decode? .refused

end Settings

end TryOn
