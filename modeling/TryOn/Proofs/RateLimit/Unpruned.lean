import Mathlib.Data.Set.Card
import TryOn.Proofs.RateLimit.Recent

/-! A limiter that drops nothing. It keeps every hit since the last reset and looks at those that
are in the window, and a limiter that prunes cannot be told from it by its answers. -/

set_option autoImplicit false

namespace TryOn

namespace Table

variable {κ ν : Type} [Ord κ] [Std.TransOrd κ] [Std.LawfulEqOrd κ]

omit [Std.TransOrd κ] in
theorem mem_keys_iff (table : Table κ ν) (key : κ) :
    key ∈ table.keys ↔ (table.get? key).isSome = true := by
  rw [Option.isSome_iff_exists]
  simp only [get?_eq_some_iff, keys, List.mem_map, Prod.exists, exists_and_right, exists_eq_right]

omit [Std.TransOrd κ] in
theorem encard_present [DecidableEq κ] (table : Table κ ν) :
    {key | (table.get? key).isSome = true}.encard = table.size := by
  have present : {key | (table.get? key).isSome = true} = ↑table.keys.toFinset := by
    ext key
    simp [mem_keys_iff]
  rw [present, Set.encard_coe_eq_coe_finsetCard, List.toFinset_card_of_nodup table.nodup_keys]
  simp [keys, size]

end Table

namespace RateLimiter

inductive Call where
  | check (user : UserId)
  | record (user : UserId)
  | reset (user : UserId)
  | purgeIdle
  deriving DecidableEq

structure Use where
  instant : Instant
  call : Call
  deriving DecidableEq

def Use.InOrder (uses : List Use) : Prop :=
  uses.Pairwise fun first second => first.instant ≤ second.instant

instance (uses : List Use) : Decidable (Use.InOrder uses) :=
  inferInstanceAs (Decidable (uses.Pairwise _))

def use (limiter : RateLimiter) (use : Use) : Option (Except RateLimited Unit) × RateLimiter :=
  match use.call with
  | .check user =>
    let (answer, next) := limiter.check user use.instant
    (some answer, next)
  | .record user => (none, limiter.record user use.instant)
  | .reset user => (none, limiter.reset user)
  | .purgeIdle => (none, limiter.purgeIdle use.instant)

def after (limiter : RateLimiter) (uses : List Use) : RateLimiter :=
  uses.foldl (fun limiter use => (limiter.use use).2) limiter

def answers (limiter : RateLimiter) : List Use → List (Except RateLimited Unit)
  | [] => []
  | use :: rest => (limiter.use use).1.toList ++ (limiter.use use).2.answers rest

end RateLimiter

open RateLimiter (Use)

/-- A limit, and for each user every instant recorded since the last reset. -/
structure UnprunedLimiter where
  maxRequests : Nat
  window : Duration
  hits : UserId → List Instant

namespace UnprunedLimiter

def opened (maxRequests : Nat) (window : Duration) : UnprunedLimiter :=
  ⟨maxRequests, window, fun _ => []⟩

def inWindow (limiter : UnprunedLimiter) (user : UserId) (now : Instant) : List Instant :=
  (limiter.hits user).filter fun hit => now - hit < limiter.window

/-- Without a limit to stay below, come back after a window; else when the earliest hit has left. -/
def check (limiter : UnprunedLimiter) (user : UserId) (now : Instant) : Except RateLimited Unit :=
  let refuse (retryAfter : Duration) : Except RateLimited Unit :=
    .error ⟨retryAfter, limiter.maxRequests, limiter.window⟩
  if limiter.maxRequests = 0 then refuse limiter.window
  else if (limiter.inWindow user now).length < limiter.maxRequests then .ok ()
  else refuse ((limiter.inWindow user now).min?.getD now + limiter.window - now)

def record (limiter : UnprunedLimiter) (user : UserId) (now : Instant) : UnprunedLimiter :=
  { limiter with hits := Function.update limiter.hits user (limiter.hits user ++ [now]) }

def reset (limiter : UnprunedLimiter) (user : UserId) : UnprunedLimiter :=
  { limiter with hits := Function.update limiter.hits user [] }

/-- Answer a call, if it is one that is answered. A purge has nothing to do here. -/
def use (limiter : UnprunedLimiter) (use : Use) :
    Option (Except RateLimited Unit) × UnprunedLimiter :=
  match use.call with
  | .check user => (some (limiter.check user use.instant), limiter)
  | .record user => (none, limiter.record user use.instant)
  | .reset user => (none, limiter.reset user)
  | .purgeIdle => (none, limiter)

theorem inWindow_record (limiter : UnprunedLimiter) (user other : UserId) (first second : Instant) :
    (limiter.record user first).inWindow other second
      = limiter.inWindow other second
        ++ if other = user ∧ second - first < limiter.window then [first] else [] := by
  show (Function.update limiter.hits user _ other).filter (second - · < limiter.window) = _
  by_cases same : other = user
  · subst same
    rw [Function.update_self, List.filter_append, List.filter_singleton]
    by_cases inside : second - first < limiter.window <;> simp [inside, inWindow]
  · rw [Function.update_of_ne same, if_neg fun both => same both.1, List.append_nil]
    rfl

theorem inWindow_reset (limiter : UnprunedLimiter) (user other : UserId) (now : Instant) :
    (limiter.reset user).inWindow other now
      = if other = user then [] else limiter.inWindow other now := by
  show (Function.update limiter.hits user _ other).filter (now - · < limiter.window) = _
  by_cases same : other = user
  · subst same
    simp
  · rw [Function.update_of_ne same, if_neg same]
    rfl

def after (limiter : UnprunedLimiter) (uses : List Use) : UnprunedLimiter :=
  uses.foldl (fun limiter use => (limiter.use use).2) limiter

def answers (limiter : UnprunedLimiter) : List Use → List (Except RateLimited Unit)
  | [] => []
  | use :: rest => (limiter.use use).1.toList ++ (limiter.use use).2.answers rest

end UnprunedLimiter

namespace RateLimiter

variable {limiter : RateLimiter} {full : UnprunedLimiter} {user : UserId} {start now : Instant}

structure Refines (limiter : RateLimiter) (full : UnprunedLimiter) (start : Instant) : Prop where
  maxRequests : limiter.maxRequests = full.maxRequests
  window : limiter.window = full.window
  dated : limiter.DatedBy start
  ordered : ∀ user, (full.hits user).Pairwise (· ≤ ·)
  past : ∀ user, ∀ hit ∈ full.hits user, hit ≤ start
  recent : ∀ user now, start ≤ now → limiter.recent user now = full.inWindow user now

namespace Refines

theorem opened (maxRequests : Nat) (window : Duration) (start : Instant) :
    Refines { maxRequests, window } (.opened maxRequests window) start where
  maxRequests := rfl
  window := rfl
  dated user log found := by simp at found
  ordered _ := .nil
  past _ := by simp [UnprunedLimiter.opened]
  recent _ _ _ := rfl

theorem mono (refines : limiter.Refines full start) (later : start ≤ now) :
    limiter.Refines full now :=
  ⟨refines.maxRequests, refines.window, refines.dated.mono later, refines.ordered,
    fun user hit member => (refines.past user hit member).trans later,
    fun user instant late => refines.recent user instant (later.trans late)⟩

theorem answer (refines : limiter.Refines full now) (user : UserId) :
    (limiter.check user now).1 = full.check user now := by
  -- The hits are in order, so the earliest of those in the window is the first.
  have sorted : (full.inWindow user now).Pairwise fun first second => min first second = first :=
    ((refines.ordered user).filter _).imp Nat.min_eq_left
  rw [check_eq, refines.recent user now (Nat.le_refl now), verdict, UnprunedLimiter.check,
    List.min?_eq_head? sorted, refusal, refusal, refines.maxRequests, refines.window]

theorem check (refines : limiter.Refines full now) (user : UserId) :
    (limiter.check user now).2.Refines full now where
  maxRequests := (limiter.terms_check user now).1.trans refines.maxRequests
  window := (limiter.terms_check user now).2.trans refines.window
  dated := refines.dated.check user
  ordered := refines.ordered
  past := refines.past
  recent other instant late := by
    rw [limiter.recent_check user other late, refines.recent other instant late]

theorem record (refines : limiter.Refines full now) (user : UserId) :
    (limiter.record user now).Refines (full.record user now) now where
  maxRequests := refines.maxRequests
  window := refines.window
  dated := refines.dated.record user
  ordered other := by
    by_cases same : other = user
    · subst same
      simp only [UnprunedLimiter.record, Function.update_self]
      exact List.pairwise_append.2 ⟨refines.ordered other, List.pairwise_singleton _ _,
        fun hit member last single => List.mem_singleton.1 single ▸ refines.past other hit member⟩
    · simpa [UnprunedLimiter.record, same] using refines.ordered other
  past other := by
    by_cases same : other = user
    · subst same
      simp only [UnprunedLimiter.record, Function.update_self, List.forall_mem_append,
        List.forall_mem_singleton]
      exact ⟨refines.past other, Nat.le_refl now⟩
    · simpa [UnprunedLimiter.record, same] using refines.past other
  recent other instant late := by
    rw [UnprunedLimiter.inWindow_record, ← refines.recent other instant late, ← refines.window]
    by_cases same : other = user
    · subst same
      simp only [refines.dated.recent_record_self other late, true_and]
    · rw [recent_record, if_neg same, if_neg fun both => same both.1, List.append_nil]

theorem reset (refines : limiter.Refines full now) (user : UserId) :
    (limiter.reset user).Refines (full.reset user) now where
  maxRequests := refines.maxRequests
  window := refines.window
  dated := refines.dated.reset user
  ordered other := by
    by_cases same : other = user <;>
      simp [UnprunedLimiter.reset, same, refines.ordered other]
  past other := by
    by_cases same : other = user
    · simp [UnprunedLimiter.reset, same]
    · simpa [UnprunedLimiter.reset, same] using refines.past other
  recent other instant late := by
    rw [recent_reset, UnprunedLimiter.inWindow_reset, refines.recent other instant late]

theorem purgeIdle (refines : limiter.Refines full now) :
    (limiter.purgeIdle now).Refines full now where
  maxRequests := refines.maxRequests
  window := refines.window
  dated := refines.dated.purgeIdle
  ordered := refines.ordered
  past := refines.past
  recent other instant late := by
    rw [limiter.recent_purgeIdle other late, refines.recent other instant late]

/-- A call is answered alike, and what is left is as good as the full log. -/
theorem use (refines : limiter.Refines full start) {use : Use} (later : start ≤ use.instant) :
    (limiter.use use).1 = (full.use use).1
      ∧ (limiter.use use).2.Refines (full.use use).2 use.instant := by
  have refines := refines.mono later
  obtain ⟨instant, call⟩ := use
  cases call with
  | check user => exact ⟨congrArg some (refines.answer user), refines.check user⟩
  | record user => exact ⟨rfl, refines.record user⟩
  | reset user => exact ⟨rfl, refines.reset user⟩
  | purgeIdle => exact ⟨rfl, refines.purgeIdle⟩

theorem answers {uses : List Use} (refines : limiter.Refines full start)
    (ordered : Use.InOrder uses) (later : ∀ use ∈ uses, start ≤ use.instant) :
    limiter.answers uses = full.answers uses := by
  induction uses generalizing limiter full start with
  | nil => rfl
  | cons use rest ih =>
    obtain ⟨onward, ordered⟩ := List.pairwise_cons.1 ordered
    obtain ⟨same, refines⟩ := refines.use (later use List.mem_cons_self)
    rw [RateLimiter.answers, UnprunedLimiter.answers, same, ih refines ordered onward]

theorem after {uses : List Use} (refines : limiter.Refines full start) (ordered : Use.InOrder uses)
    (later : ∀ use ∈ uses, start ≤ use.instant) (ends : ∀ use ∈ uses, use.instant ≤ now)
    (passed : start ≤ now) : (limiter.after uses).Refines (full.after uses) now := by
  induction uses generalizing limiter full start with
  | nil => exact refines.mono passed
  | cons use rest ih =>
    obtain ⟨onward, ordered⟩ := List.pairwise_cons.1 ordered
    obtain ⟨soon, ends⟩ := List.forall_mem_cons.1 ends
    exact ih (refines.use (later use List.mem_cons_self)).2 ordered onward ends soon

theorem encard_tracked (refines : limiter.Refines full now) :
    {user | full.inWindow user now ≠ []}.encard = (limiter.purgeIdle now).trackedUsers := by
  rw [trackedUsers, ← Table.encard_present]
  congr 1
  ext user
  rw [Set.mem_ofPred_eq, Set.mem_ofPred_eq, ← refines.recent user now (Nat.le_refl now),
    RateLimiter.purgeIdle, Table.get?_filter, Table.get?_mapValues, RateLimiter.recent]
  cases limiter.hits.get? user with
  | none => simp [prune]
  | some log => cases prune limiter.window now log <;> simp [Option.filter]

end Refines

theorem answers_filter_purges (full : UnprunedLimiter) (uses : List Use) :
    full.answers (uses.filter (·.call ≠ .purgeIdle)) = full.answers uses := by
  induction uses generalizing full with
  | nil => rfl
  | cons use rest ih =>
    obtain ⟨instant, call⟩ := use
    cases call with
    | purgeIdle => exact ih full
    | check _ | record _ | reset _ =>
      rw [List.filter_cons_of_pos (by simp), UnprunedLimiter.answers, UnprunedLimiter.answers, ih]

/-- A limiter that prunes whenever it is used answers every check as one that never drops a hit
before a reset. So it makes no difference when it is purged; and after a purge those users are
tracked who have a hit in the window. -/
theorem pruning_unobservable (maxRequests : Nat) (window : Duration) {uses : List Use}
    (ordered : Use.InOrder uses) :
    answers { maxRequests, window } uses = (UnprunedLimiter.opened maxRequests window).answers uses
      ∧ answers { maxRequests, window } (uses.filter (·.call ≠ .purgeIdle))
        = answers { maxRequests, window } uses
      ∧ ∀ before now later, uses = before ++ ⟨now, .purgeIdle⟩ :: later →
        {user | ((UnprunedLimiter.opened maxRequests window).after before).inWindow user now
            ≠ []}.encard
          = (after { maxRequests, window } (before ++ [⟨now, .purgeIdle⟩])).trackedUsers := by
  have refines := Refines.opened maxRequests window 0
  have same := refines.answers ordered fun _ _ => Nat.zero_le _
  have fewer : Use.InOrder (uses.filter (·.call ≠ .purgeIdle)) := ordered.filter _
  have without := refines.answers fewer fun _ _ => Nat.zero_le _
  refine ⟨same, ?_, fun before now later split => ?_⟩
  · rw [without, answers_filter_purges, same]
  · subst split
    obtain ⟨ordered, -, ends⟩ := List.pairwise_append.1 ordered
    have sofar := refines.after ordered (fun _ _ => Nat.zero_le _)
      (fun use member => ends use member _ List.mem_cons_self) (Nat.zero_le now)
    rw [sofar.encard_tracked]
    simp only [after, List.foldl_append, List.foldl_cons, List.foldl_nil, RateLimiter.use]

section

/-- Two users, of whom one reaches the limit of two in ten, and purges on the way. -/
def busyDay : List Use :=
  let first : UserId := ⟨.ofNat 1⟩
  let second : UserId := ⟨.ofNat 2⟩
  [⟨0, .record first⟩, ⟨4, .record first⟩, ⟨5, .check first⟩, ⟨5, .record second⟩,
    ⟨9, .purgeIdle⟩, ⟨10, .check first⟩, ⟨12, .reset second⟩, ⟨12, .record second⟩,
    ⟨14, .purgeIdle⟩]

theorem pruning_unobservable_on_busy_day :
    Use.InOrder busyDay
      ∧ answers { maxRequests := 2, window := 10 } busyDay = [.error ⟨5, 2, 10⟩, .ok ()]
      ∧ {user | ((UnprunedLimiter.opened 2 10).after busyDay.dropLast).inWindow user 14
          ≠ []}.encard = 1 := by
  have ordered : Use.InOrder busyDay := by decide
  obtain ⟨same, -, tracked⟩ := pruning_unobservable 2 10 ordered
  refine ⟨ordered, same.trans rfl, ?_⟩
  rw [tracked busyDay.dropLast 14 [] rfl]
  rfl

end

end RateLimiter

end TryOn
