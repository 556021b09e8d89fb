import Mathlib.Data.List.TakeWhile
import TryOn.RateLimit

/-! What of a limiter can be told from now on: of each user, the hits that are still in the window.
Whatever was dropped earlier would have been dropped later, so pruning on the way makes no
difference, and asking none. -/

set_option autoImplicit false

namespace TryOn

namespace Table

variable {κ ν : Type} [Ord κ] [Std.TransOrd κ] [Std.LawfulEqOrd κ]

omit [Std.TransOrd κ] [Std.LawfulEqOrd κ] in
theorem get?_mapValues {ω : Type} (table : Table κ ν) (change : ν → ω) (key : κ) :
    (table.mapValues change).get? key = (table.get? key).map change := by
  unfold get? mapValues
  rw [List.find?_map, Option.map_map, Option.map_map]
  rfl

omit [Std.TransOrd κ] in
theorem get?_filter (table : Table κ ν) (keep : ν → Bool) (key : κ) :
    (table.filter keep).get? key = (table.get? key).filter keep := by
  apply Option.ext
  intro found
  rw [Option.filter_eq_some_iff, get?_eq_some_iff, get?_eq_some_iff]
  exact List.mem_filter

omit [Std.TransOrd κ] in
theorem nodup_keys (table : Table κ ν) : table.keys.Nodup := by
  refine List.pairwise_map.2 (table.ascending.imp fun {first second} below same => ?_)
  have equal : compare first.1 second.1 = .eq := same ▸ Std.ReflOrd.compare_self
  rw [equal] at below
  cases below

end Table

namespace RateLimiter

variable {limiter : RateLimiter} {user other : UserId} {window : Duration} {first second : Instant}

def recent (limiter : RateLimiter) (user : UserId) (now : Instant) : List Instant :=
  prune limiter.window now ((limiter.hits.get? user).getD [])

theorem prune_prune (later : first ≤ second) (log : List Instant) :
    prune window second (prune window first log) = prune window second log := by
  induction log with
  | nil => rfl
  | cons hit rest ih =>
    by_cases gone : window ≤ first - hit
    · have stays : window ≤ second - hit := Nat.le_trans gone (Nat.sub_le_sub_right later hit)
      have now : prune window first (hit :: rest) = prune window first rest := by
        simp [prune, gone]
      have soon : prune window second (hit :: rest) = prune window second rest := by
        simp [prune, stays]
      rw [now, soon, ih]
    · have now : prune window first (hit :: rest) = hit :: rest := by
        simp [prune, gone]
      rw [now]

theorem mem_of_mem_prune {hit : Instant} {log : List Instant}
    (member : hit ∈ prune window first log) : hit ∈ log :=
  (List.dropWhile_sublist _).mem member

/-- A hit counts as long as it is in the window, and then no earlier one is in its way. -/
theorem prune_concat {log : List Instant} {hit : Instant} (ordered : ∀ earlier ∈ log, earlier ≤ hit)
    (now : Instant) :
    prune window now (log ++ [hit])
      = prune window now log ++ if now - hit < window then [hit] else [] := by
  unfold prune
  rw [List.dropWhile_append]
  by_cases inside : now - hit < window
  · have stays : ¬ window ≤ now - hit := Nat.not_le_of_lt inside
    rw [if_pos inside]
    split
    · rename_i gone
      simp [List.isEmpty_iff.1 gone, stays]
    · rfl
  · -- The new hit is the youngest, so if it has left the window, all have.
    have gone : window ≤ now - hit := Nat.le_of_not_lt inside
    have all : log.dropWhile (fun moment => window ≤ now - moment) = [] :=
      List.dropWhile_eq_nil_iff.2 fun earlier member =>
        decide_eq_true (Nat.le_trans gone (Nat.sub_le_sub_left (ordered earlier member) now))
    simp [all, gone, inside]

theorem recent_keepLog (limiter : RateLimiter) (user other : UserId) (log : List Instant)
    (now : Instant) :
    (limiter.keepLog user log).recent other now
      = if other = user then prune limiter.window now log else limiter.recent other now := by
  unfold recent keepLog
  by_cases same : other = user
  · subst same
    cases log <;> simp
  · rw [if_neg same]
    split
    · rw [Table.get?_erase_ne _ same]
    · rw [Table.get?_insert_ne _ _ same]

def verdict (limiter : RateLimiter) (now : Instant) (hits : List Instant) :
    Except RateLimited Unit :=
  if limiter.maxRequests = 0 then .error (limiter.refusal limiter.window)
  else if hits.length < limiter.maxRequests then .ok ()
  else .error (limiter.refusal ((hits.head?.getD now) + limiter.window - now))

theorem check_eq (limiter : RateLimiter) (user : UserId) (now : Instant) :
    (limiter.check user now).1 = limiter.verdict now (limiter.recent user now) := by
  unfold check verdict recent
  by_cases none : limiter.maxRequests = 0
  · rw [if_pos none, if_pos none]
  · have some : 0 < limiter.maxRequests := Nat.pos_of_ne_zero none
    rw [if_neg none, if_neg none]
    cases limiter.hits.get? user with
    | none => simp [prune, some]
    | some log =>
      simp only [Option.getD_some]
      cases prune limiter.window now log with
      | nil => simp [some]
      | cons oldest rest =>
        dsimp only [List.head?_cons, Option.getD_some]
        split <;> rfl

theorem check_cases (limiter : RateLimiter) (user : UserId) (now : Instant) :
    (limiter.check user now).2 = limiter
      ∨ ∃ log, limiter.hits.get? user = some log
        ∧ (limiter.check user now).2 = limiter.keepLog user (prune limiter.window now log) := by
  unfold check
  split
  · exact .inl rfl
  · cases limiter.hits.get? user with
    | none => exact .inl rfl
    | some log =>
      refine .inr ⟨log, rfl, ?_⟩
      dsimp only
      split
      · rfl
      · split <;> rfl

theorem recent_check (limiter : RateLimiter) (user other : UserId) (later : first ≤ second) :
    (limiter.check user first).2.recent other second = limiter.recent other second := by
  rcases limiter.check_cases user first with same | ⟨log, found, pruned⟩
  · rw [same]
  · rw [pruned, recent_keepLog, prune_prune later]
    split
    · rename_i same
      simp [recent, same, found]
    · rfl

theorem recent_record (limiter : RateLimiter) (user other : UserId) (first second : Instant) :
    (limiter.record user first).recent other second
      = if other = user then prune limiter.window second (limiter.recent user first ++ [first])
        else limiter.recent other second := by
  unfold recent record
  by_cases same : other = user
  · subst same
    simp
  · rw [if_neg same, Table.get?_insert_ne _ _ same]

theorem recent_reset (limiter : RateLimiter) (user other : UserId) (now : Instant) :
    (limiter.reset user).recent other now
      = if other = user then [] else limiter.recent other now := by
  unfold recent reset
  by_cases same : other = user
  · subst same
    simp [prune]
  · rw [if_neg same, Table.get?_erase_ne _ same]

theorem recent_purgeIdle (limiter : RateLimiter) (user : UserId) (later : first ≤ second) :
    (limiter.purgeIdle first).recent user second = limiter.recent user second := by
  unfold recent purgeIdle
  rw [Table.get?_filter, Table.get?_mapValues]
  cases limiter.hits.get? user with
  | none => rfl
  | some log =>
    -- A user is dropped whose hits have all left the window, and so has none that is recent.
    rw [Option.map_some, Option.getD_some, ← prune_prune later log]
    cases prune limiter.window first log <;> simp [Option.filter]

theorem terms_check (limiter : RateLimiter) (user : UserId) (now : Instant) :
    (limiter.check user now).2.maxRequests = limiter.maxRequests
      ∧ (limiter.check user now).2.window = limiter.window := by
  rcases limiter.check_cases user now with same | ⟨log, -, pruned⟩
  · rw [same]
    exact ⟨rfl, rfl⟩
  · rw [pruned]
    exact ⟨rfl, rfl⟩

/-- From an instant on, two limiters have the same hits in the window. -/
structure AlikeFrom (first second : RateLimiter) (instant : Instant) : Prop where
  maxRequests : first.maxRequests = second.maxRequests
  window : first.window = second.window
  recent : ∀ (user : UserId) (now : Instant), instant ≤ now →
    first.recent user now = second.recent user now

namespace AlikeFrom

variable {one another : RateLimiter} {start instant : Instant}

theorem refl (limiter : RateLimiter) (instant : Instant) : limiter.AlikeFrom limiter instant :=
  ⟨rfl, rfl, fun _ _ _ => rfl⟩

theorem symm (alike : one.AlikeFrom another instant) : another.AlikeFrom one instant :=
  ⟨alike.maxRequests.symm, alike.window.symm,
    fun user now late => (alike.recent user now late).symm⟩

theorem trans {last : RateLimiter} (left : one.AlikeFrom another instant)
    (right : another.AlikeFrom last instant) : one.AlikeFrom last instant :=
  ⟨left.maxRequests.trans right.maxRequests, left.window.trans right.window,
    fun user now late => (left.recent user now late).trans (right.recent user now late)⟩

theorem mono (alike : one.AlikeFrom another start) (later : start ≤ instant) :
    one.AlikeFrom another instant :=
  ⟨alike.maxRequests, alike.window, fun user now late => alike.recent user now (later.trans late)⟩

theorem answer (alike : one.AlikeFrom another instant) (user : UserId) :
    (one.check user instant).1 = (another.check user instant).1 := by
  rw [check_eq, check_eq, alike.recent user instant (Nat.le_refl instant)]
  simp only [verdict, refusal, alike.maxRequests, alike.window]

theorem of_check (limiter : RateLimiter) (user : UserId) (instant : Instant) :
    limiter.AlikeFrom (limiter.check user instant).2 instant :=
  ⟨(limiter.terms_check user instant).1.symm, (limiter.terms_check user instant).2.symm,
    fun other _ late => (limiter.recent_check user other late).symm⟩

theorem of_purgeIdle (limiter : RateLimiter) (instant : Instant) :
    limiter.AlikeFrom (limiter.purgeIdle instant) instant :=
  ⟨rfl, rfl, fun other _ late => (limiter.recent_purgeIdle other late).symm⟩

theorem record (alike : one.AlikeFrom another instant) (user : UserId) :
    (one.record user instant).AlikeFrom (another.record user instant) instant where
  maxRequests := alike.maxRequests
  window := alike.window
  recent other now late := by
    rw [recent_record, recent_record, alike.window, alike.recent user instant (Nat.le_refl instant),
      alike.recent other now late]

theorem reset (alike : one.AlikeFrom another instant) (user : UserId) :
    (one.reset user).AlikeFrom (another.reset user) instant where
  maxRequests := alike.maxRequests
  window := alike.window
  recent other now late := by
    rw [recent_reset, recent_reset, alike.recent other now late]

end AlikeFrom

def DatedBy (limiter : RateLimiter) (instant : Instant) : Prop :=
  ∀ (user : UserId) (log : List Instant), limiter.hits.get? user = some log →
    ∀ hit ∈ log, hit ≤ instant

namespace DatedBy

theorem mono (dated : limiter.DatedBy first) (later : first ≤ second) : limiter.DatedBy second :=
  fun user log found hit member => (dated user log found hit member).trans later

theorem recent (dated : limiter.DatedBy first) (user : UserId) :
    ∀ hit ∈ limiter.recent user second, hit ≤ first := by
  intro hit member
  cases found : limiter.hits.get? user with
  | none => simp [RateLimiter.recent, prune, found] at member
  | some log =>
    have inside : hit ∈ prune limiter.window second log := by
      simpa [RateLimiter.recent, found] using member
    exact dated user log found hit (mem_of_mem_prune inside)

theorem keepLog (dated : limiter.DatedBy first) (user : UserId) {log : List Instant}
    (hits : ∀ hit ∈ log, hit ≤ first) : (limiter.keepLog user log).DatedBy first := by
  intro other kept found
  by_cases same : other = user
  · subst same
    cases log with
    | nil => simp [RateLimiter.keepLog] at found
    | cons hit rest =>
      obtain rfl : hit :: rest = kept := by simpa [RateLimiter.keepLog] using found
      exact hits
  · refine dated other kept ?_
    unfold RateLimiter.keepLog at found
    dsimp only at found
    split at found
    · rwa [Table.get?_erase_ne _ same] at found
    · rwa [Table.get?_insert_ne _ _ same] at found

theorem check (dated : limiter.DatedBy first) (user : UserId) :
    (limiter.check user first).2.DatedBy first := by
  rcases limiter.check_cases user first with same | ⟨log, found, pruned⟩
  · rwa [same]
  · rw [pruned]
    exact dated.keepLog user fun hit member =>
      dated user log found hit (mem_of_mem_prune member)

theorem record (dated : limiter.DatedBy first) (user : UserId) :
    (limiter.record user first).DatedBy first := by
  intro other log found
  by_cases same : other = user
  · subst same
    obtain rfl : limiter.recent other first ++ [first] = log := by
      simpa [RateLimiter.record, RateLimiter.recent] using found
    intro hit member
    rcases List.mem_append.1 member with old | new
    · exact dated.recent other hit old
    · exact Nat.le_of_eq (List.mem_singleton.1 new)
  · exact dated other log (by rwa [RateLimiter.record, Table.get?_insert_ne _ _ same] at found)

theorem reset (dated : limiter.DatedBy first) (user : UserId) :
    (limiter.reset user).DatedBy first := by
  intro other log found
  by_cases same : other = user
  · subst same
    simp [RateLimiter.reset] at found
  · exact dated other log (by rwa [RateLimiter.reset, Table.get?_erase_ne _ same] at found)

theorem purgeIdle (dated : limiter.DatedBy first) : (limiter.purgeIdle first).DatedBy first := by
  intro user kept found hit member
  rw [RateLimiter.purgeIdle, Table.get?_filter, Table.get?_mapValues, Option.filter_eq_some_iff]
    at found
  obtain ⟨log, old, rfl⟩ := Option.map_eq_some_iff.1 found.1
  exact dated user log old hit (mem_of_mem_prune member)

end DatedBy

theorem DatedBy.recent_record_self (dated : limiter.DatedBy first) (user : UserId)
    (later : first ≤ second) :
    (limiter.record user first).recent user second
      = limiter.recent user second ++ if second - first < limiter.window then [first] else [] := by
  rw [RateLimiter.recent_record, if_pos rfl, prune_concat (dated.recent user) second]
  unfold RateLimiter.recent
  rw [prune_prune later]

end RateLimiter

end TryOn
