import TryOn.Proofs.RateLimit.Unpruned

/-! When a refused user is let through again. A refusal tells the instant at which the oldest hit
leaves the window. With more hits in the window than the limit allows, as admissions leave behind
that were checked before either was recorded, that is too early: the hit to wait for is the first
of the last ones, of which there are as many as the limit allows. -/

set_option autoImplicit false

namespace TryOn

namespace RateLimiter

/-- A list that a test cuts off at the front keeps fewer than its last entries from a place on
exactly if the entry at that place goes. -/
theorem length_filter_lt_iff {α : Type} {keep : α → Bool} {list : List α}
    (onward : list.Pairwise fun first second => keep first → keep second) {place : Nat}
    (inside : place < list.length) :
    (list.filter keep).length < list.length - place ↔ ¬ keep list[place] := by
  induction list generalizing place with
  | nil => cases inside
  | cons head rest ih =>
    obtain ⟨after, onward⟩ := List.pairwise_cons.1 onward
    by_cases kept : keep head
    · have all : (head :: rest).filter keep = head :: rest :=
        List.filter_eq_self.2 (List.forall_mem_cons.2 ⟨kept, fun entry member =>
          after entry member kept⟩)
      have here : keep (head :: rest)[place] :=
        (List.forall_mem_cons (p := fun entry => keep entry)).2
          ⟨kept, fun entry member => after entry member kept⟩ _ (List.getElem_mem inside)
      rw [all]
      exact iff_of_false (Nat.not_lt.2 (Nat.sub_le _ _)) (not_not_intro here)
    · rw [List.filter_cons_of_neg kept]
      cases place with
      | zero =>
        exact iff_of_true (Nat.lt_succ_of_le (List.length_filter_le _ _)) kept
      | succ place =>
        rw [List.length_cons, Nat.add_sub_add_right, List.getElem_cons_succ]
        exact ih onward (Nat.lt_of_succ_lt_succ inside)

theorem exists_append_of_le_length {α : Type} {list : List α} {count : Nat} (some : 0 < count)
    (enough : count ≤ list.length) :
    ∃ before entry rest, list = before ++ entry :: rest ∧ rest.length + 1 = count := by
  have inside : list.length - count < list.length := Nat.sub_lt (some.trans_le enough) some
  refine ⟨list.take (list.length - count), list[list.length - count],
    list.drop (list.length - count + 1), ?_, ?_⟩
  · rw [List.getElem_cons_drop, List.take_append_drop]
  · rw [List.length_drop]
    omega

structure Use.Beside (user : UserId) (first last : Instant) (uses : List Use) : Prop where
  onward : first ≤ last
  ordered : Use.InOrder uses
  from_first : ∀ use ∈ uses, first ≤ use.instant
  up_to_last : ∀ use ∈ uses, use.instant ≤ last
  spared : ∀ use ∈ uses, use.call ≠ .record user ∧ use.call ≠ .reset user

end RateLimiter

open RateLimiter (Use)

namespace UnprunedLimiter

theorem hits_use (full : UnprunedLimiter) {user : UserId} {use : Use}
    (spared : use.call ≠ .record user ∧ use.call ≠ .reset user) :
    (full.use use).2.hits user = full.hits user := by
  obtain ⟨instant, call⟩ := use
  cases call with
  | check _ | purgeIdle => rfl
  | record other =>
    exact Function.update_of_ne (fun same => spared.1 (congrArg RateLimiter.Call.record same.symm))
      _ _
  | reset other =>
    exact Function.update_of_ne (fun same => spared.2 (congrArg RateLimiter.Call.reset same.symm))
      _ _

theorem terms_use (full : UnprunedLimiter) (use : Use) :
    (full.use use).2.maxRequests = full.maxRequests ∧ (full.use use).2.window = full.window := by
  obtain ⟨instant, call⟩ := use
  cases call <;> exact ⟨rfl, rfl⟩

theorem terms_after (full : UnprunedLimiter) (uses : List Use) :
    (full.after uses).maxRequests = full.maxRequests
      ∧ (full.after uses).window = full.window := by
  induction uses generalizing full with
  | nil => exact ⟨rfl, rfl⟩
  | cons use rest ih =>
    exact ⟨(ih _).1.trans (full.terms_use use).1, (ih _).2.trans (full.terms_use use).2⟩

theorem inWindow_after (full : UnprunedLimiter) {user : UserId} {uses : List Use}
    (spared : ∀ use ∈ uses, use.call ≠ .record user ∧ use.call ≠ .reset user) (now : Instant) :
    (full.after uses).inWindow user now = full.inWindow user now := by
  induction uses generalizing full with
  | nil => rfl
  | cons use rest ih =>
    obtain ⟨first, spared⟩ := List.forall_mem_cons.1 spared
    refine (ih (full.use use).2 spared).trans ?_
    rw [inWindow, inWindow, full.hits_use first, (full.terms_use use).2]

theorem inside_iff {now hit window : Nat} (wide : 0 < window) :
    now - hit < window ↔ now < hit + window := by
  omega

theorem inWindow_later (full : UnprunedLimiter) (user : UserId) {now instant : Instant}
    (wide : 0 < full.window) (later : now ≤ instant) :
    full.inWindow user instant
      = (full.inWindow user now).filter fun hit => instant < hit + full.window := by
  rw [inWindow, inWindow, List.filter_filter]
  refine List.filter_congr fun hit _ => ?_
  rw [← Bool.decide_and, decide_eq_decide, inside_iff wide, inside_iff wide]
  exact ⟨fun inside => ⟨inside, Nat.lt_of_le_of_lt later inside⟩, And.left⟩

end UnprunedLimiter

namespace RateLimiter

variable {limiter : RateLimiter} {full : UnprunedLimiter} {user : UserId}
  {now instant : Instant} {refusal : RateLimited}

theorem verdict_eq_ok_iff (some : 0 < limiter.maxRequests) (hits : List Instant) :
    limiter.verdict now hits = .ok () ↔ hits.length < limiter.maxRequests := by
  rw [verdict, if_neg (Nat.ne_of_gt some)]
  split
  · rename_i few
    exact iff_of_true rfl few
  · rename_i many
    exact iff_of_false (by simp) many

theorem verdict_eq_error (some : 0 < limiter.maxRequests) {hits : List Instant}
    (refused : limiter.verdict now hits = .error refusal) :
    limiter.maxRequests ≤ hits.length
      ∧ refusal.retryAfter = hits.head?.getD now + limiter.window - now := by
  rw [verdict, if_neg (Nat.ne_of_gt some)] at refused
  split at refused
  · cases refused
  · rename_i many
    cases refused
    exact ⟨Nat.le_of_not_lt many, rfl⟩

/-- A time to come back is exact if the user is refused until then and let through then, whatever
else the limiter is asked in the meantime. -/
def IsExact (limiter : RateLimiter) (user : UserId) (now : Instant) (retryAfter : Duration) :
    Prop :=
  0 < retryAfter ∧ ∀ later instant, Use.Beside user now instant later →
    instant ≤ now + retryAfter →
      (((limiter.after later).check user instant).1 = .ok () ↔ instant = now + retryAfter)

namespace Refines

/-- A user is let through again once a hit has left the window after which there are fewer than the
limit allows. -/
theorem check_after_iff (refines : limiter.Refines full now) (some : 0 < full.maxRequests)
    (wide : 0 < full.window) {older newer : List Instant} {last : Instant}
    (hits : full.inWindow user now = older ++ last :: newer)
    (many : newer.length + 1 = full.maxRequests) {later : List Use}
    (beside : Use.Beside user now instant later) :
    ((limiter.after later).check user instant).1 = .ok () ↔ last + full.window ≤ instant := by
  -- What is in the window at that instant is left of what is in it now, cut off at the front.
  have onwards : (older ++ last :: newer).Pairwise fun first second =>
      decide (instant < first + full.window) → decide (instant < second + full.window) := by
    rw [← hits]
    refine ((refines.ordered user).filter _).imp fun {first second} sorted => ?_
    simp only [decide_eq_true_eq]
    exact fun inside => Nat.lt_of_lt_of_le inside (Nat.add_le_add_right sorted _)
  have inside : older.length < (older ++ last :: newer).length := by simp
  have fewer := length_filter_lt_iff onwards inside
  rw [List.getElem_append_right (Nat.le_refl _), decide_eq_true_eq, Nat.not_lt] at fewer
  simp only [List.length_append, List.length_cons, Nat.add_sub_cancel_left, many, Nat.sub_self,
    List.getElem_cons_zero] at fewer
  obtain ⟨sameMax, sameWindow⟩ := full.terms_after later
  have refines := refines.after beside.ordered beside.from_first beside.up_to_last beside.onward
  rw [check_eq, verdict_eq_ok_iff (by rwa [refines.maxRequests, sameMax]), refines.maxRequests,
    sameMax, refines.recent user instant (Nat.le_refl _), full.inWindow_after beside.spared,
    full.inWindow_later user wide beside.onward, hits]
  exact fewer

theorem tells_oldest (refines : limiter.Refines full now) (some : 0 < full.maxRequests)
    (wide : 0 < full.window) (refused : (limiter.check user now).1 = .error refusal) :
    full.maxRequests ≤ (full.inWindow user now).length
      ∧ 0 < refusal.retryAfter
      ∧ ∃ oldest, (full.inWindow user now).head? = Option.some oldest
        ∧ now + refusal.retryAfter = oldest + full.window := by
  rw [check_eq] at refused
  obtain ⟨many, told⟩ := verdict_eq_error (by rwa [refines.maxRequests]) refused
  rw [refines.maxRequests, refines.recent user now (Nat.le_refl now)] at many
  rw [refines.window, refines.recent user now (Nat.le_refl now)] at told
  cases hits : full.inWindow user now with
  | nil => simp [hits, Nat.not_le.2 some] at many
  | cons oldest rest =>
    have inside : now - oldest < full.window := by
      have member : oldest ∈ full.inWindow user now := hits ▸ List.mem_cons_self
      exact of_decide_eq_true (List.mem_filter.1 member).2
    have soon : now < oldest + full.window := (UnprunedLimiter.inside_iff wide).1 inside
    rw [hits, List.head?_cons, Option.getD_some] at told
    rw [told]
    exact ⟨hits ▸ many, Nat.sub_pos_of_lt soon, oldest, rfl, Nat.add_sub_cancel' soon.le⟩

/-- What a refusal tells is never too late, and exact only if the hit to wait for came with the
oldest. -/
theorem isExact_iff (refines : limiter.Refines full now) (some : 0 < full.maxRequests)
    (wide : 0 < full.window) {older newer : List Instant} {last : Instant}
    (hits : full.inWindow user now = older ++ last :: newer)
    (many : newer.length + 1 = full.maxRequests)
    (refused : (limiter.check user now).1 = .error refusal) :
    now + refusal.retryAfter ≤ last + full.window
      ∧ (limiter.IsExact user now refusal.retryAfter ↔ ∀ hit ∈ older, hit = last) := by
  obtain ⟨-, positive, oldest, first, told⟩ := refines.tells_oldest some wide refused
  have sorted : (older ++ last :: newer).Pairwise (· ≤ ·) :=
    hits ▸ (refines.ordered user).filter _
  have upToLast := (List.pairwise_append.1 sorted).2.2
  rw [hits] at first
  have early : oldest ≤ last := by
    cases older with
    | nil => exact Nat.le_of_eq (Option.some.inj first).symm
    | cons hit rest =>
      obtain rfl : hit = oldest := Option.some.inj first
      exact upToLast hit List.mem_cons_self last List.mem_cons_self
  have alike : oldest = last ↔ ∀ hit ∈ older, hit = last := by
    cases older with
    | nil => exact iff_of_true (Option.some.inj first).symm nofun
    | cons hit rest =>
      obtain rfl : hit = oldest := Option.some.inj first
      refine ⟨fun same => ?_, fun same => same hit List.mem_cons_self⟩
      subst same
      -- Whatever stands between two equal hits of a log in order is equal to them.
      refine List.forall_mem_cons.2 ⟨rfl, fun other member => Nat.le_antisymm ?_ ?_⟩
      · exact upToLast other (List.mem_cons_of_mem _ member) hit List.mem_cons_self
      · exact (List.pairwise_cons.1 sorted).1 other (List.mem_append_left _ member)
  rw [told]
  refine ⟨Nat.add_le_add_right early _, Iff.trans ⟨fun exactly => ?_, fun same => ?_⟩ alike⟩
  · have beside : Use.Beside user now (now + refusal.retryAfter) [] :=
      ⟨Nat.le_add_right _ _, .nil, nofun, nofun, nofun⟩
    have opens := (exactly.2 [] _ beside (Nat.le_refl _)).2 rfl
    have late := (refines.check_after_iff some wide hits many beside).1 opens
    rw [told] at late
    exact Nat.le_antisymm early (Nat.le_of_add_le_add_right late)
  · refine ⟨positive, fun later instant beside soon => ?_⟩
    rw [refines.check_after_iff some wide hits many beside, ← same, ← told]
    exact ⟨fun late => Nat.le_antisymm soon late, fun equal => Nat.le_of_eq equal.symm⟩

end Refines

/-- A refusal is exact only if no more hits are in the window than the limit allows, or those beyond
it came at the same time as the next. Else it is too early: the user is let through from the moment
on when the first of the last hits leaves, as many as the limit allows. -/
theorem retryAfter_exact_iff {maxRequests : Nat} {window : Duration} (some : 0 < maxRequests)
    (wide : 0 < window) {uses : List Use} (ordered : Use.InOrder uses)
    (past : ∀ use ∈ uses, use.instant ≤ now)
    (refused : ((after { maxRequests, window } uses).check user now).1 = .error refusal) :
    ∃ older last newer,
      ((UnprunedLimiter.opened maxRequests window).after uses).inWindow user now
          = older ++ last :: newer
        ∧ newer.length + 1 = maxRequests
        ∧ 0 < refusal.retryAfter
        ∧ now + refusal.retryAfter ≤ last + window
        ∧ (∀ later instant, Use.Beside user now instant later →
            (((after { maxRequests, window } (uses ++ later)).check user instant).1 = .ok ()
              ↔ last + window ≤ instant))
        ∧ ((after { maxRequests, window } uses).IsExact user now refusal.retryAfter
            ↔ ∀ hit ∈ older, hit = last) := by
  have refines := (Refines.opened maxRequests window 0).after ordered (fun _ _ => Nat.zero_le _)
    past (Nat.zero_le now)
  obtain ⟨sameMax, sameWindow⟩ := (UnprunedLimiter.opened maxRequests window).terms_after uses
  generalize (UnprunedLimiter.opened maxRequests window).after uses = full at *
  obtain rfl : full.maxRequests = maxRequests := sameMax
  obtain rfl : full.window = window := sameWindow
  obtain ⟨enough, positive, -⟩ := refines.tells_oldest some wide refused
  obtain ⟨older, last, newer, hits, many⟩ := exists_append_of_le_length some enough
  obtain ⟨early, exactly⟩ := refines.isExact_iff some wide hits many refused
  refine ⟨older, last, newer, hits, many, positive, early, fun later instant beside => ?_, exactly⟩
  rw [after, List.foldl_append]
  exact refines.check_after_iff some wide hits many beside

section

def filledUp : List Use :=
  [⟨0, .check ⟨.ofNat 1⟩⟩, ⟨0, .record ⟨.ofNat 1⟩⟩, ⟨20, .check ⟨.ofNat 1⟩⟩,
    ⟨20, .record ⟨.ofNat 1⟩⟩]

theorem isExact_filledUp :
    Use.InOrder filledUp
      ∧ ((after { maxRequests := 2, window := 60 } filledUp).check ⟨.ofNat 1⟩ 20).1
        = .error ⟨40, 2, 60⟩
      ∧ (after { maxRequests := 2, window := 60 } filledUp).IsExact ⟨.ofNat 1⟩ 20 40 := by
  have ordered : Use.InOrder filledUp := by decide
  have refused : ((after { maxRequests := 2, window := 60 } filledUp).check ⟨.ofNat 1⟩ 20).1
      = .error ⟨40, 2, 60⟩ := rfl
  obtain ⟨older, last, newer, hits, many, -, -, -, exactly⟩ :=
    retryAfter_exact_iff (by decide) (by decide) ordered (by decide) refused
  -- No more hits are in the window than the limit allows.
  have lengths : 2 = older.length + (newer.length + 1) :=
    (congrArg List.length hits).trans List.length_append
  have none : older = [] := List.length_eq_zero_iff.1 (by omega)
  exact ⟨ordered, refused, exactly.2 (none ▸ nofun)⟩

/-- Two requests are let through one after the other before either is recorded, with a limit of one
in ten. -/
def letThroughTogether : List Use :=
  [⟨0, .check ⟨.ofNat 1⟩⟩, ⟨0, .check ⟨.ofNat 1⟩⟩, ⟨0, .record ⟨.ofNat 1⟩⟩,
    ⟨4, .record ⟨.ofNat 1⟩⟩]

/-- Then the user is told to come back after five, and after four more when those are over. -/
theorem not_isExact_letThroughTogether :
    answers { maxRequests := 1, window := 10 }
        (letThroughTogether ++ [⟨5, .check ⟨.ofNat 1⟩⟩, ⟨10, .check ⟨.ofNat 1⟩⟩])
      = [.ok (), .ok (), .error ⟨5, 1, 10⟩, .error ⟨4, 1, 10⟩]
    ∧ ¬ (after { maxRequests := 1, window := 10 } letThroughTogether).IsExact ⟨.ofNat 1⟩ 5 5 := by
  refine ⟨rfl, fun exactly => ?_⟩
  have opens := (exactly.2 [] 10 ⟨by decide, .nil, nofun, nofun, nofun⟩ (by decide)).2 rfl
  cases opens

end

end RateLimiter

end TryOn
