import Mathlib.Logic.Relation
import TryOn.Proofs.Admission.AllOrNothing
import TryOn.Proofs.Counting
import TryOn.Proofs.RateLimit.Unpruned

/-! Admissions that overlap. The limiter is asked first and told last, so those that are under way
between the two are not counted yet. However many of them there are at most, by so many less one
can the limit be overshot: hits in the window and admissions under way stay bounded together. -/

set_option autoImplicit false

namespace TryOn

def Exchange.isPass : Exchange → Bool
  | ⟨_, .checkRate _, answer⟩ => (answer : Except RateLimited Unit).isOk
  | _ => false

def Exchange.isHit : Exchange → Bool
  | ⟨_, .recordRate _, _⟩ => true
  | _ => false

def Request.IsApart : Request → Prop
  | .checkRate _ | .recordRate _ => False
  | _ => True

theorem Request.IsOutward.apart {request : Request} (outward : request.IsOutward) :
    request.IsApart := by
  cases request with
  | checkRate _ | recordRate _ => exact outward.elim
  | _ => exact trivial

namespace Admission

def HasPassed (log : Log) : Prop := log.any Exchange.isPass = true

def IsCounted (log : Log) : Prop := log.any Exchange.isHit = true

theorem HasPassed.append {log : Log} (passed : HasPassed log) (more : Log) :
    HasPassed (log ++ more) := by
  rw [HasPassed, List.any_append, Bool.or_eq_true]
  exact .inl passed

def limited (user : UserId) : Conduct where
  may log request := match request with
    | .checkRate other => other = user ∧ log = []
    | .recordRate other => other = user ∧ HasPassed log ∧ ¬ IsCounted log
    | _ => True
  expects _ _ := True

def settles (log : Log) : Except Failure Created → Prop
  | .ok _ => HasPassed log ∧ IsCounted log
  | .error _ => ¬ IsCounted log

section

variable {log : Log}

theorem keeps_apart (user : UserId) {α : Type} {action : Action α}
    (asks : action.Asks Request.IsApart) (passed : HasPassed log) (uncounted : ¬ IsCounted log) :
    action.Keeps (limited user) (fun log _ => HasPassed log ∧ ¬ IsCounted log)
      (fun log _ => ¬ IsCounted log) log := by
  have apart : ∀ part : Log, (∀ exchange ∈ part, exchange.request.IsApart) →
      HasPassed (log ++ part) ∧ ¬ IsCounted (log ++ part) := by
    intro part fits
    refine ⟨passed.append part, ?_⟩
    rw [IsCounted, List.any_append, Bool.or_eq_true, not_or]
    refine ⟨uncounted, fun hit => ?_⟩
    obtain ⟨⟨_, request, _⟩, member, isHit⟩ := List.any_eq_true.1 hit
    cases request with
    | recordRate _ => exact fits _ member
    | _ => cases isHit
  refine Program.Asks.keeps asks (fun _ _ request apart => ?_) fun part result fits _ => ?_
  · cases request with
    | checkRate _ | recordRate _ => exact apart.elim
    | _ => exact trivial
  · cases result with
    | ok value => exact apart part fits
    | error failure => exact (apart part fits).2

theorem keeps_admission (service : Service) (user : UserId) (request : AdmissionRequest) :
    (service.admission user request).run.Keeps (limited user) settles [] := by
  have keeps : (service.admission user request).Keeps (limited user)
      (fun log _ => HasPassed log ∧ IsCounted log) (fun log _ => ¬ IsCounted log) [] := by
    unfold Service.admission
    refine Action.keeps_bind.2 (Action.keeps_request.2 ⟨⟨rfl, rfl⟩, fun moment answer _ => ?_⟩)
    refine Action.keeps_bind.2 (Action.keeps_orFail.2 ?_)
    cases answer with
    | error refusal => exact Bool.false_ne_true
    | ok _ =>
      have apart (id : ImageId) : (service.resolveImage id).Asks Request.IsApart :=
        Program.Asks.mono (service.outward_resolveImage id) fun _ => Request.IsOutward.apart
      have looks (id : ImageId) {log : Log} (inside : HasPassed log ∧ ¬ IsCounted log) :=
        keeps_apart user (apart id) inside.1 inside.2
      have inside : HasPassed [⟨moment, .checkRate user, .ok ()⟩]
          ∧ ¬ IsCounted [⟨moment, .checkRate user, .ok ()⟩] := ⟨rfl, Bool.false_ne_true⟩
      refine Action.keeps_bind.2 ((looks request.source inside).mono ?_ fun _ _ out => out)
      intro log source inside
      refine Action.keeps_ite (fun _ => inside.2) fun _ => ?_
      refine Action.keeps_bind.2 ((looks request.target inside).mono ?_ fun _ _ out => out)
      intro log target inside
      refine Action.keeps_ite (fun _ => inside.2) fun _ => ?_
      have checks := keeps_apart user
        (Action.asks_orFail .ofViolation (request.draft user).check) inside.1 inside.2
      refine Action.keeps_bind.2 (checks.mono ?_ fun _ _ out => out)
      intro log _ inside
      have asks : (Action.store (.create (request.draft user))).Asks Request.IsApart :=
        Action.asks_store trivial
      have reserves := keeps_apart user asks inside.1 inside.2
      refine Action.keeps_bind.2 (reserves.mono ?_ fun _ _ out => out)
      intro log created inside
      refine Action.keeps_bind.2 (Action.keeps_request.2 ⟨⟨rfl, inside⟩, fun late _ _ => ?_⟩)
      -- The hit is the last thing that is asked for.
      exact ⟨inside.1.append _, by simp [IsCounted, Exchange.isHit]⟩
  refine Program.Keeps.mono keeps fun log result ends => ?_
  cases result <;> exact ends

end

/-- An admission as it goes on: whose it is, what it was told, and what is left of it. -/
structure Attempt where
  user : UserId
  log : Log
  rest : Program (Except Failure Created)

namespace Attempt

/-- Whether the limiter has let it pass, and it was neither counted since nor has come to its
end. -/
def isUnderWay (attempt : Attempt) : Bool :=
  attempt.log.any Exchange.isPass && !attempt.log.any Exchange.isHit && !attempt.rest.isDone

def IsLimited (attempt : Attempt) : Prop :=
  attempt.rest.Keeps (limited attempt.user) settles attempt.log

def begun (service : Service) (user : UserId) (request : AdmissionRequest) : Attempt :=
  ⟨user, [], (service.admission user request).run⟩

theorem underWay_before {user : UserId} {log : Log} {exchange : Exchange}
    {rest : Program (Except Failure Created)} {request : Request}
    {resume : request.Answer → Program (Except Failure Created)} (barred : exchange.isPass = false)
    (underWay : isUnderWay ⟨user, log ++ [exchange], rest⟩ = true) :
    isUnderWay ⟨user, log, .ask request resume⟩ = true := by
  simp only [isUnderWay, List.any_append, List.any_cons, List.any_nil, barred, Bool.or_false,
    Bool.and_eq_true, Bool.not_eq_true', Bool.or_eq_false_iff] at underWay
  simp [isUnderWay, Program.isDone, underWay]

theorem answer_cases {user : UserId} {log : Log} {request : Request}
    {resume : request.Answer → Program (Except Failure Created)}
    (limited : IsLimited ⟨user, log, .ask request resume⟩) (moment : Timestamp)
    (answer : request.Answer) :
    let next : Attempt := ⟨user, log ++ [⟨moment, request, answer⟩], resume answer⟩
    next.IsLimited
      ∧ ((request = .checkRate user ∧ Exchange.isPass ⟨moment, request, answer⟩ = true)
        ∨ (request = .recordRate user ∧ isUnderWay ⟨user, log, .ask request resume⟩ = true
          ∧ next.isUnderWay = false)
        ∨ ((∀ other, request ≠ .recordRate other)
          ∧ (next.isUnderWay = true → isUnderWay ⟨user, log, .ask request resume⟩ = true))) := by
  intro next
  obtain ⟨may, goesOn⟩ := limited
  refine ⟨goesOn moment answer trivial, ?_⟩
  cases request with
  | checkRate other =>
    obtain ⟨rfl, rfl⟩ := may
    cases passed : Exchange.isPass ⟨moment, .checkRate other, answer⟩ with
    | true => exact .inl ⟨rfl, rfl⟩
    | false => exact .inr (.inr ⟨fun _ same => (by cases same), underWay_before passed⟩)
  | recordRate other =>
    obtain ⟨rfl, passed, uncounted⟩ := may
    refine .inr (.inl ⟨rfl, ?_, ?_⟩)
    · rw [HasPassed] at passed
      rw [IsCounted, Bool.not_eq_true] at uncounted
      simp [isUnderWay, passed, uncounted, Program.isDone]
    · simp [next, isUnderWay, Exchange.isHit]
  | _ => exact .inr (.inr ⟨fun _ same => (by cases same), underWay_before rfl⟩)

end Attempt

/-- A limiter, the admissions that were begun, and every hit so far: whose it was, and when. -/
structure Rush where
  limiter : RateLimiter
  attempts : List Attempt := []
  hits : List (UserId × Instant) := []
  now : Instant := 0

namespace Rush

def opened (maxRequests : Nat) (window : Duration) : Rush :=
  { limiter := { maxRequests, window } }

def underWay (rush : Rush) (user : UserId) : Nat :=
  rush.attempts.countP fun attempt => attempt.user = user && attempt.isUnderWay

def hitsOf (hits : List (UserId × Instant)) (user : UserId) : List Instant :=
  (hits.filter (·.1 = user)).map (·.2)

def hitsWithin (rush : Rush) (user : UserId) (now : Instant) : List Instant :=
  (hitsOf rush.hits user).filter fun hit => hit ≤ now ∧ now - hit < rush.limiter.window

def hit? (instant : Instant) : Request → Option (UserId × Instant)
  | .recordRate user => some (user, instant)
  | _ => none

def answered (rush : Rush) (index : Nat) (attempt : Attempt) (request : Request)
    (instant : Instant) (limiter : RateLimiter) : Rush where
  limiter
  attempts := rush.attempts.set index attempt
  hits := rush.hits ++ (hit? instant request).toList
  now := instant

/-- Admissions begin and have their requests answered in any order, and somebody purges. What is
not asked of the limiter may be answered in any way, and after any time. -/
inductive Step (service : Service) (rush : Rush) : Rush → Prop
  | begins (user : UserId) (request : AdmissionRequest) :
    Step service rush { rush with attempts := rush.attempts ++ [.begun service user request] }
  | answers {index : Nat} {user : UserId} {log : Log} {request : Request}
    {resume : request.Answer → Program (Except Failure Created)} {moment : Timestamp}
    {instant : Instant} {answer : request.Answer} {next : RateLimiter}
    (present : rush.attempts[index]? = some ⟨user, log, .ask request resume⟩)
    (later : rush.now ≤ instant)
    (reacts : rush.limiter.Reacts instant ⟨moment, request, answer⟩ next) :
    Step service rush
      (rush.answered index ⟨user, log ++ [⟨moment, request, answer⟩], resume answer⟩ request
        instant next)
  | purges {instant : Instant} (later : rush.now ≤ instant) :
    Step service rush { rush with limiter := rush.limiter.purgeIdle instant, now := instant }

/-- A run in which never more than so many admissions of a user are under way at once. -/
abbrev Run (service : Service) (user : UserId) (overlap : Nat) : Rush → Rush → Prop :=
  Relation.ReflTransGen fun before after =>
    Step service before after ∧ after.underWay user ≤ overlap

/-- The limiter as it would be had it kept every hit. -/
def unpruned (rush : Rush) : UnprunedLimiter :=
  ⟨rush.limiter.maxRequests, rush.limiter.window, hitsOf rush.hits⟩

structure Sound (maxRequests : Nat) (window : Duration) (rush : Rush) : Prop where
  maxRequests : rush.limiter.maxRequests = maxRequests
  window : rush.limiter.window = window
  refines : rush.limiter.Refines rush.unpruned rush.now
  limited : ∀ attempt ∈ rush.attempts, attempt.IsLimited
  counted : ∀ attempt ∈ rush.attempts, IsCounted attempt.log → rush.hits ≠ []

/-- What a step can do: let an admission pass when the window has room, count one that was under
way, or at most bring some to an end. -/
inductive Moves (before after : Rush) : Prop
  | rests (hits : after.hits = before.hits)
    (fewer : ∀ user, after.underWay user ≤ before.underWay user) : Moves before after
  | passes {user : UserId} (hits : after.hits = before.hits)
    (room : (before.unpruned.inWindow user after.now).length < before.limiter.maxRequests)
    (fewer : ∀ other, other ≠ user → after.underWay other ≤ before.underWay other) :
    Moves before after
  | counts {user : UserId} (hits : after.hits = before.hits ++ [(user, after.now)])
    (one : after.underWay user < before.underWay user)
    (fewer : ∀ other, other ≠ user → after.underWay other ≤ before.underWay other) :
    Moves before after

variable {service : Service} {maxRequests : Nat} {window : Duration} {rush before after : Rush}

theorem sound_opened (maxRequests : Nat) (window : Duration) :
    (opened maxRequests window).Sound maxRequests window where
  maxRequests := rfl
  window := rfl
  refines := .opened maxRequests window 0
  limited := by simp [opened]
  counted := by simp [opened]

theorem hitsOf_concat (hits : List (UserId × Instant)) (hit : UserId × Instant) (user : UserId) :
    hitsOf (hits ++ [hit]) user = hitsOf hits user ++ if hit.1 = user then [hit.2] else [] := by
  unfold hitsOf
  rw [List.filter_append, List.map_append, List.filter_singleton]
  by_cases same : hit.1 = user <;> simp [same]

/-- The limiter goes on as if it had kept every hit, the one just recorded among them. -/
theorem refines_of_reacts {limiter next : RateLimiter} {full : UnprunedLimiter} {moment : Timestamp}
    {request : Request} {answer : request.Answer} {instant : Instant}
    (refines : limiter.Refines full instant)
    (reacts : limiter.Reacts instant ⟨moment, request, answer⟩ next) :
    next.maxRequests = limiter.maxRequests ∧ next.window = limiter.window
      ∧ next.Refines ((hit? instant request).elim full fun hit => full.record hit.1 hit.2)
          instant := by
  cases request with
  | checkRate user =>
    obtain ⟨-, rfl⟩ := Prod.mk.inj (reacts : limiter.check user instant = (answer, next))
    obtain ⟨maxRequests, window⟩ := limiter.terms_check user instant
    exact ⟨maxRequests, window, refines.check user⟩
  | recordRate user =>
    obtain rfl : next = limiter.record user instant := reacts
    exact ⟨rfl, rfl, refines.record user⟩
  | _ =>
    obtain rfl : next = limiter := reacts
    exact ⟨rfl, rfl, refines⟩

theorem unpruned_answered (rush : Rush) (index : Nat) (attempt : Attempt) (request : Request)
    (instant : Instant) {limiter : RateLimiter}
    (maxRequests : limiter.maxRequests = rush.limiter.maxRequests)
    (window : limiter.window = rush.limiter.window) :
    (rush.answered index attempt request instant limiter).unpruned
      = (hit? instant request).elim rush.unpruned fun hit => rush.unpruned.record hit.1 hit.2 := by
  unfold unpruned answered
  rw [maxRequests, window]
  cases hit? instant request with
  | none => simp
  | some hit =>
    obtain ⟨user, moment⟩ := hit
    simp only [Option.elim_some, Option.toList_some, UnprunedLimiter.record,
      UnprunedLimiter.mk.injEq, true_and]
    funext other
    rw [hitsOf_concat]
    by_cases same : other = user
    · subst same
      simp
    · simp [same, Ne.symm same]

theorem room_of_check {limiter : RateLimiter} {full : UnprunedLimiter} {user : UserId}
    {instant : Instant} (refines : limiter.Refines full instant)
    (passed : (limiter.check user instant).1.isOk = true) :
    (full.inWindow user instant).length < full.maxRequests := by
  rw [refines.answer user, UnprunedLimiter.check] at passed
  split at passed
  · cases passed
  · split at passed
    · assumption
    · cases passed

theorem hits_ne_nil_of_isCounted {hits : List (UserId × Instant)} {log : Log} {moment : Timestamp}
    {request : Request} {answer : request.Answer} {instant : Instant}
    (before : IsCounted log → hits ≠ [])
    (counted : IsCounted (log ++ [⟨moment, request, answer⟩])) :
    hits ++ (hit? instant request).toList ≠ [] := by
  cases request with
  | recordRate user => simp [hit?]
  | _ =>
    have known : IsCounted log := by simpa [IsCounted, Exchange.isHit] using counted
    simpa [hit?] using before known

section

variable {index : Nat} {user : UserId} {log : Log} {request : Request}
  {resume : request.Answer → Program (Except Failure Created)} {moment : Timestamp}
  {instant : Instant} {answer : request.Answer} {next : RateLimiter}

theorem underWay_answered (rush : Rush) {old : Attempt} (new : Attempt)
    (present : rush.attempts[index]? = some old) (same : new.user = old.user) (request : Request)
    (instant : Instant) (limiter : RateLimiter) (user : UserId) :
    (rush.answered index new request instant limiter).underWay user
        + (if old.user = user ∧ old.isUnderWay = true then 1 else 0)
      = rush.underWay user + (if old.user = user ∧ new.isUnderWay = true then 1 else 0) := by
  have count := countP_set_add (fun attempt => attempt.user = user && attempt.isUnderWay) present
    new
  simpa only [underWay, answered, same, Bool.and_eq_true, decide_eq_true_eq] using count

theorem Sound.answered (sound : before.Sound maxRequests window)
    (present : before.attempts[index]? = some ⟨user, log, .ask request resume⟩)
    (later : before.now ≤ instant)
    (reacts : before.limiter.Reacts instant ⟨moment, request, answer⟩ next) :
    (before.answered index ⟨user, log ++ [⟨moment, request, answer⟩], resume answer⟩ request
      instant next).Sound maxRequests window := by
  obtain ⟨limit, width, refines, limited, counted⟩ := sound
  obtain ⟨sameLimit, sameWindow, goesOn⟩ := refines_of_reacts (refines.mono later) reacts
  have member := List.mem_of_getElem? present
  refine ⟨sameLimit.trans limit, sameWindow.trans width, ?_, fun attempt present => ?_,
    fun attempt present => ?_⟩
  · rwa [unpruned_answered before _ _ request instant sameLimit sameWindow]
  · rcases List.mem_or_eq_of_mem_set present with old | rfl
    · exact limited attempt old
    · exact (Attempt.answer_cases (limited _ member) moment answer).1
  · rcases List.mem_or_eq_of_mem_set present with old | rfl
    · exact fun known => List.append_ne_nil_of_left_ne_nil (counted attempt old known) _
    · exact hits_ne_nil_of_isCounted (counted _ member)

theorem Sound.moves_answered (sound : before.Sound maxRequests window)
    (present : before.attempts[index]? = some ⟨user, log, .ask request resume⟩)
    (later : before.now ≤ instant)
    (reacts : before.limiter.Reacts instant ⟨moment, request, answer⟩ next) :
    Moves before
      (before.answered index ⟨user, log ++ [⟨moment, request, answer⟩], resume answer⟩ request
        instant next) := by
  have limited := sound.limited _ (List.mem_of_getElem? present)
  have count := before.underWay_answered ⟨user, log ++ [⟨moment, request, answer⟩], resume answer⟩
    present rfl request instant next
  have fewer (other : UserId) (differ : other ≠ user) :
      (before.answered index ⟨user, log ++ [⟨moment, request, answer⟩], resume answer⟩ request
        instant next).underWay other ≤ before.underWay other := by
    have same := count other
    simp only [Ne.symm differ, false_and, if_false] at same
    exact Nat.le_of_eq same
  rcases (Attempt.answer_cases limited moment answer).2 with
    ⟨rfl, passed⟩ | ⟨rfl, was, is⟩ | ⟨silent, back⟩
  · have checked : before.limiter.check user instant = (answer, next) := reacts
    obtain ⟨rfl, -⟩ := Prod.mk.inj checked
    exact .passes (List.append_nil _) (room_of_check (sound.refines.mono later) passed) fewer
  · refine .counts rfl ?_ fewer
    have same := count user
    simp only [was, is, true_and, if_true, Bool.false_eq_true, if_false] at same
    exact Nat.lt_of_succ_le (Nat.le_of_eq same)
  · refine .rests ?_ fun other => ?_
    · cases request with
      | recordRate other => exact absurd rfl (silent other)
      | _ => exact List.append_nil _
    · have same := count other
      -- By `back` the second summand does not grow.
      split at same <;> split at same <;> grind

end

/-- A step keeps a rush sound, and does no more than a step may. -/
theorem Step.moves (step : Step service before after) (sound : before.Sound maxRequests window) :
    after.Sound maxRequests window ∧ before.now ≤ after.now ∧ Moves before after := by
  cases step with
  | begins user request =>
    refine ⟨⟨sound.maxRequests, sound.window, sound.refines, fun attempt member => ?_,
      fun attempt member => ?_⟩, Nat.le_refl _, .rests rfl fun other => ?_⟩
    · rcases List.mem_append.1 member with old | new
      · exact sound.limited attempt old
      · exact List.mem_singleton.1 new ▸ keeps_admission service user request
    · rcases List.mem_append.1 member with old | new
      · exact sound.counted attempt old
      · obtain rfl := List.mem_singleton.1 new
        exact fun nothing => absurd nothing Bool.false_ne_true
    · simp [underWay, Attempt.begun, Attempt.isUnderWay]
  | answers present later reacts =>
    exact ⟨sound.answered present later reacts, later, sound.moves_answered present later reacts⟩
  | purges later =>
    have refines := (sound.refines.mono later).purgeIdle
    exact ⟨⟨sound.maxRequests, sound.window, refines, sound.limited, sound.counted⟩, later,
      .rests rfl fun _ => Nat.le_refl _⟩

theorem length_inWindow_mono (limiter : UnprunedLimiter) (user : UserId) {now later : Instant}
    (onward : now ≤ later) :
    (limiter.inWindow user later).length ≤ (limiter.inWindow user now).length := by
  refine (List.monotone_filter_right _ fun hit inside => ?_).length_le
  simp only [decide_eq_true_eq] at inside ⊢
  exact Nat.lt_of_le_of_lt (Nat.sub_le_sub_right onward hit) inside

theorem length_hitsWithin_le (rush : Rush) (user : UserId) {now later : Instant}
    (onward : now ≤ later) :
    (rush.hitsWithin user later).length ≤ (rush.unpruned.inWindow user now).length := by
  refine (List.monotone_filter_right _ fun hit inside => ?_).length_le
  simp only [decide_eq_true_eq] at inside ⊢
  exact Nat.lt_of_le_of_lt (Nat.sub_le_sub_right onward hit) inside.2

/-- The hits in the window and the admissions under way are bounded together; so are the hits in
any window there was, or will be. -/
structure Bounded (rush : Rush) (user : UserId) (bound : Nat) : Prop where
  together : (rush.unpruned.inWindow user rush.now).length + rush.underWay user ≤ bound
  within : ∀ now, (rush.hitsWithin user now).length ≤ bound

section

variable {user : UserId} {bound overlap : Nat}

theorem inWindow_congr (window : after.limiter.window = before.limiter.window)
    (hits : hitsOf after.hits user = hitsOf before.hits user) (now : Instant) :
    after.unpruned.inWindow user now = before.unpruned.inWindow user now := by
  show (hitsOf after.hits user).filter (now - · < after.limiter.window) = _
  rw [hits, window]
  rfl

theorem hitsWithin_congr (window : after.limiter.window = before.limiter.window)
    (hits : hitsOf after.hits user = hitsOf before.hits user) (now : Instant) :
    after.hitsWithin user now = before.hitsWithin user now := by
  rw [hitsWithin, hits, window]
  rfl

/-- Without a hit of the user, nothing but a pass can bring the bound nearer. -/
theorem Bounded.rests (bounded : before.Bounded user bound)
    (window : after.limiter.window = before.limiter.window) (later : before.now ≤ after.now)
    (hits : hitsOf after.hits user = hitsOf before.hits user)
    (fewer : after.underWay user ≤ before.underWay user) : after.Bounded user bound where
  together := by
    rw [inWindow_congr window hits]
    exact (Nat.add_le_add (length_inWindow_mono _ user later) fewer).trans bounded.together
  within now := by
    rw [hitsWithin_congr window hits]
    exact bounded.within now

theorem Bounded.moves (bounded : before.Bounded user bound) (moves : Moves before after)
    (window : after.limiter.window = before.limiter.window) (later : before.now ≤ after.now)
    (few : after.underWay user ≤ overlap)
    (enough : before.limiter.maxRequests + overlap ≤ bound + 1) : after.Bounded user bound := by
  cases moves with
  | rests hits fewer =>
    exact bounded.rests window later (congrArg (hitsOf · user) hits) (fewer user)
  | @passes passer hits room fewer =>
    have same := congrArg (hitsOf · user) hits
    by_cases mine : user = passer
    · subst mine
      refine ⟨?_, fun now => hitsWithin_congr window same now ▸ bounded.within now⟩
      -- The window had room for one more, and no more are under way than may be.
      rw [inWindow_congr window same]
      omega
    · exact bounded.rests window later same (fewer user mine)
  | @counts counted hits one fewer =>
    have grown : hitsOf after.hits user
        = hitsOf before.hits user ++ if counted = user then [after.now] else [] :=
      hits ▸ hitsOf_concat before.hits (counted, after.now) user
    by_cases mine : user = counted
    · subst mine
      rw [if_pos rfl] at grown
      have wider : (after.unpruned.inWindow user after.now).length
          ≤ (before.unpruned.inWindow user after.now).length + 1 := by
        simp only [UnprunedLimiter.inWindow, unpruned, grown, window, List.filter_append,
          List.length_append]
        exact Nat.add_le_add_left (List.length_filter_le _ [after.now]) _
      have shrunk := length_inWindow_mono before.unpruned user later
      have together := bounded.together
      -- What is one hit more is one admission under way less.
      refine ⟨by omega, fun now => ?_⟩
      rcases Nat.lt_or_ge now after.now with early | late
      · -- The window ended before the new hit.
        have same : after.hitsWithin user now = before.hitsWithin user now := by
          simp [hitsWithin, grown, window, List.filter_append, Nat.not_le.2 early]
        exact same ▸ bounded.within now
      · have inside := length_hitsWithin_le after user late
        omega
    · rw [if_neg (Ne.symm mine), List.append_nil] at grown
      exact bounded.rests window later grown (fewer user mine)

end

structure Shut (rush : Rush) : Prop where
  hits : rush.hits = []
  underWay : ∀ user, rush.underWay user = 0

theorem Shut.moves (shut : before.Shut) (moves : Moves before after)
    (nothing : before.limiter.maxRequests = 0) : after.Shut := by
  cases moves with
  | rests hits fewer =>
    exact ⟨hits.trans shut.hits, fun user => Nat.le_zero.1 (shut.underWay user ▸ fewer user)⟩
  | passes _ room _ => exact absurd (nothing ▸ room) (Nat.not_lt_zero _)
  | @counts user _ one _ => exact absurd (shut.underWay user ▸ one) (Nat.not_lt_zero _)

/-- What holds all along a run: by each step the hits and the admissions under way stay bounded
together, and if nothing may pass nobody does. -/
theorem Run.kept {user : UserId} {overlap : Nat}
    (run : Run service user overlap (opened maxRequests window) rush) :
    rush.Sound maxRequests window
      ∧ (1 ≤ maxRequests → 1 ≤ overlap → rush.Bounded user (maxRequests + overlap - 1))
      ∧ (maxRequests = 0 → rush.Shut) := by
  induction run with
  | refl =>
    refine ⟨sound_opened maxRequests window, fun _ _ => ⟨?_, fun now => ?_⟩, fun _ => ⟨rfl, ?_⟩⟩
    · simp [opened, unpruned, UnprunedLimiter.inWindow, hitsOf, underWay]
    · simp [opened, hitsWithin, hitsOf]
    · simp [opened, underWay]
  | @tail before after _ step ih =>
    obtain ⟨step, few⟩ := step
    obtain ⟨sound, bounded, shut⟩ := ih
    obtain ⟨next, later, moves⟩ := step.moves sound
    refine ⟨next, fun room some => ?_, fun nothing => ?_⟩
    · refine (bounded room some).moves moves (next.window.trans sound.window.symm) later few ?_
      rw [sound.maxRequests]
      omega
    · exact (shut nothing).moves moves (sound.maxRequests.trans nothing)

/-- Of admissions that are begun and answered in any order, the limiter being purged in between,
let no more than so many of a user be under way at once. Then at any time the hits of that user in
the window are no more than the limit and so many less one; and under a limit of nothing, nobody is
ever admitted. -/
theorem overshoot_bounded {user : UserId} {overlap : Nat} (some : 1 ≤ overlap)
    (run : Run service user overlap (opened maxRequests window) rush) :
    (1 ≤ maxRequests →
        ∀ now, (rush.hitsWithin user now).length ≤ maxRequests + overlap - 1)
      ∧ (maxRequests = 0 → rush.hits = []
        ∧ ∀ attempt ∈ rush.attempts, ∀ created, attempt.rest ≠ .done (.ok created)) := by
  obtain ⟨sound, bounded, shut⟩ := run.kept
  refine ⟨fun room => (bounded room some).within, fun nothing => ⟨(shut nothing).hits, ?_⟩⟩
  intro attempt member created ends
  have settled := sound.limited attempt member
  rw [Attempt.IsLimited, ends] at settled
  exact sound.counted attempt member settled.2 (shut nothing).hits

section

def serve (respond : (request : Request) → request.Answer) (store : Store) (rush : Rush)
    (index : Nat) : Rush :=
  match rush.attempts[index]? with
  | some ⟨user, log, .ask request resume⟩ =>
    let instant := rush.now + Duration.ofMillis 1
    let (answer, next) :=
      Engine.react ⟨store, rush.limiter⟩ respond ⟨true, ⟨0, 0⟩, instant, ⟨.ofNat 1⟩⟩ request
    rush.answered index ⟨user, log ++ [⟨⟨0, 0⟩, request, answer⟩], resume answer⟩ request instant
      next.limiter
  | _ => rush

/-- Answer attempts in turn. A turn by which too many would be under way is passed over. -/
def play (respond : (request : Request) → request.Answer) (store : Store) (user : UserId)
    (overlap : Nat) (rush : Rush) (turns : List Nat) : Rush :=
  turns.foldl (fun rush index =>
    let next := rush.serve respond store index
    if next.underWay user ≤ overlap then next else rush) rush

theorem run_play {user : UserId} {overlap : Nat} {respond : (request : Request) → request.Answer}
    {store : Store} {turns : List Nat} :
    Run service user overlap rush (rush.play respond store user overlap turns) := by
  induction turns generalizing rush with
  | nil => exact .refl
  | cons index rest ih =>
    refine .trans ?_ ih
    dsimp only
    split
    · rename_i few
      unfold serve at few ⊢
      split
      · rename_i attempt owner log request resume present
        rw [present] at few
        have reacts := Engine.reacts_react ⟨store, rush.limiter⟩ respond
          ⟨true, ⟨0, 0⟩, rush.now + Duration.ofMillis 1, ⟨.ofNat 1⟩⟩ request
        exact .single ⟨.answers present (Nat.le_add_right _ _) reacts.2, few⟩
      · exact .refl
    · exact .refl

def bothBegun : Rush :=
  { opened 1 (Duration.ofMillis 60000) with
    attempts := [.begun plain caller wish, .begun plain caller wish] }

def bothServed : Rush :=
  bothBegun.play (Interleaving.obliging photo ⟨.ofNat 6⟩) novice.store caller 2
    [0, 1, 0, 0, 0, 0, 0, 0, 1, 1, 1, 1, 1, 1]

theorem overshoot_bounded_when_both_pass :
    1 ≤ 2 ∧ (bothServed.hitsWithin caller bothServed.now).length = 2
      ∧ (bothServed.hitsWithin caller bothServed.now).length ≤ 1 + 2 - 1 := by
  have begins : Run plain caller 2 (opened 1 (Duration.ofMillis 60000)) bothBegun := by
    refine .tail (.single ⟨.begins caller wish, ?_⟩) ⟨.begins caller wish, ?_⟩ <;> decide +kernel
  have run : Run plain caller 2 (opened 1 (Duration.ofMillis 60000)) bothServed :=
    begins.trans run_play
  exact ⟨by decide, by decide +kernel,
    (overshoot_bounded (by decide) run).1 (Nat.le_refl 1) bothServed.now⟩

end

end Rush

end Admission

end TryOn
