import TryOn.Proofs.Admission.Alone
import TryOn.Proofs.Admission.Gates

/-! Admissions that are called off while they look for an image. A lookup that is called off before
an attempt is reported as called off. One that is called off in the pause between two attempts
still holds the failure of the first of them, and that one is reported in its place: as if the
attempts had been used up, though there were fewer than the policy allows. -/

set_option autoImplicit false

namespace TryOn

namespace Exchange

def breaksOff : Exchange → Bool
  | ⟨_, .wait _ _, waited⟩ => !waited
  | _ => false

end Exchange

namespace Log

def isBrokenOff (log : Log) : Bool :=
  log.getLast?.any Exchange.breaksOff

theorem isBrokenOff_append (log : Log) {more : Log} (some : more ≠ []) :
    isBrokenOff (log ++ more) = isBrokenOff more := by
  unfold isBrokenOff
  rw [List.getLast?_append_of_ne_nil _ some]

theorem isBrokenOff_eq_false {log : Log} (none : ∀ exchange ∈ log, exchange.breaksOff = false) :
    isBrokenOff log = false := by
  unfold isBrokenOff
  cases last : log.getLast? with
  | none => rfl
  | some exchange => exact none exchange (List.mem_of_getLast? last)

end Log

namespace Retry

variable {α ε : Type} [Failing ε] {policy : Policy} {operation : Nat → Program (Except ε α)}

/-- The exchanges of a retried operation that can be called off, from an attempt on, with so many
left after it, and what it comes to by them. -/
inductive Runs (policy : Policy) (operation : Nat → Program (Except ε α)) :
    (left attempt : Nat) → Log → Except (Failure ε) α → Prop
  | cancelled {left attempt : Nat} (asked : Timestamp) :
    Runs policy operation left attempt [⟨asked, .isCancelled, true⟩]
      (.error (.cancelled attempt none))
  | succeeds {left attempt : Nat} {tries : Log} {value : α} (asked : Timestamp)
    (tried : (operation attempt).Yields tries (.ok value)) :
    Runs policy operation left attempt (⟨asked, .isCancelled, false⟩ :: tries) (.ok value)
  | terminal {left attempt : Nat} {tries : Log} {failure : ε} (asked : Timestamp)
    (tried : (operation attempt).Yields tries (.error failure))
    (judged : policy.judge failure = .terminal) :
    Runs policy operation left attempt (⟨asked, .isCancelled, false⟩ :: tries)
      (.error (.terminal (attempt + 1) failure))
  | exhausted {attempt : Nat} {tries : Log} {failure : ε} (asked : Timestamp)
    (tried : (operation attempt).Yields tries (.error failure))
    (judged : policy.judge failure = .retryable) :
    Runs policy operation 0 attempt (⟨asked, .isCancelled, false⟩ :: tries)
      (.error (.exhausted (attempt + 1) failure))
  | brokenOff {left attempt : Nat} {tries : Log} {failure : ε} (asked : Timestamp)
    (tried : (operation attempt).Yields tries (.error failure))
    (judged : policy.judge failure = .retryable) (draws : Log) (paused : Timestamp)
    (span : Duration) (stop : Stop) :
    Runs policy operation (left + 1) attempt
      (⟨asked, .isCancelled, false⟩ :: (tries ++ (draws ++ [⟨paused, .wait span stop, false⟩])))
      (.error (.cancelled (attempt + 1) (some failure)))
  | goesOn {left attempt : Nat} {tries more : Log} {failure : ε} {result : Except (Failure ε) α}
    (asked : Timestamp) (tried : (operation attempt).Yields tries (.error failure))
    (judged : policy.judge failure = .retryable) (draws : Log) (paused : Timestamp)
    (span : Duration) (stop : Stop)
    (onward : Runs policy operation left (attempt + 1) more result) :
    Runs policy operation (left + 1) attempt
      (⟨asked, .isCancelled, false⟩
        :: (tries ++ (draws ++ ⟨paused, .wait span stop, true⟩ :: more))) result

theorem runs_of_onward {left attempt : Nat} {log : Log} {result : Except (Failure ε) α}
    (onward : ∀ fewer more, left = fewer + 1 →
      (executeFrom (.ofProgram true) policy operation fewer (attempt + 1)).Yields more result →
      Runs policy operation fewer (attempt + 1) more result)
    (yields : (executeFrom (.ofProgram true) policy operation left attempt).Yields log result) :
    Runs policy operation left attempt log result := by
  unfold executeFrom at yields
  obtain ⟨_, _, called, rfl, asking, later⟩ := Program.yields_bind.1 yields
  clear yields
  -- The cases are those of the program: called off, done, hopeless, used up, or to be tried again.
  obtain _ | ⟨asked, ⟨⟩⟩ := asking
  cases called with
  | true =>
    cases later
    exact .cancelled asked
  | false =>
    obtain ⟨tries, _, outcome, rfl, tried, later⟩ := Program.yields_bind.1 later
    cases outcome with
    | ok value =>
      cases later
      rw [List.append_nil]
      exact .succeeds asked tried
    | error failure =>
      dsimp only at later
      cases judged : policy.judge failure with
      | terminal =>
        rw [judged] at later
        cases later
        rw [List.append_nil]
        exact .terminal asked tried judged
      | retryable =>
        rw [judged] at later
        cases left with
        | zero =>
          cases later
          rw [List.append_nil]
          exact .exhausted asked tried judged
        | succ left =>
          dsimp only at later
          obtain ⟨draws, _, draw, rfl, -, later⟩ := Program.yields_bind.1 later
          obtain ⟨_, more, waited, rfl, pausing, rest⟩ := Program.yields_bind.1 later
          clear later
          obtain _ | ⟨paused, ⟨⟩⟩ := pausing
          cases waited with
          | false =>
            cases rest
            exact .brokenOff asked tried judged draws paused _ _
          | true => exact .goesOn asked tried judged draws paused _ _ (onward left more rfl rest)

theorem runs_of_yields {left attempt : Nat} {log : Log} {result : Except (Failure ε) α}
    (yields : (executeFrom (.ofProgram true) policy operation left attempt).Yields log result) :
    Runs policy operation left attempt log result := by
  induction left generalizing attempt log with
  | zero => exact runs_of_onward (fun _ _ never => nomatch never) yields
  | succ left ih =>
    refine runs_of_onward (fun fewer more same later => ?_) yields
    cases same
    exact ih later

def FailsBy (policy : Policy) (allowed : Nat) (log : Log) : Failure ε → Prop
  | .terminal _ last => policy.judge last = .terminal
  | .exhausted attempts last =>
    attempts = allowed ∧ policy.judge last = .retryable ∧ log.isBrokenOff = false
  | .cancelled _ none => log.isBrokenOff = false
  | .cancelled attempts (some last) =>
    attempts < allowed ∧ policy.judge last = .retryable ∧ log.isBrokenOff = true

theorem FailsBy.append {allowed : Nat} {log : Log} {failure : Failure ε}
    (fails : FailsBy policy allowed log failure) (before : Log) (some : log ≠ []) :
    FailsBy policy allowed (before ++ log) failure := by
  rcases failure with ⟨attempts, last⟩ | ⟨attempts, last⟩ | ⟨attempts, _ | last⟩ <;>
    simpa only [FailsBy, Log.isBrokenOff_append before some] using fails

theorem Runs.ne_nil {left attempt : Nat} {log : Log} {result : Except (Failure ε) α}
    (runs : Runs policy operation left attempt log result) : log ≠ [] := by
  cases runs <;> exact List.cons_ne_nil _ _

theorem Runs.failsBy {left attempt : Nat} {log : Log} {failure : Failure ε}
    (unpaused : ∀ attempt tries outcome, (operation attempt).Yields tries outcome →
      ∀ exchange ∈ tries, exchange.breaksOff = false)
    (runs : Runs policy operation left attempt log (.error failure)) :
    FailsBy policy (attempt + left + 1) log failure := by
  generalize ended : Except.error failure = result at runs
  induction runs with
  | cancelled asked =>
    cases ended
    rfl
  | succeeds _ _ => cases ended
  | terminal _ _ judged =>
    cases ended
    exact judged
  | exhausted asked tried judged =>
    cases ended
    refine ⟨rfl, judged, Log.isBrokenOff_eq_false (List.forall_mem_cons.2 ⟨rfl, ?_⟩)⟩
    exact unpaused _ _ _ tried
  | brokenOff asked tried judged draws paused span stop =>
    cases ended
    refine ⟨by omega, judged, ?_⟩
    rw [← List.append_assoc, ← List.cons_append, Log.isBrokenOff_append _ (List.cons_ne_nil _ _)]
    rfl
  | @goesOn left attempt tries more _ _ asked tried judged draws paused span stop onward ih =>
    -- The rest is never silent, so the whole ends as the rest does.
    have fails := (ih ended).append (⟨asked, .isCancelled, false⟩ :: (tries ++ (draws
      ++ [⟨paused, .wait span stop, true⟩]))) onward.ne_nil
    have same : attempt + 1 + left + 1 = attempt + (left + 1) + 1 := by omega
    rw [same] at fails
    simpa only [List.cons_append, List.append_assoc, List.nil_append] using fails

end Retry

namespace Admission

variable {service : Service} {user : UserId} {request : AdmissionRequest} {log before part : Log}
  {id : ImageId}

theorem ofLookup_eq_of_failsBy {policy : Retry.Policy} {allowed : Nat}
    {stopped : Retry.Failure ImageError} (fails : Retry.FailsBy policy allowed part stopped) :
    (Failure.ofLookup stopped = .cancelled
        ∧ stopped.isCancelled = true ∧ part.isBrokenOff = false)
      ∨ (∃ reason, Failure.ofLookup stopped = .retryExhausted stopped.attempts reason
        ∧ ((stopped.attempts = allowed ∧ stopped.isCancelled = false ∧ part.isBrokenOff = false)
          ∨ (stopped.attempts < allowed ∧ stopped.isCancelled = true ∧ part.isBrokenOff = true)))
      ∨ (stopped.isCancelled = false
        ∧ ((∃ reason, Failure.ofLookup stopped = .invalidImage reason)
          ∨ ∃ reason, Failure.ofLookup stopped = .accessDenied reason)) := by
  rcases stopped with ⟨attempts, last⟩ | ⟨attempts, last⟩ | ⟨attempts, _ | last⟩
  · cases last with
    | notFound image => exact .inr (.inr ⟨rfl, .inl ⟨_, rfl⟩⟩)
    | denied image user => exact .inr (.inr ⟨rfl, .inr ⟨_, rfl⟩⟩)
    | unavailable reason => cases (fails : Retry.Verdict.retryable = .terminal)
  · obtain ⟨all, judged, ended⟩ := fails
    cases last with
    | notFound _ | denied _ _ => cases judged
    | unavailable reason => exact .inr (.inl ⟨_, rfl, .inl ⟨all, rfl, ended⟩⟩)
  · exact .inl ⟨rfl, rfl, fails⟩
  · obtain ⟨fewer, judged, ended⟩ := fails
    cases last with
    | notFound _ | denied _ _ => cases judged
    | unavailable reason => exact .inr (.inl ⟨_, rfl, .inr ⟨fewer, rfl, ended⟩⟩)

theorem failsBy_lookUp {stopped : Retry.Failure ImageError}
    (yields : (service.lookUp id).Yields part (.error stopped)) :
    Retry.FailsBy (service.policies.get Service.imagesPolicy)
      (max 1 (service.policies.get Service.imagesPolicy).maxAttempts) part stopped := by
  have runs := (Retry.runs_of_yields yields).failsBy fun attempt tries outcome tried => by
    obtain _ | ⟨moment, ⟨⟩⟩ := tried
    simp [Exchange.breaksOff]
  have allowed : 0 + ((service.policies.get Service.imagesPolicy).maxAttempts - 1) + 1
      = max 1 (service.policies.get Service.imagesPolicy).maxAttempts := by omega
  rwa [allowed] at runs

/-- The exchanges after which an admission looks for an image: those of the gates before. -/
inductive LooksUp (service : Service) (user : UserId) (request : AdmissionRequest) :
    Log → ImageId → Prop
  | source {before : Log} {heard : Hearing}
    (passes : Passes service user request [.rateLimit] heard before) :
    LooksUp service user request before request.source
  | target {before : Log} {heard : Hearing}
    (passes : Passes service user request [.rateLimit, .sourceFound, .sourceOwned] heard before) :
    LooksUp service user request before request.target

theorem Passes.nil {heard : Hearing} (passes : Passes service user request [] heard before) :
    before = [] ∧ heard = {} := by
  generalize none : ([] : List Gate) = gates at passes
  cases passes with
  | nothing => exact ⟨rfl, rfl⟩
  | next _ _ _ => simp at none

theorem Passes.rateLimit {heard : Hearing}
    (passes : Passes service user request [.rateLimit] heard before) :
    ∃ moment, before = [⟨moment, .checkRate user, .ok ()⟩] := by
  have passes : Passes service user request ([] ++ [.rateLimit]) heard before := passes
  obtain ⟨_, _, _, rfl, sofar, hears, agrees⟩ := passes.last
  obtain ⟨rfl, rfl⟩ := sofar.nil
  cases hears with
  | nobody _ looks => exact absurd looks (by decide)
  | limiter _ moment answer =>
    cases answer with
    | error refusal => cases agrees
    | ok value => exact ⟨moment, rfl⟩

theorem Passes.sourceOwned {heard : Hearing}
    (passes : Passes service user request [.rateLimit, .sourceFound, .sourceOwned] heard before) :
    ∃ moment found image, before = ⟨moment, .checkRate user, .ok ()⟩ :: found
      ∧ (service.lookUp request.source).Yields found (.ok image)
      ∧ image.isOwnedBy user = true := by
  have passes : Passes service user request ([.rateLimit, .sourceFound] ++ [.sourceOwned]) heard
    before := passes
  obtain ⟨_, _, _, rfl, sofar, hears, owned⟩ := passes.last
  have sofar : Passes service user request ([.rateLimit] ++ [.sourceFound]) _ _ := sofar
  obtain ⟨_, _, _, rfl, allowed, looked, found⟩ := sofar.last
  obtain ⟨moment, rfl⟩ := allowed.rateLimit
  cases hears with
  | nobody _ _ =>
    cases looked with
    | nobody _ looks => exact absurd looks (by decide)
    | @source _ _ looked yields =>
      cases looked with
      | error failure => cases found
      | ok image =>
        refine ⟨moment, _, image, by simp, yields, ?_⟩
        simpa [Gate.objection?, Image.isOwnedBy] using owned

theorem resolveImage_yields {looked : Except (Retry.Failure ImageError) Image}
    (yields : (service.lookUp id).Yields part looked) :
    (service.resolveImage id).Yields part (looked.mapError .ofLookup) := by
  have told : Action.Yields (Action.orFail .ofLookup looked) [] (looked.mapError .ofLookup) := by
    cases looked <;> exact .done _
  have both := (Action.Yields.of_lift yields).bind_of_ok told
  rwa [List.append_nil] at both

theorem LooksUp.yields (looksUp : LooksUp service user request before id)
    {stopped : Retry.Failure ImageError}
    (yields : (service.lookUp id).Yields part (.error stopped)) :
    (service.admission user request).Yields (before ++ part) (.error (.ofLookup stopped)) := by
  have failed := resolveImage_yields yields
  unfold Service.admission
  cases looksUp with
  | source passes =>
    obtain ⟨moment, rfl⟩ := passes.rateLimit
    refine .bind_of_ok (.of_lift (.ask moment (.done _))) ?_
    simp only [Action.orFail, pure_bind]
    exact failed.bind_of_error
  | target passes =>
    obtain ⟨moment, found, image, rfl, looked, owned⟩ := passes.sourceOwned
    show Action.Yields _ ([⟨moment, .checkRate user, .ok ()⟩] ++ (found ++ part)) _
    refine .bind_of_ok (.of_lift (.ask moment (.done _))) ?_
    simp only [Action.orFail, pure_bind]
    refine (resolveImage_yields looked).bind_of_ok ?_
    simp only [owned, Bool.not_true, Bool.false_eq_true, if_false]
    exact failed.bind_of_error

theorem Gate.passed_eq {gate : Gate} {passed rest : List Gate}
    (order : Gate.all = passed ++ gate :: rest) : passed = Gate.all.takeWhile (· ≠ gate) := by
  have distinct : (passed ++ gate :: rest).Nodup := order ▸ by decide
  have apart : ∀ other ∈ passed, decide (other ≠ gate) = true := fun other member =>
    decide_eq_true ((List.nodup_append.1 distinct).2.2 other member gate List.mem_cons_self)
  rw [order, List.takeWhile_append_of_pos apart, List.takeWhile_cons_of_neg (by simp),
    List.append_nil]

theorem Gate.objection_of_looks {gate : Gate} {heard : Hearing} {failure : Failure}
    (looks : gate ∈ [.sourceOwned, .targetUsable, .distinctImages, .style])
    (objects : gate.objection? user request heard = some failure) :
    (∃ reason, failure = .accessDenied reason) ∨ ∃ reason, failure = .invalidRequest reason := by
  simp only [List.mem_cons, List.not_mem_nil, or_false] at looks
  rcases looks with rfl | rfl | rfl | rfl <;> unfold Gate.objection? at objects <;>
    dsimp only at objects
  · split at objects
    · split at objects <;> cases objects
      exact .inl ⟨_, rfl⟩
    · cases objects
  · split at objects
    · split at objects <;> cases objects
      exact .inl ⟨_, rfl⟩
    · cases objects
  · split at objects <;> cases objects
    exact .inr ⟨_, rfl⟩
  · unfold objection at objects
    split at objects <;> cases objects
    exact .inr ⟨_, rfl⟩

/-- An admission reports that it was called off, or that it tried as often as allowed, only because
it looked for an image. -/
theorem exists_looksUp {failure : Failure}
    (yields : (service.admission user request).Yields log (.error failure))
    (about : failure = .cancelled ∨ ∃ attempts reason, failure = .retryExhausted attempts reason) :
    ∃ before part id stopped, LooksUp service user request before id ∧ log = before ++ part
      ∧ (service.lookUp id).Yields part (.error stopped) ∧ failure = .ofLookup stopped := by
  obtain @⟨passed, rest, gate, heard, hearing, before, part, _, order, sofar, hears, objects⟩ :
    Objects service user request log failure := decides_admission yields
  have front := Gate.passed_eq order
  cases hears with
  | limiter _ moment answer =>
    cases answer <;> cases objects
    obtain ⟨⟨⟩⟩ | ⟨_, _, ⟨⟩⟩ := about
  | @source _ _ looked found =>
    obtain rfl : passed = [.rateLimit] := front
    cases looked <;> cases objects
    exact ⟨before, part, _, _, .source sofar, rfl, found, rfl⟩
  | @target _ _ looked found =>
    obtain rfl : passed = [.rateLimit, .sourceFound, .sourceOwned] := front
    cases looked <;> cases objects
    exact ⟨before, part, _, _, .target sofar, rfl, found, rfl⟩
  | store _ moment answer =>
    cases answer <;> cases objects
    rename_i refused
    cases refused <;> obtain ⟨⟨⟩⟩ | ⟨_, _, ⟨⟩⟩ := about
  | nobody _ looks =>
    obtain ⟨_, rfl⟩ | ⟨_, rfl⟩ := Gate.objection_of_looks looks objects <;>
      obtain ⟨⟨⟩⟩ | ⟨_, _, ⟨⟩⟩ := about

/-- Whenever a lookup of an admission is called off, the admission is reported as called off unless
that happened in a pause between two attempts. Then it is reported as having used up its attempts,
with fewer of them than the policy allows; and this is the only case in which so many are not told.
-/
theorem cancellation_reported_iff (service : Service) (user : UserId) (request : AdmissionRequest) :
    (∀ before part id stopped, LooksUp service user request before id →
      (service.lookUp id).Yields part (.error stopped) → stopped.isCancelled = true →
        (service.admission user request).Yields (before ++ part) (.error (.ofLookup stopped))
          ∧ (Failure.ofLookup stopped = .cancelled ↔ part.isBrokenOff = false)
          ∧ (part.isBrokenOff = true →
            (∃ reason, Failure.ofLookup stopped = .retryExhausted stopped.attempts reason)
              ∧ stopped.attempts < max 1 (service.policies.get Service.imagesPolicy).maxAttempts))
      ∧ ∀ log attempts reason,
        (service.admission user request).Yields log (.error (.retryExhausted attempts reason)) →
          (attempts = max 1 (service.policies.get Service.imagesPolicy).maxAttempts
            ↔ log.isBrokenOff = false) := by
  constructor
  · intro before part id stopped looksUp found called
    refine ⟨looksUp.yields found, ?_⟩
    obtain ⟨told, -, ended⟩ | ⟨reason, told, ⟨-, other, -⟩ | ⟨fewer, -, ended⟩⟩ | ⟨other, -⟩ :=
      ofLookup_eq_of_failsBy (failsBy_lookUp found)
    · exact ⟨iff_of_true told ended, fun broken => by simp [ended] at broken⟩
    · simp [called] at other
    · rw [told]
      exact ⟨iff_of_false nofun (by simp [ended]), fun _ => ⟨⟨reason, rfl⟩, fewer⟩⟩
    · simp [called] at other
  · intro log attempts reason yields
    obtain ⟨before, part, id, stopped, looksUp, rfl, found, same⟩ :=
      exists_looksUp yields (.inr ⟨attempts, reason, rfl⟩)
    rw [Log.isBrokenOff_append before (Retry.runs_of_yields found).ne_nil]
    rcases ofLookup_eq_of_failsBy (failsBy_lookUp found) with
      ⟨told, -⟩ | ⟨_, told, counted⟩ | ⟨-, ⟨_, told⟩ | ⟨_, told⟩⟩ <;> cases same.trans told
    obtain ⟨all, -, ended⟩ | ⟨fewer, -, ended⟩ := counted
    · exact iff_of_true all ended
    · exact iff_of_false (Nat.ne_of_lt fewer) (by simp [ended])

section

open Engine (play yields_play)

/-- The image service is out of reach, and the caller does not wait for a second attempt. -/
def outOfReach (request : Request) : request.Answer :=
  match request with
  | .image _ => .error (.unavailable "x")
  | .wait _ _ => false
  | request => Interleaving.obliging ⟨⟨.ofNat 3⟩, .vendor, .shown⟩ ⟨.ofNat 6⟩ request

def wanted : AdmissionRequest := ⟨⟨.ofNat 3⟩, ⟨.ofNat 4⟩, none⟩

def threeAttempts : Service := ⟨.ofFallback (.fixed 3 50), {}, false⟩

def interrupted : Engine.Played (Except (Retry.Failure ImageError) Image) :=
  play outOfReach ⟨true, ⟨0, 0⟩, 0, ⟨.ofNat 9⟩⟩ (threeAttempts.lookUp wanted.source)
    (.opened ⟨"free", 1⟩ 3 (Duration.ofMillis 60000))

/-- An admission is called off in the pause after the first of three attempts. -/
theorem used_up_after_one_of_three :
    (threeAttempts.policies.get Service.imagesPolicy).maxAttempts = 3
      ∧ ∃ before part, LooksUp threeAttempts ⟨.ofNat 1⟩ wanted before wanted.source
        ∧ (threeAttempts.lookUp wanted.source).Yields part
          (.error (.cancelled 1 (some (.unavailable "x"))))
        ∧ (threeAttempts.admission ⟨.ofNat 1⟩ wanted).Yields (before ++ part)
          (.error (.retryExhausted 1 "image service unavailable: x")) := by
  have ended : interrupted.result = .error (.cancelled 1 (some (.unavailable "x"))) := by
    decide +kernel
  have found : (threeAttempts.lookUp wanted.source).Yields
      (Occurrence.own interrupted.occurrences)
      (.error (.cancelled 1 (some (.unavailable "x")))) := by
    rw [← ended]
    exact yields_play rfl _ _
  have passes : Passes threeAttempts ⟨.ofNat 1⟩ wanted [.rateLimit] _ _ :=
    Passes.nothing.next (.limiter {} ⟨0, 0⟩ (.ok ())) rfl
  exact ⟨rfl, _, _, .source passes, found, LooksUp.yields (.source passes) found⟩

end

end Admission

end TryOn
