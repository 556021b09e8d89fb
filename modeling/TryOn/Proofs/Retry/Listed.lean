import TryOn.Proofs.Retry.Clockwork
import TryOn.Proofs.Text.FinalSigma

/-! Failures that are judged by the patterns a policy lists. A pattern that stands in a message as
it is written is found there as long as both are lower-cased alike, which depends on the capital
sigmas of the pattern alone. -/

set_option autoImplicit false

namespace TryOn.Retry

open Text (lowerCase contains lowerFrom KeepsForms SettlesSigmas)

namespace Policy

variable {policy : Policy} {pattern message : String}

theorem matchesAny_iff {patterns : List String} {lowered : String} :
    matchesAny patterns lowered = true
      ↔ ∃ pattern ∈ patterns, pattern ≠ "" ∧ contains lowered (lowerCase pattern) = true := by
  simp [matchesAny]

theorem judgeText_of_terminal
    (matched : matchesAny policy.terminalPatterns (lowerCase message) = true) :
    policy.judgeText message = .terminal := by
  rw [judgeText, if_pos matched]

theorem judgeText_of_retryable
    (free : matchesAny policy.terminalPatterns (lowerCase message) = false)
    (matched : matchesAny policy.retryablePatterns (lowerCase message) = true) :
    policy.judgeText message = .retryable := by
  rw [judgeText, free, if_neg Bool.false_ne_true, matched, Bool.or_true, if_pos rfl]

theorem judge_of_untagged {ε : Type} [Failing ε] {failure : ε}
    (untagged : Failing.verdict? failure = none) :
    policy.judge failure = policy.judgeText (Failing.message failure) := by
  rw [judge, untagged, Option.getD_none]

end Policy

namespace Clockwork

variable {α ε : Type} [Failing ε] {clockwork : Clockwork α ε} {policy : Policy}

theorem run_of_terminal {attempt : Nat} {failure : ε}
    (failed : clockwork.results attempt = .error failure)
    (judged : policy.judge failure = .terminal)
    (reached : ∀ earlier < attempt, ¬ clockwork.EndsAt policy earlier)
    (idle : clockwork.isCancelledBy (clockwork.start policy attempt) = false) :
    clockwork.run policy
      = (.error (.terminal (attempt + 1) failure),
        ⟨clockwork.finish policy attempt, clockwork.calls policy (attempt + 1)⟩) := by
  have ends : clockwork.EndsAt policy attempt := by simp [EndsAt, failed, judged]
  have least : IsLeast {attempt | clockwork.EndsAt policy attempt} attempt :=
    ⟨ends, fun other too => Nat.not_lt.1 fun before => reached other before too⟩
  obtain ⟨made, conforms⟩ := conforms_run clockwork least
  have made' : attempt < made := (conforms.made_iff attempt (Nat.le_refl attempt)).2 idle
  obtain ⟨rfl, reported, time⟩ | ⟨early, -⟩ := conforms.result
  · refine Prod.ext (reported.trans ?_) (Timeline.mk.injEq .. ▸ ⟨time, conforms.calls⟩)
    simp [report, failed, judged]
  · exact absurd made' (Nat.not_lt.2 early)

end Clockwork

structure Recognises (policy : Policy) (pattern message : String) : Prop where
  terminal : pattern ∈ policy.terminalPatterns → policy.judgeText message = .terminal
  /-- Unless a terminal pattern matches as well. -/
  retryable : pattern ∈ policy.retryablePatterns →
    Policy.matchesAny policy.terminalPatterns (lowerCase message) = false →
    policy.judgeText message = .retryable
  /-- No attempt follows one that has failed so, without a verdict of its own. -/
  last : pattern ∈ policy.terminalPatterns →
    ∀ {α ε : Type} [Failing ε] (clockwork : Clockwork α ε) (attempt : Nat) (failure : ε),
      clockwork.results attempt = .error failure → Failing.message failure = message →
      Failing.verdict? failure = none →
      (∀ earlier < attempt, ¬ clockwork.EndsAt policy earlier) →
      clockwork.isCancelledBy (clockwork.start policy attempt) = false →
      clockwork.run policy
        = (.error (.terminal (attempt + 1) failure),
          ⟨clockwork.finish policy attempt, clockwork.calls policy (attempt + 1)⟩)

theorem recognises_of_contains {policy : Policy} {pattern message : String} (shown : pattern ≠ "")
    (found : contains (lowerCase message) (lowerCase pattern) = true) :
    Recognises policy pattern message := by
  have judged (listed : pattern ∈ policy.terminalPatterns) : policy.judgeText message = .terminal :=
    Policy.judgeText_of_terminal (Policy.matchesAny_iff.2 ⟨pattern, listed, shown, found⟩)
  refine ⟨judged, fun listed free => ?_, ?_⟩
  · have matched := Policy.matchesAny_iff.2 ⟨pattern, listed, shown, found⟩
    exact Policy.judgeText_of_retryable free matched
  · rintro listed α ε _ clockwork attempt failure failed rfl untagged reached idle
    have terminal := (Policy.judge_of_untagged untagged).trans (judged listed)
    exact Clockwork.run_of_terminal failed terminal reached idle

theorem contains_lowerCase_iff (message pattern : String) :
    contains (lowerCase message) (lowerCase pattern) = true
      ↔ lowerFrom [] pattern.toList <:+: lowerFrom [] message.toList := by
  simp [contains, lowerCase, Text.occursIn_iff]

def Policy.refusing (pattern : String) : Policy :=
  { Policy.fixed 3 0 with
    terminalPatterns := [pattern]
    retryablePatterns := [] }

theorem contains_of_judgeText_refusing {pattern message : String}
    (judged : (Policy.refusing pattern).judgeText message = .terminal) :
    contains (lowerCase message) (lowerCase pattern) = true := by
  have matched : Policy.matchesAny [pattern] (lowerCase message) = true := by
    by_contra free
    rw [Bool.not_eq_true] at free
    have retried : (Policy.refusing pattern).judgeText message = .retryable := by
      simp [Policy.judgeText, Policy.refusing, free, Policy.fixed, Policy.standard]
    rw [judged] at retried
    cases retried
  obtain ⟨_, member, -, found⟩ := Policy.matchesAny_iff.1 matched
  exact List.mem_singleton.1 member ▸ found

/-- A pattern that a policy lists is recognised in a message wherever it stands so that each of its
capital sigmas takes the form in lower case that it takes in the pattern alone. It is recognised in
all messages that it stands in exactly if its sigmas have their forms from the pattern itself, as
where there are none. -/
theorem listed_recognised_iff (pattern : String) (shown : pattern ≠ "") :
    (∀ policy before after, KeepsForms before.toList pattern.toList after.toList →
      Recognises policy pattern (before ++ pattern ++ after))
    ∧ ((∀ policy message, contains message pattern = true → Recognises policy pattern message)
      ↔ SettlesSigmas pattern.toList) := by
  have keeping (policy : Policy) (before after : String)
      (keeps : KeepsForms before.toList pattern.toList after.toList) :
      Recognises policy pattern (before ++ pattern ++ after) := by
    refine recognises_of_contains shown ((contains_lowerCase_iff _ _).2 ?_)
    simpa using Text.infix_of_keepsForms keeps
  refine ⟨keeping, ?_, fun settles policy message stands => ?_⟩
  · intro recognised
    refine (Text.settlesSigmas_iff _).2 fun before after => ?_
    -- A policy that lists only the pattern can recognise it in a message only by finding it there.
    let message := String.ofList (before ++ pattern.toList ++ after)
    have stands : contains message pattern = true :=
      (Text.occursIn_iff _ _).2 ⟨before, after, by simp [message]⟩
    have judged := (recognised (.refusing pattern) message stands).terminal List.mem_cons_self
    have found := (contains_lowerCase_iff _ _).1 (contains_of_judgeText_refusing judged)
    simpa [message] using found
  · obtain ⟨before, after, whole⟩ := (Text.occursIn_iff _ _).1 stands
    have same : message = String.ofList before ++ pattern ++ String.ofList after := by
      rw [← String.toList_inj]
      simp [whole]
    rw [same]
    exact keeping policy _ _ (settles.keepsForms _ _)

/-- A sigma between letters, and one between a letter and a mark, whatever stands around them. -/
theorem listed_recognised_with_mark :
    "ΣΟΦΟΣ!" ≠ "" ∧ ∀ policy message, contains message "ΣΟΦΟΣ!" = true →
      Recognises policy "ΣΟΦΟΣ!" message :=
  ⟨by decide, (listed_recognised_iff "ΣΟΦΟΣ!" (by decide)).2.2 (by decide +kernel)⟩

/-- A terminal pattern that ends with a sigma, in a message in which a letter follows: what is to be
given up at once is tried again. -/
theorem listed_unrecognised_before_letter :
    "ΑΣ" ∈ (Policy.refusing "ΑΣ").terminalPatterns ∧ contains "ΑΣΑ" "ΑΣ" = true
      ∧ (Policy.refusing "ΑΣ").judgeText "ΑΣΑ" = .retryable :=
  ⟨List.mem_cons_self, by decide +kernel, by decide +kernel⟩

end TryOn.Retry
