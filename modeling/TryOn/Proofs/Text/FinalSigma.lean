import Mathlib.Data.List.Infix
import TryOn.Text.LowerCase

/-! Lower-casing a part of a text. Away from capital sigmas a part becomes the same wherever it
stands. A capital sigma looks around itself, on each side up to the first character that is not
case-ignorable; where the part has no such character, its form is told by what is around the
part. -/

set_option autoImplicit false

namespace TryOn.Text

/-- Lower-case a part of a text that stands behind `before`, in reverse, and in front of `after`. -/
def lowerBetween (before after : List Char) : List Char → List Char
  | [] => []
  | c :: rest =>
    (if c = 'Σ' then [lowerSigma before (rest ++ after)] else lowerExpansion c)
      ++ lowerBetween (c :: before) after rest

theorem lowerFrom_append (before part after : List Char) :
    lowerFrom before (part ++ after)
      = lowerBetween before after part ++ lowerFrom (part.reverse ++ before) after := by
  induction part generalizing before with
  | nil => rfl
  | cons c rest ih => simp [lowerFrom, lowerBetween, ih]

theorem lowerBetween_nil (before part : List Char) :
    lowerBetween before [] part = lowerFrom before part := by
  have whole := lowerFrom_append before part []
  rw [List.append_nil, lowerFrom, List.append_nil] at whole
  exact whole.symm

/-- What is around a part matters to it by the forms of its sigmas alone. -/
theorem lowerBetween_congr {before before' after after' part : List Char}
    (same : ∀ early late, part = early ++ 'Σ' :: late →
      lowerSigma (early.reverse ++ before) (late ++ after)
        = lowerSigma (early.reverse ++ before') (late ++ after')) :
    lowerBetween before after part = lowerBetween before' after' part := by
  induction part generalizing before before' with
  | nil => rfl
  | cons c rest ih =>
    have later : lowerBetween (c :: before) after rest = lowerBetween (c :: before') after' rest :=
      ih fun early late split => by
        simpa using same (c :: early) late (congrArg (c :: ·) split)
    by_cases sigma : c = 'Σ'
    · subst sigma
      have here : lowerSigma before (rest ++ after) = lowerSigma before' (rest ++ after') :=
        same [] rest rfl
      simp only [lowerBetween, here, later]
    · simp only [lowerBetween, if_neg sigma, later]

/-- Whether a text has a character that is not case-ignorable. The first one tells whether a cased
letter is met, whatever follows it. -/
def hasTelling (chars : List Char) : Bool :=
  chars.any fun c => !isCaseIgnorable c

theorem meetsCasedLetter_append (first rest : List Char) :
    meetsCasedLetter (first ++ rest)
      = if hasTelling first then meetsCasedLetter first else meetsCasedLetter rest := by
  induction first with
  | nil => rfl
  | cons c first ih =>
    cases ignorable : isCaseIgnorable c with
    | true => simpa [meetsCasedLetter, hasTelling, ignorable] using ih
    | false => simp [meetsCasedLetter, hasTelling, ignorable]

theorem meetsCasedLetter_of_not_hasTelling {chars : List Char}
    (silent : hasTelling chars = false) : meetsCasedLetter chars = false := by
  have all := meetsCasedLetter_append chars []
  rw [silent, if_neg Bool.false_ne_true, List.append_nil] at all
  exact all

/-- Whether the form of a sigma is told by what is closest to it: by a cased letter behind it, or
by what is before it, together with what is behind it if a cased letter is before it. -/
def isSettled (before after : List Char) : Bool :=
  meetsCasedLetter after || (hasTelling before && (hasTelling after || !meetsCasedLetter before))

/-- Nothing further off moves a sigma that is settled. -/
theorem lowerSigma_of_isSettled {before after : List Char}
    (settled : isSettled before after = true) (lead trail : List Char) :
    lowerSigma (before ++ lead) (after ++ trail) = lowerSigma before after := by
  unfold lowerSigma
  rw [meetsCasedLetter_append, meetsCasedLetter_append]
  cases front : hasTelling before <;> cases back : hasTelling after <;>
    simp_all [isSettled, meetsCasedLetter_of_not_hasTelling]

/-- The form of every capital sigma of a text is told by the text itself. -/
def SettlesSigmas (chars : List Char) : Prop :=
  ∀ early late, chars = early ++ 'Σ' :: late → isSettled early.reverse late = true

def settlesFrom (before : List Char) : List Char → Bool
  | [] => true
  | c :: rest => (c != 'Σ' || isSettled before rest) && settlesFrom (c :: before) rest

theorem settlesFrom_iff (before chars : List Char) :
    settlesFrom before chars = true
      ↔ ∀ early late, chars = early ++ 'Σ' :: late →
        isSettled (early.reverse ++ before) late = true := by
  induction chars generalizing before with
  | nil => simp [settlesFrom]
  | cons c rest ih =>
    rw [settlesFrom, Bool.and_eq_true, ih]
    constructor
    · rintro ⟨here, later⟩ early late split
      cases early with
      | nil =>
        obtain ⟨rfl, rfl⟩ := List.cons.inj split
        simpa using here
      | cons head early =>
        obtain ⟨rfl, same⟩ := List.cons.inj split
        simpa using later early late same
    · intro settled
      refine ⟨?_, fun early late split => ?_⟩
      · by_cases sigma : c = 'Σ'
        · subst sigma
          simpa using settled [] rest rfl
        · simp [sigma]
      · simpa using settled (c :: early) late (congrArg (List.cons c) split)

instance (chars : List Char) : Decidable (SettlesSigmas chars) :=
  decidable_of_iff (settlesFrom [] chars = true) (by simp [settlesFrom_iff, SettlesSigmas])

def KeepsForms (before part after : List Char) : Prop :=
  ∀ early late, part = early ++ 'Σ' :: late →
    lowerSigma (early.reverse ++ before.reverse) (late ++ after) = lowerSigma early.reverse late

theorem SettlesSigmas.keepsForms {part : List Char} (settles : SettlesSigmas part)
    (before after : List Char) : KeepsForms before part after :=
  fun early late split => lowerSigma_of_isSettled (settles early late split) _ _

theorem infix_of_keepsForms {before part after : List Char} (keeps : KeepsForms before part after) :
    lowerFrom [] part <:+: lowerFrom [] (before ++ part ++ after) := by
  have alone : lowerBetween before.reverse after part = lowerFrom [] part := by
    rw [← lowerBetween_nil]
    refine lowerBetween_congr fun early late split => ?_
    rw [List.append_nil, List.append_nil]
    exact keeps early late split
  rw [List.append_assoc, lowerFrom_append, List.append_nil, lowerFrom_append, alone]
  exact ⟨_, _, List.append_assoc _ _ _⟩

section Unsettled

theorem isCaseIgnorable_sigma : isCaseIgnorable 'Σ' = false := by decide +kernel

theorem meetsCasedLetter_letter : meetsCasedLetter ['a'] = true := by decide +kernel

theorem lowerExpansion_letter : lowerExpansion 'a' = ['a'] := by decide +kernel

theorem meetsCasedLetter_append_sigma (near far : List Char) :
    meetsCasedLetter (near ++ 'Σ' :: far) = meetsCasedLetter (near ++ ['Σ']) := by
  have telling : hasTelling (near ++ ['Σ']) = true := by
    simp [hasTelling, isCaseIgnorable_sigma]
  have first := meetsCasedLetter_append (near ++ ['Σ']) far
  rwa [telling, if_pos rfl, List.append_assoc] at first

theorem lowerFrom_sigma (before early late : List Char) :
    lowerFrom before (early ++ 'Σ' :: late)
      = lowerBetween before ['Σ'] early ++ lowerSigma (early.reverse ++ before) late
          :: lowerFrom ['Σ'] late := by
  have front : lowerBetween before ('Σ' :: late) early = lowerBetween before ['Σ'] early := by
    refine lowerBetween_congr fun _ rest _ => ?_
    unfold lowerSigma
    rw [meetsCasedLetter_append_sigma rest late]
  have back : lowerFrom ('Σ' :: (early.reverse ++ before)) late = lowerFrom ['Σ'] late := by
    rw [← lowerBetween_nil, ← lowerBetween_nil]
    refine lowerBetween_congr fun first _ _ => ?_
    unfold lowerSigma
    rw [meetsCasedLetter_append_sigma first.reverse]
  rw [lowerFrom_append, front, lowerFrom, if_pos rfl, back]
  rfl

theorem not_infix_of_count_lt {part whole : List Char} (c : Char)
    (fewer : whole.count c < part.count c) : ¬ part <:+: whole :=
  fun inside => Nat.not_le.2 fewer (inside.sublist.count_le c)

variable {early late : List Char}

/-- A sigma that has nothing telling before it, and no letter behind it, becomes a final one behind
a letter. -/
theorem not_infix_behind_letter (front : hasTelling early = false)
    (back : meetsCasedLetter late = false) :
    ¬ lowerFrom [] (early ++ 'Σ' :: late) <:+: lowerFrom [] (['a'] ++ (early ++ 'Σ' :: late)) := by
  have reversed : hasTelling early.reverse = false := by
    simpa [hasTelling] using front
  have alone : lowerSigma early.reverse late = 'σ' := by
    simp [lowerSigma, meetsCasedLetter_of_not_hasTelling reversed]
  have final : lowerSigma (early.reverse ++ ['a']) late = 'ς' := by
    simp [lowerSigma, meetsCasedLetter_append, reversed, back, meetsCasedLetter_letter]
  have same : lowerBetween ['a'] ['Σ'] early = lowerBetween [] ['Σ'] early := by
    refine lowerBetween_congr fun first rest split => ?_
    rw [split] at front
    simp [hasTelling, isCaseIgnorable_sigma] at front
  have shifted : lowerFrom [] (['a'] ++ (early ++ 'Σ' :: late))
      = 'a' :: lowerFrom ['a'] (early ++ 'Σ' :: late) := by
    simp [lowerFrom, lowerExpansion_letter]
  -- All else is as it was, so there is one medial sigma too few.
  rw [shifted, lowerFrom_sigma, lowerFrom_sigma, List.append_nil, alone, final, same]
  refine not_infix_of_count_lt 'σ' ?_
  simp

theorem not_infix_before_letter (front : meetsCasedLetter early.reverse = true)
    (back : hasTelling late = false) :
    ¬ lowerFrom [] (early ++ 'Σ' :: late) <:+: lowerFrom [] (early ++ 'Σ' :: (late ++ ['a'])) := by
  have alone : lowerSigma early.reverse late = 'ς' := by
    simp [lowerSigma, front, meetsCasedLetter_of_not_hasTelling back]
  have medial : lowerSigma early.reverse (late ++ ['a']) = 'σ' := by
    simp [lowerSigma, meetsCasedLetter_append, back, meetsCasedLetter_letter]
  have same : lowerBetween ['Σ'] ['a'] late = lowerFrom ['Σ'] late := by
    rw [← lowerBetween_nil]
    refine lowerBetween_congr fun first rest split => ?_
    rw [split] at back
    simp [hasTelling, isCaseIgnorable_sigma] at back
  have longer : lowerFrom ['Σ'] (late ++ ['a']) = lowerFrom ['Σ'] late ++ ['a'] := by
    rw [lowerFrom_append, same]
    simp [lowerFrom, lowerExpansion_letter]
  rw [lowerFrom_sigma, lowerFrom_sigma, List.append_nil, alone, medial, longer]
  refine not_infix_of_count_lt 'ς' ?_
  simp

/-- What is lower-cased alone is found wherever it stands exactly if it settles its sigmas. -/
theorem settlesSigmas_iff (part : List Char) :
    SettlesSigmas part
      ↔ ∀ before after, lowerFrom [] part <:+: lowerFrom [] (before ++ part ++ after) := by
  constructor
  · exact fun settles before after => infix_of_keepsForms (settles.keepsForms before after)
  · rintro found early late rfl
    by_contra unsettled
    -- What tells the form of this sigma is either before the part or behind it: a letter there
    -- gives it the other form.
    cases front : hasTelling early.reverse with
    | false =>
      have back : meetsCasedLetter late = false := by
        simpa [isSettled, front] using unsettled
      have alone : hasTelling early = false := by simpa [hasTelling] using front
      refine not_infix_behind_letter alone back ?_
      simpa using found ['a'] []
    | true =>
      have around : meetsCasedLetter early.reverse = true ∧ hasTelling late = false := by
        cases near : meetsCasedLetter early.reverse <;> cases behind : hasTelling late <;>
          simp_all [isSettled]
      refine not_infix_before_letter around.1 around.2 ?_
      simpa using found [] ['a']

end Unsettled

end TryOn.Text
