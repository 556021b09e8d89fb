import Mathlib
import TryOn.Proofs.Settings.LetterCase

/-! Which paths keys have, and which key a path comes from. A path differs from its key in a few
dots, each in place of an underscore, so that a key without dots is told by its path. -/

set_option autoImplicit false

namespace TryOn

namespace Text

def undotted (chars : List Char) : List Char :=
  chars.map fun c => if c = '.' then '_' else c

theorem undotted_of_dotted {first second : List Char} (dotted : List.Forall₂ Dotted first second)
    (plain : '.' ∉ first) : undotted second = first := by
  induction dotted with
  | nil => rfl
  | @cons c d first second here later ih =>
    rw [List.mem_cons, not_or] at plain
    have head : (if d = '.' then '_' else d) = c := by
      -- Here is a character of the key, which is no dot, or an underscore that became one.
      rcases here with rfl | ⟨rfl, rfl⟩
      · exact if_neg (Ne.symm plain.1)
      · rfl
    exact congrArg₂ List.cons head (ih plain.2)

theorem undotted_lower (chars : List Char) : undotted (lower chars) = lower (undotted chars) := by
  simp only [undotted, lower, List.map_map]
  refine List.map_congr_left fun c _ => ?_
  by_cases dot : c = '.'
  · subst dot
    rfl
  · have other : c.toLower ≠ '.' := fun same => dot ((toLower_eq_iff (.inl (by decide))).1 same)
    simp [dot, other]

theorem dot_notMem_trimChars {chars : List Char} (plain : '.' ∉ chars) : '.' ∉ trimChars chars := by
  rw [← List.count_eq_zero, count_dot_trimChars]
  exact List.count_eq_zero.2 plain

theorem intercalate_splitAll {α : Type} [DecidableEq α] (mark : α) (items : List α) :
    List.intercalate [mark] (splitAll mark items) = items := by
  induction items with
  | nil => rfl
  | cons head tail ih =>
    cases pieces : splitAll mark tail with
    | nil => exact absurd pieces (splitAll_ne_nil mark tail)
    | cons piece rest =>
      rw [pieces] at ih
      by_cases same : head = mark
      · subst same
        rw [splitAll, if_pos rfl, pieces, List.intercalate_cons_cons, ih]
        rfl
      · rw [splitAll_cons_of_ne same, pieces]
        show List.intercalate [mark] ((head :: piece) :: rest) = head :: tail
        rw [List.intercalate_cons_cons_left, ih]

end Text

namespace Settings.Environment

open Text (lower undotted)

theorem dotted_path (key : List Char) : List.Forall₂ Text.Dotted key (path key) := by
  rcases path_cases key with ⟨lead, located⟩ | ⟨own, -⟩
  · exact located.dotted
  · rw [own]
    exact Text.forall₂_dotted_refl key

theorem undotted_path {key : List Char} (plain : '.' ∉ key) : undotted (path key) = key :=
  Text.undotted_of_dotted (dotted_path key) plain

theorem path_injOn {first second : List Char} (plain : '.' ∉ first) (plain' : '.' ∉ second)
    (same : path first = path second) : first = second := by
  rw [← undotted_path plain, same, undotted_path plain']

theorem lower_of_parts? {path : List Char} {parts : List String}
    (found : parts? path = some parts) :
    lower (Text.trimChars path) = List.intercalate ['.'] (parts.map String.toList) := by
  simp only [parts?] at found
  split at found
  · cases found
  · obtain rfl := Option.some.inj found
    have pieces : (Text.splitAll '.' (Text.trimChars path)).map lower
        = Text.splitAll '.' (lower (Text.trimChars path)) := (Text.splitAll_lower _).symm
    simp only [List.map_map, Function.comp_def, Text.toList_asciiLowerCase, String.toList_ofList]
    rw [show (fun piece => lower piece) = lower from rfl, pieces, Text.intercalate_splitAll]

/-- The parts of a path tell the key without dots that it comes from, but for the case of letters
and blanks around it. -/
theorem lower_eq_of_parts? {key : List Char} {parts : List String} (plain : '.' ∉ key)
    (found : parts? (path key) = some parts) :
    lower (Text.trimChars key) = undotted (List.intercalate ['.'] (parts.map String.toList)) := by
  have dotted := Text.forall₂_dotted_trimChars (dotted_path key)
  rw [← lower_of_parts? found, Text.undotted_lower,
    Text.undotted_of_dotted dotted (Text.dot_notMem_trimChars plain)]

theorem hasLead_of_setting? {lead name : String} {parts : List String}
    (found : setting? lead name = some parts) : HasLead lead name := by
  by_contra other
  rw [setting?_of_not_hasLead other] at found
  cases found

end Settings.Environment

end TryOn
