/-! Finding one text inside another, and cutting a text at a separator. -/

set_option autoImplicit false

namespace TryOn.Text

def occursIn (pattern : List Char) : List Char → Bool
  | [] => pattern.isEmpty
  | c :: rest => pattern.isPrefixOf (c :: rest) || occursIn pattern rest

def contains (text pattern : String) : Bool :=
  occursIn pattern.toList text.toList

theorem occursIn_iff (pattern chars : List Char) :
    occursIn pattern chars = true ↔ pattern <:+: chars := by
  induction chars with
  | nil => cases pattern <;> simp [occursIn]
  | cons c rest ih =>
    simp only [occursIn, Bool.or_eq_true, ih, List.isPrefixOf_iff_prefix, List.infix_cons_iff]

def dropLead? {α : Type} [DecidableEq α] : List α → List α → Option (List α)
  | [], items => some items
  | _ :: _, [] => none
  | a :: lead, b :: items => if a = b then dropLead? lead items else none

theorem dropLead?_eq_some_iff {α : Type} [DecidableEq α] (lead items rest : List α) :
    dropLead? lead items = some rest ↔ items = lead ++ rest := by
  induction lead generalizing items with
  | nil => simp [dropLead?, eq_comm]
  | cons a lead ih =>
    cases items with
    | nil => simp [dropLead?]
    | cons b items =>
      by_cases same : a = b
      · subst same; simp [dropLead?, ih]
      · simp [dropLead?, same, Ne.symm same]

/-- Cut a list at the first occurrence of `mark`, which belongs to neither part. -/
def splitOnce {α : Type} [DecidableEq α] (mark : α) : List α → Option (List α × List α)
  | [] => none
  | head :: tail =>
    if head = mark then some ([], tail)
    else (splitOnce mark tail).map fun parts => (head :: parts.1, parts.2)

theorem splitOnce_eq_some {α : Type} [DecidableEq α] {mark : α} {items first second : List α}
    (cut : splitOnce mark items = some (first, second)) :
    items = first ++ mark :: second ∧ mark ∉ first := by
  induction items generalizing first with
  | nil => simp [splitOnce] at cut
  | cons head tail ih =>
    by_cases same : head = mark
    · simp only [splitOnce, same, if_true, Option.some.injEq, Prod.mk.injEq] at cut
      obtain ⟨rfl, rfl⟩ := cut
      simp [same]
    · simp only [splitOnce, same, if_false, Option.map_eq_some_iff] at cut
      obtain ⟨⟨head', rest⟩, found, equal⟩ := cut
      simp only [Prod.mk.injEq] at equal
      obtain ⟨rfl, rfl⟩ := equal
      obtain ⟨whole, absent⟩ := ih found
      exact ⟨by simp [whole], by simp [absent, Ne.symm same]⟩

/-- All the pieces of a list between the occurrences of `mark`; never empty. -/
def splitAll {α : Type} [DecidableEq α] (mark : α) : List α → List (List α)
  | [] => [[]]
  | head :: tail =>
    if head = mark then [] :: splitAll mark tail
    else match splitAll mark tail with
      | [] => [[head]]
      | piece :: pieces => (head :: piece) :: pieces

end TryOn.Text
