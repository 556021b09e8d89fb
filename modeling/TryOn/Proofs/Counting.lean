import Mathlib.Data.List.Induction

/-! Counting in lists of which one entry is replaced, or to which entries are added at the end. -/

set_option autoImplicit false

namespace TryOn

theorem countP_set_add {α : Type} (p : α → Bool) {list : List α} {index : Nat} {old : α}
    (present : list[index]? = some old) (new : α) :
    (list.set index new).countP p + (if p old then 1 else 0)
      = list.countP p + (if p new then 1 else 0) := by
  obtain ⟨within, rfl⟩ := List.getElem?_eq_some_iff.1 present
  have least := List.boole_getElem_le_countP (p := p) within
  rw [List.countP_set within]
  omega

theorem countP_set_of_eq {α : Type} {p : α → Bool} {list : List α} {index : Nat} {old : α}
    (present : list[index]? = some old) (new : α) (same : p old = p new) :
    (list.set index new).countP p = list.countP p := by
  have count := countP_set_add p present new
  rw [same] at count
  omega

theorem countP_le_one {α : Type} {p : α → Bool} {items : List α}
    (first : ∀ before item after, items = before ++ item :: after → p item = true →
      ∀ other ∈ before, p other = false) : items.countP p ≤ 1 := by
  induction items using List.reverseRecOn with
  | nil => exact Nat.zero_le 1
  | append_singleton items last ih =>
    rw [List.countP_append, List.countP_singleton]
    have earlier := ih fun before item after split =>
      first before item (after ++ [last]) (by rw [split]; simp)
    cases holds : p last with
    | false => simpa using earlier
    | true =>
      have none := List.countP_eq_zero.2 fun item member =>
        Bool.eq_false_iff.1 (first items last [] rfl holds item member)
      simp [none]

end TryOn
