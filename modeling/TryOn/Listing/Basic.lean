import TryOn.Conversion.Basic

/-! Listings of one user's conversions, newest first, cut into pages. -/

set_option autoImplicit false

namespace TryOn

namespace Listing

structure Pagination where
  limit : Nat
  offset : Nat
  deriving DecidableEq, Repr

namespace Pagination

def defaultLimit : Nat := 20

def maxLimit : Nat := 100

def standard : Pagination := ⟨defaultLimit, 0⟩

def bounded (limit offset : Option Nat) : Pagination :=
  ⟨min (max (limit.getD defaultLimit) 1) maxLimit, offset.getD 0⟩

theorem bounded_limit (limit offset : Option Nat) :
    1 ≤ (bounded limit offset).limit ∧ (bounded limit offset).limit ≤ maxLimit := by
  simp only [bounded, maxLimit]
  omega

end Pagination

structure Filter where
  user : UserId
  status : Option Status
  createdAfter : Option Timestamp
  deriving DecidableEq

def Filter.accepts (filter : Filter) (conversion : Conversion) : Bool :=
  conversion.user = filter.user
    && filter.status.all (conversion.status == ·)
    && filter.createdAfter.all (fun moment => decide (moment < conversion.createdAt))

structure Page where
  items : List Conversion
  total : Nat
  pagination : Pagination
  hasMore : Bool
  deriving DecidableEq

/-- Newer conversions come first; of two of one moment, the one with the greater identifier. -/
def comesBefore (first second : Conversion) : Bool :=
  second.createdAt < first.createdAt
    || (first.createdAt = second.createdAt
      && second.id.uuid.value.val ≤ first.id.uuid.value.val)

def sorted (conversions : List Conversion) : List Conversion :=
  conversions.mergeSort comesBefore

def Page.ofMatching (conversions : List Conversion) (pagination : Pagination) : Page :=
  let items := ((sorted conversions).drop pagination.offset).take pagination.limit
  { items := items
    total := conversions.length
    pagination := pagination
    hasMore := pagination.offset + items.length < conversions.length }

theorem comesBefore_trans (first second third : Conversion)
    (left : comesBefore first second = true) (right : comesBefore second third = true) :
    comesBefore first third = true := by
  simp only [comesBefore, Bool.or_eq_true, Bool.and_eq_true, decide_eq_true_eq] at *
  rcases left with earlier | ⟨same, least⟩ <;> rcases right with earlier' | ⟨same', least'⟩
  · exact .inl (Timestamp.lt_trans earlier' earlier)
  · exact .inl (same' ▸ earlier)
  · exact .inl (same ▸ earlier')
  · exact .inr ⟨same.trans same', Nat.le_trans least' least⟩

theorem comesBefore_total (first second : Conversion) :
    (comesBefore first second || comesBefore second first) = true := by
  simp only [comesBefore, Bool.or_eq_true, Bool.and_eq_true, decide_eq_true_eq]
  rcases Classical.em (second.createdAt < first.createdAt) with later | notLater
  · exact .inl (.inl later)
  · rcases Classical.em (first.createdAt < second.createdAt) with earlier | notEarlier
    · exact .inr (.inl earlier)
    · have same := Timestamp.le_antisymm notLater notEarlier
      rcases Nat.le_total second.id.uuid.value.val first.id.uuid.value.val with least | least
      · exact .inl (.inr ⟨same, least⟩)
      · exact .inr (.inr ⟨same.symm, least⟩)

theorem pairwise_sorted (conversions : List Conversion) :
    (sorted conversions).Pairwise fun first second => comesBefore first second = true :=
  List.pairwise_mergeSort comesBefore_trans comesBefore_total conversions

theorem perm_sorted (conversions : List Conversion) : (sorted conversions).Perm conversions :=
  List.mergeSort_perm conversions comesBefore

end Listing

end TryOn
