import Mathlib

/-! Floating-point numbers as the rational numbers that they are, and how these compare with one. A
number is a significand times a power of two. It has as many bits as there is room for, unless its
exponent is the lowest one, so that of two numbers the exponents are compared first. -/

set_option autoImplicit false

namespace TryOn.Decimal

open Float.Model (UnpackedFloat)
open Float.Model.UnpackedFloat (unpack unpackMantissa)

def rationalOf : UnpackedFloat → Rat
  | .finite sign significand exponent _ => sign.apply significand * 2 ^ exponent
  | .notANumber | .infinity _ | .zero _ => 0

/-- The rational number that a floating-point number is, and zero for what is none. -/
def rational (x : Float) : Rat :=
  rationalOf x.toModel.unpack

def FillsUp (significand : Nat) (exponent : Int) : Prop :=
  (significand < 2 ^ 52 ∧ exponent = -1074) ∨ (2 ^ 52 ≤ significand ∧ significand < 2 ^ 53)

def IsCanonical : UnpackedFloat → Prop
  | .finite _ significand exponent _ => FillsUp significand exponent
  | .notANumber | .infinity _ | .zero _ => True

theorem isCanonical_unpack (x : Float) : IsCanonical x.toModel.unpack := by
  have width (bits : BitVec 64) : (@unpackMantissa .binary64 bits).toNat < 2 ^ 52 :=
    (@unpackMantissa .binary64 bits).isLt
  unfold Float.Model.unpack unpack
  dsimp only
  split_ifs with special infinite low zero
  · trivial
  · trivial
  · trivial
  · refine .inl ⟨width _, ?_⟩
    rw [low]
    rfl
  · -- The leading bit is not stored.
    refine .inr ?_
    rw [BitVec.toNat_append, ← Nat.shiftLeft_add_eq_or_of_lt (width _)]
    have bound := width x.toModel.toBits.toBitVec
    exact ⟨Nat.le_add_right _ _, Nat.add_lt_add_left bound (2 ^ 52)⟩

theorem one_le_mul_pow_iff {significand : Nat} {exponent : Int}
    (fills : FillsUp significand exponent) :
    1 ≤ (significand : Rat) * 2 ^ exponent ↔ -52 ≤ exponent := by
  unfold FillsUp at fills
  constructor
  · intro least
    by_contra low
    -- Below that exponent even the longest significand falls short of one.
    have narrow : (significand : Rat) < 2 ^ (53 : Int) := by
      have whole : significand < 2 ^ 53 := by omega
      exact_mod_cast whole
    have small : (significand : Rat) * 2 ^ exponent < 1 := calc
      (significand : Rat) * 2 ^ exponent < 2 ^ (53 : Int) * 2 ^ exponent :=
        mul_lt_mul_of_pos_right narrow (by positivity)
      _ = 2 ^ (53 + exponent) := (zpow_add₀ two_ne_zero _ _).symm
      _ ≤ 1 := zpow_le_one_of_nonpos₀ one_le_two (by omega)
    exact absurd least (not_le.2 small)
  · intro high
    -- From that exponent on the leading bit is there, and alone is enough.
    have wide : (2 : Rat) ^ (52 : Int) ≤ significand := by
      have whole : 2 ^ 52 ≤ significand := by omega
      exact_mod_cast whole
    calc (1 : Rat) ≤ 2 ^ (52 + exponent) := one_le_zpow₀ one_le_two (by omega)
      _ = 2 ^ (52 : Int) * 2 ^ exponent := zpow_add₀ two_ne_zero _ _
      _ ≤ significand * 2 ^ exponent := mul_le_mul_of_nonneg_right wide (by positivity)

def unpackedOne : UnpackedFloat :=
  .finite .positive (2 ^ 52) (-52) (by decide)

theorem one_le_iff_le_unpack (x : Float) :
    1.0 ≤ x ↔ unpackedOne.le x.toModel.unpack = true := by
  have one : (1.0 : Float).toModel.unpack = unpackedOne := rfl
  rw [← one]
  exact decide_eq_true_iff

/-- Comparing by exponents first, and then by significands. -/
theorem unpackedOne_le_iff {significand : Nat} {exponent : Int} (positive : 0 < significand)
    (fills : FillsUp significand exponent) :
    unpackedOne.le (.finite .positive significand exponent positive) = true ↔ -52 ≤ exponent := by
  unfold FillsUp at fills
  simp only [unpackedOne, UnpackedFloat.le, UnpackedFloat.compare, Option.any_some]
  rcases lt_trichotomy (-52) exponent with above | rfl | below
  · rw [Int.compare_eq_lt.2 above]
    exact iff_of_true rfl above.le
  · have wide : 2 ^ 52 ≤ significand := by omega
    rw [Int.compare_eq_eq.2 rfl, Ordering.eq_then]
    exact iff_of_true (Nat.isLE_compare.2 wide) le_rfl
  · rw [Int.compare_eq_gt.2 below]
    exact iff_of_false Bool.false_ne_true (not_le.2 below)

/-- Floating-point numbers are compared with one as the rational numbers that they are. -/
theorem one_le_rational_iff (x : Float) :
    1 ≤ rational x ↔ x.isFinite = true ∧ 1.0 ≤ x := by
  have canonical := isCanonical_unpack x
  rw [one_le_iff_le_unpack, show x.isFinite = x.toModel.unpack.isFinite from rfl, rational]
  generalize x.toModel.unpack = unpacked at canonical ⊢
  cases unpacked with
  | notANumber | zero => simp [rationalOf, unpackedOne, UnpackedFloat.le, UnpackedFloat.compare]
  | infinity => simp [rationalOf, UnpackedFloat.isFinite]
  | finite sign significand exponent positive =>
    cases sign with
    | negative =>
      have below : rationalOf (.finite .negative significand exponent positive) ≤ 0 := by
        simp only [rationalOf, UnpackedFloat.Sign.apply, Int.cast_neg, neg_mul,
          Left.neg_nonpos_iff]
        positivity
      have less : ¬ 1 ≤ rationalOf (.finite .negative significand exponent positive) :=
        not_le.2 (below.trans_lt one_pos)
      exact iff_of_false less fun least => Bool.false_ne_true least.2
    | positive =>
      have same := (one_le_mul_pow_iff canonical).trans (unpackedOne_le_iff positive canonical).symm
      exact same.trans (and_iff_right rfl).symm

end TryOn.Decimal
