import Mathlib
import TryOn.Text.Digits

/-! Decimal numerals are read as the numbers that they are written for, whether or not there are
zeros in front, and are told from what stands behind them. -/

set_option autoImplicit false

namespace TryOn.Text

theorem digitValue?_ten_digitChar : ∀ digit < 10, digitValue? 10 digit.digitChar = some digit := by
  decide

theorem digitsOnto?_toDigits (lead value : Nat) :
    digitsOnto? 10 lead (Nat.toDigits 10 value)
      = some (lead * 10 ^ (Nat.toDigits 10 value).length + value) := by
  induction value using Nat.strongRecOn generalizing lead with
  | ind value ih =>
    by_cases small : value < 10
    · rw [Nat.toDigits_of_lt_base small]
      simp [digitsOnto?, digitValue?_ten_digitChar value small]
    · have last := digitValue?_ten_digitChar (value % 10) (Nat.mod_lt _ (by decide))
      rw [Nat.toDigits_of_base_le (by decide) (by omega), digitsOnto?_append,
        ih (value / 10) (by omega)]
      simp only [Option.bind_some, digitsOnto?, last, List.length_append, List.length_singleton,
        Nat.pow_succ, Option.some.injEq]
      rw [Nat.add_mul, Nat.mul_assoc]
      omega

theorem digitsOnto?_zeros (count : Nat) : digitsOnto? 10 0 (List.replicate count '0') = some 0 := by
  induction count with
  | zero => rfl
  | succ count ih =>
    have zero : digitValue? 10 '0' = some 0 := by decide
    simpa [List.replicate_succ, digitsOnto?, zero] using ih

theorem digitsOnto?_paddedDecimal (width value : Nat) :
    digitsOnto? 10 0 (paddedDecimal width value) = some value := by
  simp [paddedDecimal, digitsOnto?_append, digitsOnto?_zeros, digitsOnto?_toDigits]

theorem paddedDecimal_ne_nil (width value : Nat) : paddedDecimal width value ≠ [] := by
  simp [paddedDecimal, Nat.toDigits_ne_nil]

theorem digitsValue?_paddedDecimal (width value : Nat) :
    digitsValue? 10 (paddedDecimal width value) = some value := by
  have filled : (paddedDecimal width value).isEmpty = false := by
    simp [paddedDecimal_ne_nil]
  simp [digitsValue?, filled, digitsOnto?_paddedDecimal]

theorem isDigit_of_mem_paddedDecimal {width value : Nat} {c : Char}
    (inside : c ∈ paddedDecimal width value) : c.isDigit = true := by
  simp only [paddedDecimal, List.mem_append, List.mem_replicate] at inside
  rcases inside with ⟨-, rfl⟩ | inside
  · decide
  · exact Nat.isDigit_of_mem_toDigits (by decide) (by decide) inside

theorem length_paddedDecimal {width value : Nat} (wide : 0 < width) (room : value < 10 ^ width) :
    (paddedDecimal width value).length = width := by
  have fits := (Nat.length_toDigits_le_iff (by decide) wide).2 room
  simp only [paddedDecimal, List.length_append, List.length_replicate]
  omega

theorem eq_zero_of_head?_toDigits {value : Nat}
    (leads : (Nat.toDigits 10 value).head? = some '0') : value = 0 := by
  induction value using Nat.strongRecOn with
  | ind value ih =>
    by_cases small : value < 10
    · have none : ∀ digit < 10, digit.digitChar = '0' → digit = 0 := by decide
      rw [Nat.toDigits_of_lt_base small] at leads
      exact none value small (Option.some.inj leads)
    · rw [Nat.toDigits_of_base_le (by decide) (by omega),
        List.head?_append] at leads
      cases first : (Nat.toDigits 10 (value / 10)).head? with
      | none => exact absurd (List.head?_eq_none_iff.1 first) Nat.toDigits_ne_nil
      | some c =>
        have zero : c = '0' := by simpa [first] using leads
        have none := ih (value / 10) (by omega) (by rw [first, zero])
        omega

def Ends (rest : List Char) : Prop :=
  ∀ c ∈ rest.head?, c.isDigit = false

theorem takeDigits_append {digits rest : List Char} (numeral : ∀ c ∈ digits, c.isDigit = true)
    (ends : Ends rest) : takeDigits (digits ++ rest) = (digits, rest) := by
  rw [takeDigits, List.takeWhile_append_of_pos numeral, List.dropWhile_append_of_pos numeral]
  cases rest with
  | nil => simp
  | cons c rest =>
    have other : c.isDigit = false := ends c rfl
    simp [other]

end TryOn.Text
