import Mathlib
import RowFunctions.IntegerNumerals

/-!
# Decimal digits of natural numbers

The digits of a number denote it and begin with zero only for zero itself.  A
run of digit characters is read back whole when no further digit follows.
-/

namespace RowFunctions

namespace Digit

@[simp]
theorem ofChar?_toChar (digit : Digit) : ofChar? digit.toChar = some digit := by
  revert digit
  decide

/-- A text goes on without a digit. -/
def EndsDigits (text : List Char) : Prop :=
  ∀ character ∈ text.head?, ofChar? character = none

theorem span_of_endsDigits {text : List Char} (ends : EndsDigits text) :
    span text = ([], text) := by
  cases text with
  | nil => rfl
  | cons character rest =>
      have noDigit : ofChar? character = none := ends character rfl
      simp [span, noDigit]

theorem span_map_toChar (digits : List Digit) {rest : List Char} (ends : EndsDigits rest) :
    span (digits.map toChar ++ rest) = (digits, rest) := by
  induction digits with
  | nil => exact span_of_endsDigits ends
  | cons digit digits ih =>
      rw [List.map_cons, List.cons_append, span, ofChar?_toChar]
      simp only [ih]

@[simp]
theorem value_append_singleton (digits : List Digit) (digit : Digit) :
    value (digits ++ [digit]) = 10 * value digits + digit.val := by
  simp [value]

/-- The digits of a number denote it. -/
@[simp]
theorem value_ofNat (number : Nat) : value (ofNat number) = number := by
  induction number using ofNat.induct with
  | case1 number small =>
      rw [ofNat, if_pos small]
      simp [value, Nat.mod_eq_of_lt small]
  | case2 number large ih =>
      rw [ofNat, if_neg large, value_append_singleton, ih]
      exact Nat.div_add_mod number 10

theorem ofNat_ne_nil (number : Nat) : ofNat number ≠ [] := by
  rw [ofNat]
  split <;> simp

theorem ofNat_eq_cons_zero {number : Nat} {digit : Digit} {digits : List Digit}
    (leading : ofNat number = digit :: digits) (zero : digit.val = 0) : digits = [] := by
  induction number using ofNat.induct generalizing digits with
  | case1 number small =>
      rw [ofNat, if_pos small, List.cons.injEq] at leading
      exact leading.2.symm
  | case2 number large ih =>
      rw [ofNat, if_neg large] at leading
      obtain ⟨first, others, start⟩ := List.exists_cons_of_ne_nil (ofNat_ne_nil (number / 10))
      rw [start, List.cons_append, List.cons.injEq] at leading
      obtain ⟨rfl, -⟩ := leading
      have single := ih start
      subst single
      have denoted := value_ofNat (number / 10)
      rw [start] at denoted
      simp only [value, List.foldl_cons, List.foldl_nil, zero] at denoted
      omega

end Digit

end RowFunctions
