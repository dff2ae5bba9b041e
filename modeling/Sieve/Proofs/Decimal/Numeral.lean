/-
Numerals as they are written, and how they are read back. The digits of a number have the number
as their value, and the same goes for digits that are filled up with zeros to a width: zeros in
front do not count. A number that fits a width has exactly this many digits then.

A reader that takes digits in from the left has a total that only grows. So it never stops at its
bound on the way to a number within the bound, and every integer of 64 bits is read back. The
least of them, whose digits alone are beyond the range, has a bound of its own behind its sign.
-/

import Mathlib.Data.Nat.Basic
import Sieve.Decimal.Numeral

namespace Sieve.Decimal

theorem isDigit_of_mem_digits {number : Nat} {character : Char}
    (member : character ∈ digits number) : character.isDigit = true :=
  Nat.isDigit_of_mem_toDigits (by decide) (by decide) member

@[simp]
theorem value_digits (number : Nat) : value (digits number) = number :=
  Nat.ofDigitChars_ten_toDigits

@[simp]
theorem digits_ne_nil (number : Nat) : digits number ≠ [] :=
  Nat.toDigits_ne_nil

theorem eq_zero_of_digits {number : Nat} {others : List Char}
    (zero : digits number = '0' :: others) : number = 0 := by
  induction number using Nat.strongRecOn generalizing others with
  | ind number inductionHypothesis =>
    rw [digits] at zero
    by_cases single : number < 10
    · rw [Nat.toDigits_of_lt_base single] at zero
      have only : ∀ digit < 10, Nat.digitChar digit = '0' → digit = 0 := by decide
      exact only number single (List.cons.inj zero).1
    · have atLeast : 10 ≤ number := Nat.le_of_not_lt single
      rw [Nat.toDigits_of_base_le (by decide) atLeast] at zero
      obtain ⟨first, more, start⟩ := List.exists_cons_of_ne_nil (digits_ne_nil (number / 10))
      rw [digits] at start
      rw [start, List.cons_append] at zero
      rw [(List.cons.inj zero).1] at start
      have small := inductionHypothesis (number / 10) (by omega) start
      omega

/-- No zero stands in front of further digits. -/
theorem unpadded_digits {number : Nat} {others : List Char}
    (zero : digits number = '0' :: others) : others = [] := by
  rw [eq_zero_of_digits zero] at zero
  exact (List.cons.inj zero).2.symm

/-! ### Fixed widths -/

theorem isDigit_of_mem_padded {width number : Nat} {character : Char}
    (member : character ∈ padded width number) : character.isDigit = true := by
  rcases List.mem_append.mp member with zero | digit
  · rw [List.eq_of_mem_replicate zero]
    decide
  · exact isDigit_of_mem_digits digit

theorem exists_padded_cons (width number : Nat) :
    ∃ first rest, padded width number = first :: rest ∧ first.isDigit = true := by
  have some : padded width number ≠ [] :=
    List.append_ne_nil_of_right_ne_nil _ (digits_ne_nil number)
  obtain ⟨first, rest, start⟩ := List.exists_cons_of_ne_nil some
  exact ⟨first, rest, start, isDigit_of_mem_padded (start ▸ List.mem_cons_self)⟩

@[simp]
theorem value_padded (width number : Nat) : value (padded width number) = number := by
  rw [value, padded, Nat.ofDigitChars_append, Nat.ofDigitChars_replicate_zero, Nat.mul_zero]
  exact value_digits number

theorem length_padded {width number : Nat} (positive : 0 < width) (fits : number < 10 ^ width) :
    (padded width number).length = width := by
  have short : (digits number).length ≤ width :=
    (Nat.length_toDigits_le_iff (by decide) positive).mpr fits
  rw [padded, List.length_append, List.length_replicate]
  omega

/-- Zeros after the digits are factors of ten. -/
@[simp]
theorem value_append_zeros (run : List Char) (count : Nat) :
    value (run ++ List.replicate count '0') = value run * 10 ^ count := by
  rw [value, Nat.ofDigitChars_append, Nat.ofDigitChars_replicate_zero, Nat.mul_comm]
  rfl

/-! ### Reading -/

theorem le_ofDigitChars (digits : List Char) (total : Nat) :
    total ≤ Nat.ofDigitChars 10 digits total := by
  induction digits generalizing total with
  | nil => exact Nat.le_refl total
  | cons digit rest inductionHypothesis =>
    rw [Nat.ofDigitChars_cons]
    exact le_trans (by omega) (inductionHypothesis _)

theorem readDigits_run {limit : Nat} (overflow : NumeralFault) {run : List Char}
    (onlyDigits : ∀ character ∈ run, character.isDigit = true) {total : Nat}
    (fits : Nat.ofDigitChars 10 run total ≤ limit) :
    readDigits limit overflow total run = .ok (Nat.ofDigitChars 10 run total) := by
  induction run generalizing total with
  | nil => rfl
  | cons digit rest inductionHypothesis =>
    obtain ⟨isDigit, others⟩ := List.forall_mem_cons.mp onlyDigits
    have step : 10 * total + (digit.toNat - '0'.toNat) = total * 10 + digitValue digit := by
      rw [digitValue, Nat.mul_comm]
    rw [Nat.ofDigitChars_cons, step] at fits ⊢
    have onTheWay := le_trans (le_ofDigitChars rest _) fits
    rw [readDigits, if_pos isDigit, if_pos onTheWay, inductionHypothesis others fits]

theorem readDigits_digits {limit number : Nat} (overflow : NumeralFault) (fits : number ≤ limit) :
    readDigits limit overflow 0 (digits number) = .ok number := by
  have same : Nat.ofDigitChars 10 (digits number) 0 = number := value_digits number
  rw [← same] at fits
  rw [readDigits_run overflow (fun _ => isDigit_of_mem_digits) fits, same]

/-- The numeral of an integer of 64 bits is read as this integer. -/
@[simp]
theorem readInteger_signed (number : Int64) :
    readInteger (signed number.toInt) = .ok number.toInt := by
  have atLeast := number.le_toInt
  have below := number.toInt_lt
  generalize number.toInt = integer at atLeast below ⊢
  obtain ⟨first, rest, start⟩ := List.exists_cons_of_ne_nil (digits_ne_nil integer.natAbs)
  unfold signed
  by_cases negative : integer < 0
  · have read := readDigits_digits .tooSmall (show integer.natAbs ≤ 2 ^ 63 by omega)
    rw [start] at read
    have value : -(integer.natAbs : Int) = integer := by omega
    rw [if_pos negative, start, readInteger, read]
    exact congrArg Except.ok value
  · have read := readDigits_digits .tooLarge (show integer.natAbs ≤ 2 ^ 63 - 1 by omega)
    have isDigit : first.isDigit = true := isDigit_of_mem_digits (start ▸ List.mem_cons_self)
    rw [start] at read
    rw [if_neg negative, start, readInteger, read]
    · exact congrArg Except.ok (Int.natAbs_of_nonneg (Int.not_lt.mp negative))
    · exact List.cons_ne_nil first rest
    · intro others more minus
      cases minus
      cases isDigit
    · intro others more plus
      cases plus
      cases isDigit

end Sieve.Decimal
