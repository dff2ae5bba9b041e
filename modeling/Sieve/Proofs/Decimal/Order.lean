/-
Digits in the order of texts. Two runs of digits of the same length are in the order of the
numbers that they denote, since the first digit in which they differ decides about both. So
numbers that are filled up to one width stand in their own order, also at the front of longer
texts, where what comes after decides between equal numbers.
-/

import Mathlib.Data.Char
import Mathlib.Data.List.Lex
import Sieve.Proofs.Decimal.Numeral
import Sieve.Proofs.Text.Order

namespace Sieve.Decimal

open Sieve.Text (append_lt_append_iff)

/-! ### Runs of digits -/

theorem toNat_lt_of_isDigit {digit : Char} (isDigit : digit.isDigit = true) :
    '0'.toNat ≤ digit.toNat ∧ digit.toNat ≤ '9'.toNat := by
  rw [Char.isDigit, Bool.and_eq_true, decide_eq_true_iff, decide_eq_true_iff] at isDigit
  exact isDigit

variable {first second : List Char}

/-- A lead is not made up for by the same number of digits. -/
theorem ofDigitChars_lt (firstDigits : ∀ digit ∈ first, digit.isDigit = true)
    (sameLength : first.length = second.length) {lead total : Nat} (behind : lead < total) :
    Nat.ofDigitChars 10 first lead < Nat.ofDigitChars 10 second total := by
  induction first generalizing second lead total with
  | nil =>
    obtain rfl : second = [] := List.length_eq_zero_iff.mp sameLength.symm
    exact behind
  | cons digit others inductionHypothesis =>
    cases second with
    | nil => cases sameLength
    | cons otherDigit more =>
      obtain ⟨isDigit, areDigits⟩ := List.forall_mem_cons.mp firstDigits
      have upper := (toNat_lt_of_isDigit isDigit).2
      rw [Nat.ofDigitChars_cons, Nat.ofDigitChars_cons]
      refine inductionHypothesis areDigits (Nat.succ.inj sameLength) ?_
      have nine : '9'.toNat = '0'.toNat + 9 := rfl
      omega

theorem lt_iff_ofDigitChars_lt (firstDigits : ∀ digit ∈ first, digit.isDigit = true)
    (secondDigits : ∀ digit ∈ second, digit.isDigit = true)
    (sameLength : first.length = second.length) (total : Nat) :
    first < second ↔ Nat.ofDigitChars 10 first total < Nat.ofDigitChars 10 second total := by
  induction first generalizing second total with
  | nil =>
    obtain rfl : second = [] := List.length_eq_zero_iff.mp sameLength.symm
    simp
  | cons digit others inductionHypothesis =>
    cases second with
    | nil => cases sameLength
    | cons otherDigit more =>
      obtain ⟨isDigit, areDigits⟩ := List.forall_mem_cons.mp firstDigits
      obtain ⟨otherIsDigit, moreAreDigits⟩ := List.forall_mem_cons.mp secondDigits
      have shorter : others.length = more.length := Nat.succ.inj sameLength
      have lower := (toNat_lt_of_isDigit isDigit).1
      have otherLower := (toNat_lt_of_isDigit otherIsDigit).1
      rw [List.cons_lt_cons_iff, Nat.ofDigitChars_cons, Nat.ofDigitChars_cons]
      rcases lt_trichotomy digit.toNat otherDigit.toNat with less | same | greater
      · have decided := ofDigitChars_lt areDigits shorter
          (show 10 * total + (digit.toNat - '0'.toNat) <
            10 * total + (otherDigit.toNat - '0'.toNat) by omega)
        exact iff_of_true (Or.inl less) decided
      · obtain rfl : digit = otherDigit := Char.toNat_inj.mp same
        rw [← inductionHypothesis areDigits moreAreDigits shorter]
        simp
      · have decided := ofDigitChars_lt moreAreDigits shorter.symm
          (show 10 * total + (otherDigit.toNat - '0'.toNat) <
            10 * total + (digit.toNat - '0'.toNat) by omega)
        have notLess : ¬digit < otherDigit := Nat.not_lt.mpr (Nat.le_of_lt greater)
        have different : digit ≠ otherDigit := by
          rintro rfl
          exact Nat.lt_irrefl _ greater
        refine iff_of_false ?_ (Nat.not_lt.mpr (Nat.le_of_lt decided))
        rintro (less | ⟨same, _⟩)
        · exact notLess less
        · exact different same

theorem eq_of_value_eq (firstDigits : ∀ digit ∈ first, digit.isDigit = true)
    (secondDigits : ∀ digit ∈ second, digit.isDigit = true)
    (sameLength : first.length = second.length) (sameValue : value first = value second) :
    first = second := by
  rcases lt_trichotomy first second with less | same | greater
  · rw [lt_iff_ofDigitChars_lt firstDigits secondDigits sameLength 0] at less
    exact absurd sameValue (Nat.ne_of_lt less)
  · exact same
  · rw [lt_iff_ofDigitChars_lt secondDigits firstDigits sameLength.symm 0] at greater
    exact absurd sameValue.symm (Nat.ne_of_lt greater)

/-! ### Fixed widths -/

variable {width number other : Nat} {rest more : List Char}

theorem padded_lt_iff (positive : 0 < width) (fits : number < 10 ^ width)
    (otherFits : other < 10 ^ width) : padded width number < padded width other ↔ number < other := by
  have sameLength : (padded width number).length = (padded width other).length := by
    rw [length_padded positive fits, length_padded positive otherFits]
  rw [lt_iff_ofDigitChars_lt (fun _ => isDigit_of_mem_padded) (fun _ => isDigit_of_mem_padded)
    sameLength 0]
  exact Iff.of_eq (congrArg₂ _ (value_padded width number) (value_padded width other))

@[simp]
theorem padded_inj : padded width number = padded width other ↔ number = other := by
  refine ⟨fun same => ?_, fun same => same ▸ rfl⟩
  rw [← value_padded width number, same, value_padded]

/-- Numbers of a fixed width are compared first, what follows them after. -/
theorem padded_append_lt_iff (positive : 0 < width) (fits : number < 10 ^ width)
    (otherFits : other < 10 ^ width) :
    padded width number ++ rest < padded width other ++ more ↔
      number < other ∨ number = other ∧ rest < more := by
  have sameLength : (padded width number).length = (padded width other).length := by
    rw [length_padded positive fits, length_padded positive otherFits]
  simp [append_lt_append_iff sameLength, padded_lt_iff positive fits otherFits]

/-- The last digits of a number of a fixed width are those of its remainder. -/
theorem padded_add {front back : Nat} (frontPositive : 0 < front) (backPositive : 0 < back)
    (fits : number < 10 ^ (front + back)) :
    padded (front + back) number =
      padded front (number / 10 ^ back) ++ padded back (number % 10 ^ back) := by
  have powers : 10 ^ (front + back) = 10 ^ front * 10 ^ back := Nat.pow_add 10 front back
  have frontFits : number / 10 ^ back < 10 ^ front :=
    Nat.div_lt_of_lt_mul (by rwa [Nat.mul_comm, ← powers])
  have backFits : number % 10 ^ back < 10 ^ back := Nat.mod_lt _ (Nat.pow_pos (by decide))
  have backLength := length_padded backPositive backFits
  refine eq_of_value_eq (fun _ => isDigit_of_mem_padded) ?_ ?_ ?_
  · intro digit member
    rcases List.mem_append.mp member with inFront | inBack
    · exact isDigit_of_mem_padded inFront
    · exact isDigit_of_mem_padded inBack
  · rw [List.length_append, backLength, length_padded frontPositive frontFits,
      length_padded (Nat.add_pos_left frontPositive back) fits]
  · have inBack : Nat.ofDigitChars 10 (padded back (number % 10 ^ back)) 0 = number % 10 ^ back :=
      value_padded _ _
    have inFront : Nat.ofDigitChars 10 (padded front (number / 10 ^ back)) 0 =
        number / 10 ^ back := value_padded _ _
    rw [value_padded, value, Nat.ofDigitChars_append, Nat.ofDigitChars_eq_ofDigitChars_zero,
      inBack, inFront, backLength, Nat.div_add_mod]

end Sieve.Decimal
