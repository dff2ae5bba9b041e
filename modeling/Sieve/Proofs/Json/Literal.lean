/-
Integer literals: an optional minus sign and digits, with neither a fraction nor an exponent. A
reader takes the digits in while they fit 64 bits and then counts them. So a literal stands for
the integer of its value where this lies in the range of 64 bits, and for some double where it
lies beyond; the literal of the negative zero stands for the double of that name.
-/

import Mathlib.Data.List.TakeWhile
import Sieve.Json.Reader
import Sieve.Proofs.Decimal.Numeral
import Sieve.Proofs.Double.Finite

namespace Sieve.Json

open Sieve.Decimal (digitValue le_ofDigitChars)

/-! ### Literals -/

/-- An integer as it is written. No zero stands in front of further digits. -/
structure Literal where
  negative : Bool
  first : Char
  others : List Char
  onlyDigits : ∀ character ∈ first :: others, character.isDigit = true
  unpadded : first = '0' → others = []

namespace Literal

def digits (literal : Literal) : List Char :=
  literal.first :: literal.others

def value (literal : Literal) : Int :=
  if literal.negative then -(Decimal.value literal.digits : Int) else Decimal.value literal.digits

/-- The documents that a literal can be read as. -/
inductive Stands (literal : Literal) : Json → Prop where
  | exact (number : Integer) (same : number.value = literal.value) :
      Stands literal (.integer number)
  | negativeZero (number : FiniteDouble) (zero : literal.value = 0)
      (same : number.val = .ofMagnitude true 0) : Stands literal (.float number)
  | rounded (number : FiniteDouble)
      (beyond : literal.value < -(2 ^ 63) ∨ 2 ^ 64 ≤ literal.value) : Stands literal (.float number)

end Literal

/-! ### Digits -/

/-- Taking digits in ends with the run, or before that at the bound, with digits left over. -/
theorem absorb_run (bound : Nat) {digits rest : List Char}
    (onlyDigits : ∀ character ∈ digits, character.isDigit = true)
    (ends : startsWithDigit rest = false) (total count : Nat) :
    ∃ consumed taken surplus,
      absorb bound total count (digits ++ rest) = (consumed, taken, surplus ++ rest) ∧
      (∀ character ∈ surplus, character.isDigit = true) ∧
        (surplus = [] ∧ consumed = Nat.ofDigitChars 10 digits total ∨
          surplus ≠ [] ∧ bound ≤ Nat.ofDigitChars 10 digits total) := by
  induction digits generalizing total count with
  | nil =>
    refine ⟨total, count, [], ?_, onlyDigits, Or.inl ⟨rfl, rfl⟩⟩
    cases rest with
    | nil => rfl
    | cons character others =>
      have noDigit : character.isDigit = false := ends
      rw [List.nil_append, absorb, noDigit, Bool.false_and, if_neg Bool.false_ne_true]
  | cons digit others inductionHypothesis =>
    have isDigit := onlyDigits digit List.mem_cons_self
    have next : Nat.ofDigitChars 10 (digit :: others) total =
        Nat.ofDigitChars 10 others (total * 10 + digitValue digit) := by
      rw [Nat.ofDigitChars_cons, Nat.mul_comm]
      rfl
    rw [next, List.cons_append, absorb, isDigit, Bool.true_and]
    by_cases fits : total * 10 + digitValue digit < bound
    · rw [if_pos (decide_eq_true fits)]
      exact inductionHypothesis (fun character member =>
        onlyDigits character (List.mem_cons_of_mem digit member)) _ _
    · rw [if_neg (mt of_decide_eq_true fits)]
      exact ⟨total, count, digit :: others, rfl, onlyDigits, Or.inr ⟨List.cons_ne_nil _ _,
        le_trans (Nat.le_of_not_lt fits) (le_ofDigitChars others _)⟩⟩

/-! ### Where a number ends -/

/-- Whether the text goes on with a fraction or an exponent. -/
def startsWithMark : List Char → Bool
  | [] => false
  | character :: _ => character = '.' || character = 'e' || character = 'E'

theorem takeWhile_run {digits rest : List Char}
    (onlyDigits : ∀ character ∈ digits, character.isDigit = true)
    (ends : startsWithDigit rest = false) : (digits ++ rest).takeWhile Char.isDigit = digits := by
  rw [List.takeWhile_append_of_pos onlyDigits]
  cases rest with
  | nil => exact List.append_nil digits
  | cons character others =>
    have noDigit : ¬ character.isDigit = true := Bool.eq_false_iff.mp ends
    rw [List.takeWhile_cons_of_neg noDigit, List.append_nil]

theorem dropWhile_run {digits rest : List Char}
    (onlyDigits : ∀ character ∈ digits, character.isDigit = true)
    (ends : startsWithDigit rest = false) : (digits ++ rest).dropWhile Char.isDigit = rest := by
  rw [List.dropWhile_append_of_pos onlyDigits]
  cases rest with
  | nil => rfl
  | cons character others => exact List.dropWhile_cons_of_neg (Bool.eq_false_iff.mp ends)

/-! ### Reading a literal -/

theorem finishFloat_eq_ok {negative : Bool} {magnitude? : Option Nat} {rest left : List Char}
    {number : Number} (read : finishFloat negative magnitude? rest = .ok (number, left)) :
    left = rest ∧ ∃ magnitude double, magnitude? = some magnitude ∧ number = .float double ∧
      double.val = Double.ofMagnitude negative magnitude := by
  unfold finishFloat at read
  cases magnitude? with
  | none => cases read
  | some magnitude =>
    dsimp only at read
    split at read
    · cases read
      exact ⟨rfl, magnitude, _, rfl, rfl, rfl⟩
    · cases read

theorem Integer.of?_eq_some {value : Int} {number : Integer}
    (fits : Integer.of? value = some number) : number.value = value := by
  unfold Integer.of? at fits
  split at fits
  · split at fits
    · cases fits
      rfl
    · cases fits
  · cases fits

theorem Integer.of?_eq_none {value : Int} (beyond : Integer.of? value = none) :
    value < -(2 ^ 63) ∨ 2 ^ 64 ≤ value := by
  unfold Integer.of? at beyond
  split at beyond
  · split at beyond
    · cases beyond
    · exact Or.inr (by omega)
  · exact Or.inl (by omega)

@[simp]
theorem Integer.of?_value (number : Integer) : Integer.of? number.value = some number := by
  rw [Integer.of?, dif_pos number.atLeast, dif_pos number.below]

namespace Literal

variable {literal : Literal} {rest left : List Char} {number : Number}

/-- A literal whose digits all fit is read as the integer that it is, if that is in the range. -/
theorem stands_of_finishInteger
    (read : finishInteger literal.negative (Decimal.value literal.digits) rest =
      .ok (number, left)) :
    left = rest ∧ literal.Stands (ofNumber number) := by
  unfold finishInteger at read
  dsimp only at read
  split at read
  · rename_i zero
    obtain ⟨rfl, _, double, magnitude, rfl, same⟩ := finishFloat_eq_ok read
    cases magnitude
    refine ⟨rfl, .negativeZero double ?_ same⟩
    rw [value, zero.2]
    split <;> rfl
  · split at read
    · rename_i exact
      cases read
      exact ⟨rfl, .exact _ (Integer.of?_eq_some exact)⟩
    · rename_i beyond
      obtain ⟨rfl, _, double, _, rfl, _⟩ := finishFloat_eq_ok read
      exact ⟨rfl, .rounded double (Integer.of?_eq_none beyond)⟩

/-- A literal with digits left over lies beyond the range. -/
theorem beyond_of_le (large : 2 ^ 64 ≤ Decimal.value literal.digits) :
    literal.value < -(2 ^ 63) ∨ 2 ^ 64 ≤ literal.value := by
  unfold value
  split
  · exact Or.inl (by omega)
  · exact Or.inr (by omega)

/-- Where a number ends, all that is left is to see whether digits were left over. -/
theorem readNumber_run {negative : Bool} {first : Char} {others surplus : List Char}
    (firstDigit : first.isDigit = true) (unpadded : first = '0' → others = [])
    (digitEnds : startsWithDigit rest = false) (markEnds : startsWithMark rest = false)
    {consumed taken : Nat}
    (absorbed : absorb (2 ^ 64) (digitValue first) 1 (others ++ rest) =
      (consumed, taken, surplus ++ rest))
    (surplusDigits : ∀ character ∈ surplus, character.isDigit = true) :
    readNumber negative (first :: others ++ rest) =
      if surplus.isEmpty then finishInteger negative consumed rest
      else finishFloat negative (decimalMagnitude? consumed surplus.length) rest := by
  have noPadding : ¬(first = '0' ∧ startsWithDigit (others ++ rest) = true) := by
    rintro ⟨zero, digit⟩
    rw [unpadded zero, List.nil_append, digitEnds] at digit
    cases digit
  rw [List.cons_append, readNumber, if_pos firstDigit, if_neg noPadding, absorbed]
  dsimp only
  rw [takeWhile_run surplusDigits digitEnds, dropWhile_run surplusDigits digitEnds]
  cases rest with
  | nil => rfl
  | cons mark after =>
    rw [startsWithMark, Bool.or_eq_false_iff, Bool.or_eq_false_iff,
      decide_eq_false_iff_not] at markEnds
    obtain ⟨⟨noPoint, noSmall⟩, noLarge⟩ := markEnds
    have noExponent : startsWithExponent (mark :: after) = false :=
      Bool.or_eq_false_iff.mpr ⟨noSmall, noLarge⟩
    have pointed : readPointed negative consumed surplus.length (mark :: after) =
        finishFloat negative (decimalMagnitude? consumed surplus.length) (mark :: after) := by
      unfold readPointed
      split
      · cases ‹_ :: _ = _ :: _›
        exact absurd rfl noPoint
      · rw [readScaled, noExponent, if_neg Bool.false_ne_true]
    dsimp only
    rw [noExponent, pointed]
    by_cases empty : surplus.isEmpty = true
    · rw [if_pos ⟨empty, noPoint, Bool.false_ne_true⟩, if_pos empty]
    · rw [if_neg fun both => empty both.1, if_neg empty]

/-- A literal, where the number ends with it, is finished as an integer if its digits all fit, and else
rounded. -/
theorem readNumber_literal (literal : Literal) (digitEnds : startsWithDigit rest = false)
    (markEnds : startsWithMark rest = false) :
    readNumber literal.negative (literal.digits ++ rest) =
        finishInteger literal.negative (Decimal.value literal.digits) rest ∨
      2 ^ 64 ≤ Decimal.value literal.digits ∧ ∃ consumed surplus,
        readNumber literal.negative (literal.digits ++ rest) =
          finishFloat literal.negative (decimalMagnitude? consumed surplus) rest := by
  have total : Decimal.value literal.digits =
      Nat.ofDigitChars 10 literal.others (digitValue literal.first) := by
    rw [Decimal.value, digits, Nat.ofDigitChars_cons, Nat.mul_zero, Nat.zero_add]
    rfl
  obtain ⟨consumed, taken, surplus, absorbed, surplusDigits, outcome⟩ := absorb_run (2 ^ 64)
    (fun character member => literal.onlyDigits character (List.mem_cons_of_mem _ member))
    digitEnds (digitValue literal.first) 1
  rw [← total] at outcome
  rw [digits, readNumber_run (literal.onlyDigits _ List.mem_cons_self) literal.unpadded
    digitEnds markEnds absorbed surplusDigits]
  rcases outcome with ⟨rfl, rfl⟩ | ⟨some, large⟩
  · rw [List.isEmpty_nil, if_pos rfl]
    exact Or.inl rfl
  · rw [if_neg (mt List.isEmpty_iff.mp some)]
    exact Or.inr ⟨large, consumed, surplus.length, rfl⟩

/-- A literal, where the number ends with it, is read as a document that it stands for. -/
theorem stands_of_readNumber (literal : Literal) (digitEnds : startsWithDigit rest = false)
    (markEnds : startsWithMark rest = false)
    (read : readNumber literal.negative (literal.digits ++ rest) = .ok (number, left)) :
    left = rest ∧ literal.Stands (ofNumber number) := by
  rcases literal.readNumber_literal digitEnds markEnds with fits | ⟨large, _, _, rounded⟩
  · exact stands_of_finishInteger (fits.symm.trans read)
  · obtain ⟨rfl, _, double, _, rfl, _⟩ := finishFloat_eq_ok (rounded.symm.trans read)
    exact ⟨rfl, .rounded double (beyond_of_le large)⟩

/-- An integer of 64 bits is read from its literal, where the number ends with it. -/
theorem readNumber_eq_ok {integer : Integer} (same : literal.value = integer.value)
    (noNegativeZero : literal.negative = true → literal.value ≠ 0)
    (digitEnds : startsWithDigit rest = false) (markEnds : startsWithMark rest = false) :
    readNumber literal.negative (literal.digits ++ rest) = .ok (.integer integer, rest) := by
  rcases literal.readNumber_literal digitEnds markEnds with fits | ⟨large, _⟩
  · have noZero : ¬(literal.negative = true ∧ Decimal.value literal.digits = 0) := by
      rintro ⟨negative, zero⟩
      refine noNegativeZero negative ?_
      rw [value, zero]
      split <;> rfl
    rw [fits, finishInteger, if_neg noZero,
      show (if literal.negative = true then _ else _) = integer.value from same, Integer.of?_value]
  · rcases beyond_of_le large with below | above
    · exact absurd integer.atLeast (Int.not_le_of_gt (same ▸ below))
    · exact absurd integer.below (Int.not_lt_of_ge (same ▸ above))

end Literal

/-! ### What is written where a number is read -/

@[simp]
theorem startsWithDigit_dropWhile (text : List Char) :
    startsWithDigit (text.dropWhile Char.isDigit) = false := by
  induction text with
  | nil => rfl
  | cons character rest inductionHypothesis =>
    rw [List.dropWhile_cons]
    split
    · exact inductionHypothesis
    · exact Bool.eq_false_iff.mpr ‹_›

/-- Where a number can be read, there is a literal that the number ends with, or there are digits with
a fraction or an exponent. -/
theorem shape_of_readNumber {negative : Bool} {text rest : List Char} {number : Number}
    (read : readNumber negative text = .ok (number, rest)) :
    (∃ (literal : Literal) (after : List Char), literal.negative = negative ∧
        text = literal.digits ++ after ∧ startsWithDigit after = false ∧
        startsWithMark after = false) ∨
      ∃ first others after, (∀ character ∈ first :: others, character.isDigit = true) ∧
        text = first :: others ++ after ∧ startsWithMark after = true := by
  cases text with
  | nil => cases read
  | cons first remaining =>
    rw [readNumber] at read
    split at read
    · rename_i firstDigit
      split at read
      · cases read
      · rename_i noPadding
        let others := remaining.takeWhile Char.isDigit
        let after := remaining.dropWhile Char.isDigit
        have parts : first :: remaining = first :: others ++ after :=
          congrArg (first :: ·) List.takeWhile_append_dropWhile.symm
        have onlyDigits : ∀ character ∈ first :: others, character.isDigit = true :=
          List.forall_mem_cons.mpr ⟨firstDigit, fun _ member => List.mem_takeWhile_imp member⟩
        cases marked : startsWithMark after with
        | true => exact Or.inr ⟨first, others, after, onlyDigits, parts, marked⟩
        | false =>
          have unpadded : first = '0' → others = [] := by
            intro zero
            cases remaining with
            | nil => rfl
            | cons second further =>
              exact List.takeWhile_cons_of_neg fun digit => noPadding ⟨zero, digit⟩
          exact Or.inl ⟨⟨negative, first, others, onlyDigits, unpadded⟩, after, rfl, parts,
            startsWithDigit_dropWhile remaining, marked⟩
    · cases read

end Sieve.Json
