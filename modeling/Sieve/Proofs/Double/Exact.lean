/-
The numbers that doubles are. The bits of a finite double denote a rational number: a whole number
of quanta, where the quantum is a power of two, with a sign. This file ties the arithmetic on
doubles to that number: the floor is its floor, a double is an integer of 64 bits exactly if the
number is one, and an integer of at most 53 bits, or the first one after them, is the number of the
double that is nearest to it.

A double keeps its number as a fraction over a power of two, which need not be in lowest terms. So
that the number is a given integer is first an equation between integers.
-/

import Mathlib.Algebra.Order.Field.Rat
import Mathlib.Data.Rat.Floor
import Sieve.Proofs.Double.Finite

namespace Sieve.Double

/-- The number that the bits of a finite double denote. -/
def exact (number : Double) : ℚ :=
  (if number.negative then -1 else 1) * significandOf number.magnitude *
    (2 : ℚ) ^ exponentOf number.magnitude

/-- A power of two as a fraction of two natural powers, one of which is one. -/
theorem two_zpow_eq_div (exponent : Int) :
    (2 : ℚ) ^ exponent = (2 ^ exponent.toNat : Nat) / (2 ^ (-exponent).toNat : Nat) := by
  rw [Nat.cast_pow, Nat.cast_pow, Nat.cast_ofNat, ← zpow_natCast, ← zpow_natCast,
    ← zpow_sub₀ two_ne_zero]
  congr 1
  omega

theorem exact_eq_div (number : Double) :
    number.exact = (number.numerator : ℚ) / number.denominator := by
  unfold exact numerator denominator numeratorOf denominatorOf
  rw [two_zpow_eq_div]
  split
  · push_cast
    ring
  · push_cast
    ring

theorem exact_eq_intCast_iff {number : Double} {whole : Int} :
    number.exact = whole ↔ number.numerator = whole * number.denominator := by
  have nonzero : (number.denominator : ℚ) ≠ 0 := Nat.cast_ne_zero.mpr (denominatorOf_ne_zero _)
  rw [exact_eq_div, div_eq_iff nonzero]
  exact_mod_cast Iff.rfl

/-! ### Integers in doubles -/

theorem floor_eq_ediv (number : Double) :
    number.floor = number.numerator / number.denominator :=
  Int.fdiv_eq_ediv_of_nonneg _ (Int.natCast_nonneg _)

theorem floor_eq (number : Double) : number.floor = ⌊number.exact⌋ := by
  rw [exact_eq_div, Rat.floor_intCast_div_natCast, floor_eq_ediv]

theorem isIntegral_iff {number : Double} {whole : Int} :
    number.isIntegral = true ∧ number.floor = whole ↔ number.exact = whole := by
  have nonzero : (number.denominator : Int) ≠ 0 :=
    Int.natCast_ne_zero.mpr (denominatorOf_ne_zero _)
  rw [exact_eq_intCast_iff, floor_eq_ediv, isIntegral, decide_eq_true_iff]
  constructor
  · rintro ⟨integral, rfl⟩
    exact (Int.ediv_mul_cancel (Int.dvd_of_emod_eq_zero integral)).symm
  · intro same
    rw [same, Int.mul_emod_left, Int.mul_ediv_cancel _ nonzero]
    exact ⟨rfl, rfl⟩

/-- A double is an integer of 64 bits exactly if it denotes one. -/
theorem toInteger?_eq_some_iff {number : Double} {whole : Int} :
    number.toInteger? = some whole ↔
      number.isFinite = true ∧ number.exact = whole ∧ -(2 ^ 63) ≤ whole ∧ whole < 2 ^ 63 := by
  rw [← isIntegral_iff, toInteger?, Option.ite_none_right_eq_some, Option.some_inj]
  constructor
  · rintro ⟨⟨finite, integral, inRange⟩, rfl⟩
    exact ⟨finite, ⟨integral, rfl⟩, inRange⟩
  · rintro ⟨finite, ⟨integral, rfl⟩, inRange⟩
    exact ⟨⟨finite, integral, inRange⟩, rfl⟩

/-! ### Integers as doubles -/

theorem negative_ofMagnitude (negative : Bool) {magnitude : Nat} (fits : magnitude < 2 ^ 63) :
    (ofMagnitude negative magnitude).negative = negative := by
  unfold ofMagnitude Double.negative
  rw [UInt64.toNat_ofNat']
  cases negative with
  | false =>
    rw [if_neg Bool.false_ne_true, decide_eq_false_iff_not]
    omega
  | true =>
    rw [if_pos rfl, decide_eq_true_iff]
    omega

/-- The fields of a magnitude, from its quanta in one of the binades above the first. -/
theorem fields_of_binade (binade : Nat) {quanta : Nat} (full : 2 ^ 52 ≤ quanta)
    (below : quanta < 2 ^ 53) :
    significandOf (binade * 2 ^ 52 + quanta) = quanta ∧
      exponentOf (binade * 2 ^ 52 + quanta) = binade - 1074 := by
  have quotient : (binade * 2 ^ 52 + quanta) / 2 ^ 52 = binade + 1 := by omega
  unfold significandOf exponentOf
  rw [quotient, if_neg (Nat.succ_ne_zero binade), if_neg (Nat.succ_ne_zero binade)]
  constructor
  · omega
  · omega

@[simp]
theorem roundQuotient_one (number : Nat) : roundQuotient number 1 = number := by
  unfold roundQuotient
  rw [Nat.div_one, Nat.mod_one]
  rfl

theorem quantumOf_one {number : Nat} (nonzero : number ≠ 0) :
    quantumOf number 1 = max (-1074) ((number.log2 : Int) - 52) := by
  have atLeast : 1 * 2 ^ ((number.log2 : Int) - Nat.log2 1).toNat ≤
      number * 2 ^ (-((number.log2 : Int) - Nat.log2 1)).toNat := by
    rw [show Nat.log2 1 = 0 from rfl,
      show ((number.log2 : Int) - (0 : Nat)).toNat = number.log2 by omega,
      show (-((number.log2 : Int) - (0 : Nat))).toNat = 0 by omega, Nat.one_mul, Nat.pow_zero,
      Nat.mul_one]
    exact Nat.log2_self_le nonzero
  unfold quantumOf
  dsimp only
  rw [if_pos (decide_eq_true atLeast)]
  rfl

/-- A natural number of at most 53 bits, moved up until it has 53, is a significand. -/
theorem nearest_of_lt {number : Nat} (nonzero : number ≠ 0) (small : number < 2 ^ 53) :
    nearest number 1 = (number.log2 + 1022) * 2 ^ 52 + number * 2 ^ (52 - number.log2) ∧
      2 ^ 52 ≤ number * 2 ^ (52 - number.log2) ∧ number * 2 ^ (52 - number.log2) < 2 ^ 53 := by
  have bits : number.log2 < 53 := (Nat.log2_lt nonzero).mpr small
  have full : 2 ^ 52 ≤ number * 2 ^ (52 - number.log2) := by
    calc 2 ^ 52 = 2 ^ number.log2 * 2 ^ (52 - number.log2) := by
          rw [← Nat.pow_add]
          congr 1
          omega
      _ ≤ number * 2 ^ (52 - number.log2) :=
          Nat.mul_le_mul_right _ (Nat.log2_self_le nonzero)
  have below : number * 2 ^ (52 - number.log2) < 2 ^ 53 := by
    calc number * 2 ^ (52 - number.log2)
        < 2 ^ (number.log2 + 1) * 2 ^ (52 - number.log2) :=
          Nat.mul_lt_mul_of_pos_right Nat.lt_log2_self (Nat.two_pow_pos _)
      _ = 2 ^ 53 := by
          rw [← Nat.pow_add]
          congr 1
          omega
  refine ⟨?_, full, below⟩
  have quantum : quantumOf number 1 = (number.log2 : Int) - 52 := by
    rw [quantumOf_one nonzero]
    omega
  unfold nearest infiniteMagnitude
  rw [if_neg nonzero, quantum]
  dsimp only
  rw [show ((number.log2 : Int) - 52).toNat = 0 by omega,
    show (-((number.log2 : Int) - 52)).toNat = 52 - number.log2 by omega,
    show ((number.log2 : Int) - 52 + 1074).toNat = number.log2 + 1022 by omega,
    Nat.pow_zero, Nat.mul_one, roundQuotient_one]
  omega

/-- Rounding does nothing to a natural number up to `2 ^ 53`. -/
theorem numeratorOf_nearest {number : Nat} (small : number ≤ 2 ^ 53) :
    numeratorOf (nearest number 1) = number * denominatorOf (nearest number 1) := by
  rcases Nat.lt_or_eq_of_le small with less | rfl
  · by_cases zero : number = 0
    · rw [zero, Nat.zero_mul]
      rfl
    · obtain ⟨magnitude, full, below⟩ := nearest_of_lt zero less
      have bits : number.log2 < 53 := (Nat.log2_lt zero).mpr less
      obtain ⟨significand, exponent⟩ := fields_of_binade (number.log2 + 1022) full below
      rw [numeratorOf, denominatorOf, magnitude, significand, exponent]
      rw [show (((number.log2 + 1022 : Nat) : Int) - 1074).toNat = 0 by omega,
        show (-(((number.log2 + 1022 : Nat) : Int) - 1074)).toNat = 52 - number.log2 by omega,
        Nat.pow_zero, Nat.mul_one]
  · decide +kernel

/-- An integer whose absolute value is at most `2 ^ 53` is the number of its nearest double. -/
theorem exact_ofInt {number : Int} (small : number.natAbs ≤ 2 ^ 53) :
    (ofInt number).exact = number := by
  have bound : nearest number.natAbs 1 < 2 ^ 63 := by
    have moderate : nearest number.natAbs 1 ≤ (53 + 1027) * 2 ^ 52 :=
      nearest_le Nat.one_ne_zero (by rwa [Nat.one_mul])
    omega
  have magnitude : (ofInt number).magnitude = nearest number.natAbs 1 :=
    magnitude_ofMagnitude _ bound
  have sign : (ofInt number).negative = decide (number < 0) := negative_ofMagnitude _ bound
  rw [exact_eq_intCast_iff, numerator, denominator, magnitude, sign, numeratorOf_nearest small]
  by_cases negative : number < 0
  · rw [if_pos (decide_eq_true negative), Nat.cast_mul,
      Int.ofNat_natAbs_of_nonpos (Int.le_of_lt negative)]
    ring
  · rw [if_neg (mt of_decide_eq_true negative), Nat.cast_mul,
      Int.natAbs_of_nonneg (Int.not_lt.mp negative)]

end Sieve.Double
