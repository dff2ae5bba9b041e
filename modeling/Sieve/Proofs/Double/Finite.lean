/-
This file shows that rounding a fraction of moderate size gives a finite double. A
fraction below `2 ^ k` is rounded to a quantum of at most `2 ^ (k - 52)`, of which it
has no more than 54 bits; so its magnitude lies a few binades above that of `2 ^ k` at
most, and infinity is far away for the sizes that occur: integers that are exact as
doubles, and counts of seconds in the years that are kept.

The bounds are crude. They are not what rounding to the nearest double guarantees, but
what it takes to stay below infinity.
-/

import Mathlib.Data.Nat.Log
import Mathlib.Tactic.Ring
import Sieve.Calendar.Instant
import Sieve.Double.Basic

namespace Sieve.Double

/-! ### The size of a rounded fraction -/

theorem roundQuotient_le {numerator denominator bound : Nat}
    (le : numerator ≤ denominator * bound) :
    roundQuotient numerator denominator ≤ bound + 1 := by
  have quotient : numerator / denominator ≤ bound := Nat.div_le_of_le_mul le
  unfold roundQuotient
  dsimp only
  split
  · omega
  · split
    · omega
    · split
      · omega
      · omega

theorem log2_le_of_le_mul {numerator denominator exponent : Nat} (nonzero : numerator ≠ 0)
    (le : numerator ≤ denominator * 2 ^ exponent) :
    numerator.log2 ≤ denominator.log2 + exponent := by
  have below : numerator < 2 ^ (denominator.log2 + 1 + exponent) := by
    rw [Nat.pow_add]
    exact lt_of_le_of_lt le (Nat.mul_lt_mul_of_pos_right Nat.lt_log2_self (Nat.two_pow_pos _))
  have bits := (Nat.log2_lt nonzero).mpr below
  omega

theorem quantumOf_le {numerator denominator exponent : Nat} (nonzero : numerator ≠ 0)
    (le : numerator ≤ denominator * 2 ^ exponent) :
    quantumOf numerator denominator ≤ exponent - 52 := by
  have bits := log2_le_of_le_mul nonzero le
  unfold quantumOf
  dsimp only
  split
  · omega
  · omega

theorem le_quantumOf (numerator denominator : Nat) :
    (numerator.log2 : Int) - denominator.log2 - 53 ≤ quantumOf numerator denominator := by
  unfold quantumOf
  dsimp only
  split
  · omega
  · omega

/-- A fraction has at most 54 bits in units of its quantum. -/
theorem quanta_le (numerator : Nat) {denominator : Nat} (positive : denominator ≠ 0) :
    numerator * 2 ^ (-quantumOf numerator denominator).toNat ≤
      denominator * 2 ^ (quantumOf numerator denominator).toNat * 2 ^ 54 := by
  have fine := le_quantumOf numerator denominator
  generalize quantumOf numerator denominator = quantum at fine ⊢
  have exponents : numerator.log2 + 1 + (-quantum).toNat ≤
      denominator.log2 + quantum.toNat + 54 := by omega
  calc numerator * 2 ^ (-quantum).toNat
      ≤ 2 ^ (numerator.log2 + 1) * 2 ^ (-quantum).toNat :=
        Nat.mul_le_mul_right _ (Nat.le_of_lt Nat.lt_log2_self)
    _ = 2 ^ (numerator.log2 + 1 + (-quantum).toNat) := (Nat.pow_add _ _ _).symm
    _ ≤ 2 ^ (denominator.log2 + quantum.toNat + 54) :=
        Nat.pow_le_pow_right Nat.two_pos exponents
    _ = 2 ^ denominator.log2 * 2 ^ quantum.toNat * 2 ^ 54 := by rw [Nat.pow_add, Nat.pow_add]
    _ ≤ denominator * 2 ^ quantum.toNat * 2 ^ 54 :=
        Nat.mul_le_mul_right _ (Nat.mul_le_mul_right _ (Nat.log2_self_le positive))

/-- A fraction up to `2 ^ exponent` is rounded to a magnitude in the binades around it. -/
theorem nearest_le {numerator denominator exponent : Nat} (positive : denominator ≠ 0)
    (le : numerator ≤ denominator * 2 ^ exponent) :
    nearest numerator denominator ≤ (exponent + 1027) * 2 ^ 52 := by
  unfold nearest
  split
  · exact Nat.zero_le _
  · rename_i nonzero
    have coarse := quantumOf_le nonzero le
    have quanta := roundQuotient_le (quanta_le numerator positive)
    dsimp only
    generalize quantumOf numerator denominator = quantum at coarse quanta ⊢
    refine le_trans (min_le_right _ _) ?_
    have binade : (quantum + 1074).toNat ≤ exponent + 1022 := by omega
    omega

/-! ### Finite doubles -/

theorem magnitude_ofMagnitude (negative : Bool) {magnitude : Nat} (fits : magnitude < 2 ^ 63) :
    (ofMagnitude negative magnitude).magnitude = magnitude := by
  unfold ofMagnitude Double.magnitude
  rw [UInt64.toNat_ofNat']
  cases negative with
  | false =>
    rw [if_neg Bool.false_ne_true]
    omega
  | true =>
    rw [if_pos rfl]
    omega

theorem isFinite_ofMagnitude (negative : Bool) {magnitude : Nat}
    (small : magnitude < infiniteMagnitude) : (ofMagnitude negative magnitude).isFinite = true := by
  have fits : magnitude < 2 ^ 63 := by
    unfold infiniteMagnitude at small
    omega
  rw [isFinite, magnitude_ofMagnitude negative fits, decide_eq_true_iff]
  exact small

theorem isFinite_ofFraction {numerator : Int} {denominator exponent : Nat}
    (positive : denominator ≠ 0) (le : numerator.natAbs ≤ denominator * 2 ^ exponent)
    (moderate : exponent < 1000) : (ofFraction numerator denominator).isFinite = true := by
  have bound := nearest_le positive le
  refine isFinite_ofMagnitude _ (lt_of_le_of_lt bound ?_)
  unfold infiniteMagnitude
  omega

theorem isFinite_ofInt {number : Int} {exponent : Nat} (le : number.natAbs ≤ 2 ^ exponent)
    (moderate : exponent < 1000) : (ofInt number).isFinite = true :=
  isFinite_ofFraction Nat.one_ne_zero (by rwa [Nat.one_mul]) moderate

@[simp]
theorem isFinite_zero : zero.isFinite = true := by decide

@[simp]
theorem isFinite_one : one.isFinite = true := by decide

/-! ### Counts of seconds -/

@[simp]
theorem denominatorOf_ne_zero (magnitude : Nat) : denominatorOf magnitude ≠ 0 :=
  Nat.ne_of_gt (Nat.two_pow_pos _)

theorem significandOf_le (magnitude : Nat) : significandOf magnitude ≤ 2 ^ 53 := by
  unfold significandOf
  split
  · omega
  · omega

/-- The fraction of a magnitude, from the binade that it lies in. -/
theorem numeratorOf_le {magnitude exponent : Nat} (le : magnitude ≤ (exponent + 1022) * 2 ^ 52) :
    numeratorOf magnitude ≤ denominatorOf magnitude * 2 ^ exponent := by
  have scale : exponentOf magnitude ≤ exponent - 53 := by
    unfold exponentOf
    split
    · omega
    · omega
  have exponents : 53 + (exponentOf magnitude).toNat ≤
      (-exponentOf magnitude).toNat + exponent := by omega
  calc significandOf magnitude * 2 ^ (exponentOf magnitude).toNat
      ≤ 2 ^ 53 * 2 ^ (exponentOf magnitude).toNat := Nat.mul_le_mul_right _ (significandOf_le magnitude)
    _ = 2 ^ (53 + (exponentOf magnitude).toNat) := (Nat.pow_add _ _ _).symm
    _ ≤ 2 ^ ((-exponentOf magnitude).toNat + exponent) :=
        Nat.pow_le_pow_right Nat.two_pos exponents
    _ = denominatorOf magnitude * 2 ^ exponent := Nat.pow_add _ _ _

@[simp]
theorem natAbs_numerator (number : Double) :
    number.numerator.natAbs = numeratorOf number.magnitude := by
  unfold numerator
  split
  · rw [Int.natAbs_neg, Int.natAbs_natCast]
  · rw [Int.natAbs_natCast]

/-- The numerator of the sum of two fractions that are both below a power of two. -/
theorem natAbs_sum_le {first : Int} {second firstUnit secondUnit exponent : Nat}
    (firstLe : first.natAbs ≤ firstUnit * 2 ^ exponent)
    (secondLe : second ≤ secondUnit * 2 ^ exponent) :
    (first * secondUnit + (second * firstUnit : Nat) : Int).natAbs ≤
      firstUnit * secondUnit * 2 ^ (exponent + 1) := by
  calc (first * secondUnit + (second * firstUnit : Nat) : Int).natAbs
      ≤ first.natAbs * secondUnit + second * firstUnit := by
        refine le_trans (Int.natAbs_add_le _ _) ?_
        rw [Int.natAbs_mul, Int.natAbs_natCast, Int.natAbs_natCast]
    _ ≤ firstUnit * 2 ^ exponent * secondUnit + secondUnit * 2 ^ exponent * firstUnit :=
        Nat.add_le_add (Nat.mul_le_mul_right _ firstLe) (Nat.mul_le_mul_right _ secondLe)
    _ = firstUnit * secondUnit * 2 ^ (exponent + 1) := by ring

theorem natAbs_second_le (instant : Calendar.Instant) : instant.second.natAbs ≤ 2 ^ 43 := by
  have range := instant.secondInRange
  unfold Calendar.firstSecond Calendar.lastSecond at range
  omega

/-- The seconds of the years that are kept, with a fraction, make a finite double. -/
@[simp]
theorem isFinite_ofSeconds (instant : Calendar.Instant) :
    (ofSeconds instant.second instant.nanosecond).isFinite = true := by
  have secondLe : instant.second.natAbs ≤ 1 * 2 ^ 43 := by
    rw [Nat.one_mul]
    exact natAbs_second_le instant
  have nanosecondLe : instant.nanosecond ≤ 10 ^ 9 * 2 ^ 1 := by
    have range := instant.nanosecondInRange
    omega
  have wholeMagnitude : (ofInt instant.second).magnitude ≤ (48 + 1022) * 2 ^ 52 := by
    have bound := nearest_le Nat.one_ne_zero secondLe
    unfold ofInt ofFraction
    rw [magnitude_ofMagnitude _ (by omega)]
    exact bound
  have wholeLe := numeratorOf_le wholeMagnitude
  have fractionMagnitude : nearest instant.nanosecond (10 ^ 9) ≤ (6 + 1022) * 2 ^ 52 :=
    nearest_le (by decide) nanosecondLe
  have fractionLe := numeratorOf_le fractionMagnitude
  unfold ofSeconds
  dsimp only
  rw [← natAbs_numerator] at wholeLe
  have sumLe := natAbs_sum_le wholeLe (fractionLe.trans (Nat.mul_le_mul_left _ (by decide)))
  exact isFinite_ofFraction
    (Nat.mul_ne_zero (denominatorOf_ne_zero _) (denominatorOf_ne_zero _)) sumLe (by decide)

end Sieve.Double
