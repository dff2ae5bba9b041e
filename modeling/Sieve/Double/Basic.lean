/-
Double precision numbers by their bits. A double is a sign and a magnitude; the
magnitude of a finite double is a whole number of quanta, `significand * 2 ^
exponent`. All arithmetic here is exact arithmetic on naturals followed by one
rounding to the nearest double, ties to the even significand, which is what the
standard demands of each basic operation.

The magnitude is the lower 63 bits read as one natural number. In that reading
consecutive doubles have consecutive magnitudes, so rounding up into the next
binade is an ordinary carry, and infinity is the magnitude after the last finite
one.
-/

import Sieve.Power

namespace Sieve

/-- A binary64 number. Two doubles are equal when their bits are. -/
structure Double where
  bits : UInt64
deriving DecidableEq, Repr

namespace Double

/-! ### Fields -/

/-- Everything but the sign. -/
def magnitude (number : Double) : Nat :=
  number.bits.toNat % 2 ^ 63

def negative (number : Double) : Bool :=
  decide (2 ^ 63 ≤ number.bits.toNat)

/-- The magnitude of infinity; larger magnitudes are no numbers. -/
def infiniteMagnitude : Nat :=
  0x7FF * 2 ^ 52

def isFinite (number : Double) : Bool :=
  decide (number.magnitude < infiniteMagnitude)

def isNaN (number : Double) : Bool :=
  decide (infiniteMagnitude < number.magnitude)

/-- The double with a given sign and magnitude. -/
def ofMagnitude (negative : Bool) (magnitude : Nat) : Double :=
  ⟨UInt64.ofNat (if negative then 2 ^ 63 + magnitude else magnitude)⟩

def zero : Double :=
  ofMagnitude false 0

def one : Double :=
  ofMagnitude false (1023 * 2 ^ 52)

/-- The whole number of quanta in a finite magnitude. -/
def significandOf (magnitude : Nat) : Nat :=
  if magnitude / 2 ^ 52 = 0 then magnitude else 2 ^ 52 + magnitude % 2 ^ 52

/-- The binary exponent of the quantum of a finite magnitude. -/
def exponentOf (magnitude : Nat) : Int :=
  if magnitude / 2 ^ 52 = 0 then -1074 else (magnitude / 2 ^ 52 : Nat) - 1075

/-- The numerator of a finite magnitude, read as an exact fraction. -/
def numeratorOf (magnitude : Nat) : Nat :=
  significandOf magnitude * 2 ^ (exponentOf magnitude).toNat

/-- The denominator of a finite magnitude, read as an exact fraction: a power of two. -/
def denominatorOf (magnitude : Nat) : Nat :=
  2 ^ (-exponentOf magnitude).toNat

/-- The numerator of a finite double with its sign. -/
def numerator (number : Double) : Int :=
  if number.negative then -(numeratorOf number.magnitude : Int)
  else numeratorOf number.magnitude

def denominator (number : Double) : Nat :=
  denominatorOf number.magnitude

/-! ### Rounding -/

/-- The quotient rounded to the nearest natural number, ties to the even one. -/
def roundQuotient (numerator denominator : Nat) : Nat :=
  let quotient := numerator / denominator
  let remainder := numerator % denominator
  if 2 * remainder < denominator then quotient
  else if denominator < 2 * remainder then quotient + 1
  else if quotient % 2 = 0 then quotient
  else quotient + 1

/-- The binary exponent of the quantum that a positive fraction is rounded to: the fraction has
53 bits in units of it, or fewer where the quantum cannot get smaller. -/
def quantumOf (numerator denominator : Nat) : Int :=
  let estimate : Int := (numerator.log2 : Int) - denominator.log2
  let atLeast : Bool :=
    decide (denominator * 2 ^ estimate.toNat ≤ numerator * 2 ^ (-estimate).toNat)
  max (-1074) ((if atLeast then estimate else estimate - 1) - 52)

/-- The magnitude nearest to a fraction. A fraction too large for any finite double gives the
magnitude of infinity. -/
def nearest (numerator denominator : Nat) : Nat :=
  if numerator = 0 then 0
  else
    let quantum := quantumOf numerator denominator
    let quanta := roundQuotient (numerator * 2 ^ (-quantum).toNat) (denominator * 2 ^ quantum.toNat)
    min infiniteMagnitude ((quantum + 1074).toNat * 2 ^ 52 + quanta)

/-- The double nearest to a fraction; the sum of two opposite numbers is the positive zero. -/
def ofFraction (numerator : Int) (denominator : Nat) : Double :=
  ofMagnitude (decide (numerator < 0)) (nearest numerator.natAbs denominator)

/-- The double nearest to an integer. -/
def ofInt (number : Int) : Double :=
  ofFraction number 1

/-- The magnitude of the product with a fraction, rounded once. -/
def scale (magnitude numerator denominator : Nat) : Nat :=
  nearest (numeratorOf magnitude * numerator) (denominatorOf magnitude * denominator)

/-! ### Integers in doubles -/

/-- The largest integer that a finite double does not lie below. -/
def floor (number : Double) : Int :=
  Int.fdiv number.numerator number.denominator

/-- Whether a finite double has no fraction. -/
def isIntegral (number : Double) : Bool :=
  decide (number.numerator % number.denominator = 0)

/-- The integer of 64 bits that a double is, if it is one. -/
def toInteger? (number : Double) : Option Int :=
  if number.isFinite ∧ number.isIntegral ∧ -(2 ^ 63) ≤ number.floor ∧ number.floor < 2 ^ 63 then
    some number.floor
  else none

/-- The nanoseconds in the fraction of a finite double that counts seconds. The fraction is
first rounded to a double, so is its product with a thousand million, and that is rounded to a
whole number, halves upwards; a fraction that comes out as a whole second stays just below. -/
def nanoseconds (number : Double) : Nat :=
  let fraction :=
    nearest (number.numerator - number.floor * number.denominator).toNat number.denominator
  let product := scale fraction (10 ^ 9) 1
  min 999999999 ((2 * numeratorOf product + denominatorOf product) / (2 * denominatorOf product))

/-- The double nearest to a number of seconds and nanoseconds: the nanoseconds are divided first,
and the sum of the two doubles is rounded again. -/
def ofSeconds (seconds : Int) (nanoseconds : Nat) : Double :=
  let whole := ofInt seconds
  let fraction := nearest nanoseconds (10 ^ 9)
  ofFraction (whole.numerator * denominatorOf fraction + numeratorOf fraction * whole.denominator)
    (whole.denominator * denominatorOf fraction)

end Double

/-- A double that is a number, neither infinite nor undefined. -/
abbrev FiniteDouble := { number : Double // number.isFinite = true }

end Sieve
