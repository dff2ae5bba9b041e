/-
Flags, integers and floats as numbers. A flag counts as zero or one, an integer is its own number,
and a finite float is the number that its bits denote. What is brought from one of these kinds to
another keeps its number, or it is refused: an integer goes to a float up to `2 ^ 53` on either side
of zero, and a float goes to an integer if it is one that 64 bits hold. So nothing is cut off and
nothing is rounded on the way.

A float that counts seconds is brought to the instant in the second that is its floor. The fraction
is rounded to nanoseconds, but never up into the next second, however close to it or however
small below zero the float is.
-/

import Sieve.Proofs.Double.Exact
import Sieve.Proofs.Value.Epoch

namespace Sieve

namespace Double

@[simp]
theorem exact_zero : zero.exact = 0 := by
  have integer : zero = ofInt 0 := by decide
  rw [integer, exact_ofInt (by decide), Int.cast_zero]

@[simp]
theorem exact_one : one.exact = 1 := by
  have integer : one = ofInt 1 := by decide
  rw [integer, exact_ofInt (by decide), Int.cast_one]

/-- A fraction never comes out as a whole second. -/
theorem nanoseconds_lt (number : Double) : number.nanoseconds < 10 ^ 9 :=
  Nat.lt_succ_of_le (Nat.min_le_left _ _)

end Double

namespace Value

open Calendar (Instant firstSecond lastSecond)

/-! ### Numbers -/

/-- The number that a flag, an integer or a finite float is. -/
def amount? : Value → Option ℚ
  | .bool flag => some (if flag then 1 else 0)
  | .int number => some number.toInt
  | .float number => if number.isFinite then some number.exact else none
  | .str _ | .list _ | .date _ | .datetime _ | .formula _ => none

theorem amount?_float {number : Double} (finite : number.isFinite = true) :
    (Value.float number).amount? = some number.exact :=
  if_pos finite

/-- The kinds of values that are numbers. -/
def numericKinds : List Kind :=
  [.bool, .int, .float]

/-! ### The tables, by source -/

theorem amount?_of_fromBool {flag : Bool} {target : Target} {result : Value}
    (numeric : target.kind ∈ numericKinds) (converted : fromBool flag target = some result) :
    result.amount? = (Value.bool flag).amount? := by
  cases target with
  | bool =>
    cases converted
    rfl
  | int =>
    cases converted
    cases flag with
    | false => exact congrArg some Int.cast_zero
    | true => exact congrArg some Int.cast_one
  | float =>
    cases converted
    cases flag with
    | false => exact (amount?_float Double.isFinite_zero).trans (congrArg some Double.exact_zero)
    | true => exact (amount?_float Double.isFinite_one).trans (congrArg some Double.exact_one)
  | str | list | sequence | date | datetime | formula => exact absurd numeric (by decide)

/-- An integer is brought to the float that is the same number. -/
theorem amount?_ofInt {number : Int} (small : number.natAbs ≤ exactIntegers) :
    (Value.float (.ofInt number)).amount? = some (number : ℚ) := by
  rw [amount?_float (Double.isFinite_ofInt small (by decide)), Double.exact_ofInt small]

theorem amount?_of_fromInt {number : Int64} {target : Target} {result : Value}
    (numeric : target.kind ∈ numericKinds) (converted : fromInt number target = some result) :
    result.amount? = (Value.int number).amount? := by
  cases target with
  | int =>
    cases converted
    rfl
  | float =>
    rw [fromInt] at converted
    split at converted
    · rename_i small
      cases converted
      exact amount?_ofInt small
    · cases converted
  | bool =>
    rw [fromInt] at converted
    split at converted
    · rename_i zero
      cases converted
      rw [zero]
      exact congrArg some Int.cast_zero.symm
    · split at converted
      · rename_i one
        cases converted
        rw [one]
        exact congrArg some Int.cast_one.symm
      · cases converted
  | str | list | sequence | date | datetime | formula => exact absurd numeric (by decide)

theorem amount?_of_fromFloat {number : Double} (finite : number.isFinite = true) {target : Target}
    {result : Value} (numeric : target.kind ∈ numericKinds)
    (converted : fromFloat number target = some result) :
    result.amount? = (Value.float number).amount? := by
  cases target with
  | float =>
    cases converted
    rfl
  | int =>
    obtain ⟨whole, found, rfl⟩ := Option.map_eq_some_iff.mp converted
    obtain ⟨_, same, atLeast, below⟩ := Double.toInteger?_eq_some_iff.mp found
    rw [amount?_float finite, same, amount?, Int64.toInt_ofInt_of_le atLeast below]
  | bool => cases converted
  | str | list | sequence | date | datetime | formula => exact absurd numeric (by decide)

/-! ### Conversions between numbers -/

theorem coerce_float_eq_ok_iff {target : Target} {number : Double} {result : Value} :
    coerce target (.float number) = .ok result ↔
      number.isFinite = true ∧ fromFloat number target = some result := by
  rw [coerce_eq_ok_iff, convert?, Option.ite_none_right_eq_some]

/-- A value that is a number is brought to a kind of numbers without a change of the number. -/
theorem amount?_of_coerce {target : Target} {value result : Value}
    (source : value.kind ∈ numericKinds) (numeric : target.kind ∈ numericKinds)
    (coerced : coerce target value = .ok result) :
    ∃ amount, value.amount? = some amount ∧ result.amount? = some amount := by
  cases value with
  | bool flag => exact ⟨_, rfl, amount?_of_fromBool numeric (coerce_eq_ok_iff.mp coerced)⟩
  | int number => exact ⟨_, rfl, amount?_of_fromInt numeric (coerce_eq_ok_iff.mp coerced)⟩
  | float number =>
    obtain ⟨finite, converted⟩ := coerce_float_eq_ok_iff.mp coerced
    have kept := amount?_of_fromFloat finite numeric converted
    rw [amount?_float finite] at kept
    exact ⟨_, amount?_float finite, kept⟩
  | str _ | list _ | date _ | datetime _ | formula _ =>
    exact absurd source (of_decide_eq_false rfl)

theorem coerce_float_int_eq_ok_iff {number : Int64} {result : Value} :
    coerce .float (.int number) = .ok result ↔
      number.toInt.natAbs ≤ 2 ^ 53 ∧ .float (.ofInt number.toInt) = result := by
  rw [coerce_eq_ok_iff, convert?, fromInt, Option.ite_none_right_eq_some, Option.some_inj,
    exactIntegers]

theorem coerce_int_float_eq_ok_iff {number : Double} {result : Value} :
    coerce .int (.float number) = .ok result ↔
      ∃ whole : Int, (number.isFinite = true ∧ number.exact = whole ∧ -(2 ^ 63) ≤ whole ∧
        whole < 2 ^ 63) ∧ .int (Int64.ofInt whole) = result := by
  rw [coerce_float_eq_ok_iff, fromFloat, Option.map_eq_some_iff]
  simp only [Double.toInteger?_eq_some_iff]
  constructor
  · exact And.right
  · rintro ⟨whole, ⟨finite, same⟩, rfl⟩
    exact ⟨finite, whole, ⟨finite, same⟩, rfl⟩

/-- An integer that is brought to a float is brought back. -/
theorem coerce_int_of_coerce_float {number : Int64} {result : Value}
    (coerced : coerce .float (.int number) = .ok result) :
    coerce .int result = .ok (.int number) := by
  obtain ⟨small, rfl⟩ := coerce_float_int_eq_ok_iff.mp coerced
  exact coerce_int_float_eq_ok_iff.mpr ⟨number.toInt,
    ⟨Double.isFinite_ofInt small (by decide), Double.exact_ofInt small, number.le_toInt,
      number.toInt_lt⟩, congrArg Value.int (Int64.ofInt_toInt number)⟩

/-! ### Seconds with a fraction -/

theorem coerce_datetime_float_eq_ok_iff {number : Double} {result : Value} :
    coerce .datetime (.float number) = .ok result ↔
      number.isFinite = true ∧ ∃ instant : Instant,
        (instant.second = ⌊number.exact⌋ ∧ instant.nanosecond = number.nanoseconds) ∧
          .datetime instant = result := by
  rw [coerce_float_eq_ok_iff, fromFloat, Option.map_eq_some_iff]
  simp only [Instant.of?_eq_some_iff_of_lt number.nanoseconds_lt, Double.floor_eq]

/-- The floats that are brought to an instant are those in the seconds of the years that are
kept. -/
theorem exists_coerce_datetime_float_iff {number : Double} :
    (∃ result, coerce .datetime (.float number) = .ok result) ↔
      number.isFinite = true ∧ firstSecond ≤ ⌊number.exact⌋ ∧ ⌊number.exact⌋ ≤ lastSecond := by
  rw [← Instant.exists_of?_iff number.nanoseconds_lt]
  simp only [coerce_datetime_float_eq_ok_iff,
    Instant.of?_eq_some_iff_of_lt number.nanoseconds_lt]
  constructor
  · rintro ⟨_, finite, instant, counts, _⟩
    exact ⟨finite, instant, counts⟩
  · rintro ⟨finite, instant, counts⟩
    exact ⟨_, finite, instant, counts, rfl⟩

/-- Bringing flags, integers and floats to one another keeps the number that they are. An integer is
brought to a float up to `2 ^ 53` on either side of zero, and comes back from it; a float is
brought to an integer if it is one of 64 bits. A float that counts seconds is brought to an
instant in the second that it lies in, and never to a leap second. -/
theorem numbers_are_never_truncated :
    (∀ (value result : Value) (target : Target), value.kind ∈ numericKinds →
      target.kind ∈ numericKinds → coerce target value = .ok result →
        ∃ amount, value.amount? = some amount ∧ result.amount? = some amount) ∧
    (∀ number : Int64, (∃ result, coerce .float (.int number) = .ok result) ↔
      number.toInt.natAbs ≤ 2 ^ 53) ∧
    (∀ number : Double, (∃ result, coerce .int (.float number) = .ok result) ↔
      number.isFinite = true ∧
        ∃ whole : Int, number.exact = whole ∧ -(2 ^ 63) ≤ whole ∧ whole < 2 ^ 63) ∧
    (∀ (number : Int64) (result : Value), coerce .float (.int number) = .ok result →
      coerce .int result = .ok (.int number)) ∧
    ∀ number : Double,
      ((∃ result, coerce .datetime (.float number) = .ok result) ↔ number.isFinite = true ∧
        firstSecond ≤ ⌊number.exact⌋ ∧ ⌊number.exact⌋ ≤ lastSecond) ∧
      ∀ result, coerce .datetime (.float number) = .ok result →
        ∃ instant : Instant, result = .datetime instant ∧ instant.second = ⌊number.exact⌋ ∧
          instant.nanosecond < 10 ^ 9 := by
  refine ⟨fun _ _ _ => amount?_of_coerce, fun number => ?_, fun number => ?_,
    fun _ _ => coerce_int_of_coerce_float,
    fun number => ⟨exists_coerce_datetime_float_iff, fun result coerced => ?_⟩⟩
  · simp only [coerce_float_int_eq_ok_iff, exists_and_left, exists_eq', and_true]
  · simp only [coerce_int_float_eq_ok_iff]
    constructor
    · rintro ⟨_, whole, ⟨finite, exact⟩, _⟩
      exact ⟨finite, whole, exact⟩
    · rintro ⟨finite, whole, exact⟩
      exact ⟨_, whole, ⟨finite, exact⟩, rfl⟩
  · obtain ⟨_, instant, ⟨second, nanosecond⟩, rfl⟩ := coerce_datetime_float_eq_ok_iff.mp coerced
    exact ⟨instant, rfl, second, nanosecond.trans_lt number.nanoseconds_lt⟩

/-- The greatest float below zero lies in the last second of 1969. The integer `-(2 ^ 53)` goes to a
float and comes back, and the first one after `2 ^ 53` is refused. -/
theorem least_time_before_epoch :
    let least : Double := .ofMagnitude true 1
    let last : Instant := ⟨-1, 999999999, by decide, by decide⟩
    (coerce .datetime (.float least) = .ok (.datetime last) ∧ last.second = ⌊least.exact⌋) ∧
      (∃ float amount, coerce .float (.int (-(2 ^ 53))) = .ok float ∧
        (Value.int (-(2 ^ 53))).amount? = some amount ∧ float.amount? = some amount ∧
          coerce .int float = .ok (.int (-(2 ^ 53)))) ∧
      ¬∃ result, coerce .float (.int (2 ^ 53 + 1)) = .ok result := by
  intro least last
  obtain ⟨numbers, floats, _, back, seconds⟩ := numbers_are_never_truncated
  have floor : (Double.ofMagnitude true 1).floor = -1 := by decide +kernel
  have nanoseconds : (Double.ofMagnitude true 1).nanoseconds = 999999999 := by decide +kernel
  have coerced : coerce .datetime (.float least) = .ok (.datetime last) := by
    refine coerce_datetime_float_eq_ok_iff.mpr ⟨by decide, last, ⟨?_, nanoseconds.symm⟩, rfl⟩
    rw [← Double.floor_eq]
    exact floor.symm
  obtain ⟨instant, same, second, _⟩ := (seconds least).2 _ coerced
  cases same
  obtain ⟨float, toFloat⟩ := (floats (-(2 ^ 53))).mpr (by decide)
  obtain ⟨amount, before, after⟩ := numbers _ _ .float (by decide) (by decide) toFloat
  exact ⟨⟨coerced, second⟩, ⟨float, amount, toFloat, before, after, back _ _ toFloat⟩,
    mt (floats _).mp (by decide)⟩

end Value

end Sieve
