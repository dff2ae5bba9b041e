/-
Day numbers. A day number falls into the year that it is not before and whose successor it is
before, and this year is the one that the estimate from the mean length of a year, set right by
at most one, comes to. In the year it falls into one month in the same way. So every day number
of the years that are kept is the number of a date, which is the date that it is turned into.
-/

import Mathlib.Algebra.GroupWithZero.Nat
import Mathlib.Data.List.GetD
import Sieve.Calendar.Instant

namespace Sieve.Calendar

/-! ### Years -/

/-- A year is as long as its months. -/
theorem daysBeforeYear_succ (year : Int) :
    daysBeforeYear (year + 1) =
      daysBeforeYear year + ((monthLengths (isLeapYear year)).sum : Nat) := by
  have length : (monthLengths (isLeapYear year)).sum =
      if isLeapYear year = true then 366 else 365 := by
    cases isLeapYear year <;> rfl
  rw [length]
  unfold daysBeforeYear isLeapYear
  simp only [Bool.and_eq_true, Bool.or_eq_true, decide_eq_true_iff]
  split <;> omega

theorem daysBeforeYear_mono {first second : Int} (le : first ≤ second) :
    daysBeforeYear first ≤ daysBeforeYear second := by
  unfold daysBeforeYear
  omega

/-- The estimate of a year is wrong by one at most. -/
theorem yearOfDay_spec (day : Int) :
    daysBeforeYear (yearOfDay day) ≤ day ∧ day < daysBeforeYear (yearOfDay day + 1) := by
  have near : daysBeforeYear (400 * day / 146097 + 1 - 1) ≤ day ∧
      day < daysBeforeYear (400 * day / 146097 + 1 + 1 + 1) := by
    unfold daysBeforeYear
    omega
  unfold yearOfDay
  dsimp only
  split
  · rename_i early
    rw [Int.sub_add_cancel]
    exact ⟨near.1, early⟩
  · split
    · rename_i late
      exact ⟨late, near.2⟩
    · omega

/-! ### Months -/

/-- The months are counted off until the one that a day falls into. -/
theorem monthAndDay_spec (lengths : List Nat) (first : Nat) {ordinal : Nat}
    (within : ordinal < lengths.sum) :
    ∃ index length, lengths[index]? = some length ∧
      (monthAndDay lengths first ordinal).1 = first + index ∧
      1 ≤ (monthAndDay lengths first ordinal).2 ∧
      (monthAndDay lengths first ordinal).2 ≤ length ∧
      ordinal + 1 = (lengths.take index).sum + (monthAndDay lengths first ordinal).2 := by
  induction lengths generalizing first ordinal with
  | nil => cases within
  | cons length rest inductionHypothesis =>
    rw [monthAndDay]
    by_cases here : ordinal < length
    · rw [if_pos here]
      refine ⟨0, length, rfl, rfl, Nat.le_add_left 1 ordinal, here, ?_⟩
      rw [List.take_zero, List.sum_nil, Nat.zero_add]
    · rw [if_neg here]
      rw [List.sum_cons] at within
      have left : ordinal - length < rest.sum := by omega
      obtain ⟨index, found, entry, month, positive, inMonth, days⟩ :=
        inductionHypothesis (first + 1) left
      refine ⟨index + 1, found, entry, by omega, positive, inMonth, ?_⟩
      rw [List.take_succ_cons, List.sum_cons]
      omega

theorem daysBeforeMonth_eq_sum (leap : Bool) (index : Nat) :
    daysBeforeMonth leap (1 + index) = ((monthLengths leap).take index).sum := by
  rw [daysBeforeMonth, Nat.add_sub_cancel_left, List.sum_eq_foldl]

theorem daysInMonth_of_getElem? {year : Int} {index length : Nat}
    (entry : (monthLengths (isLeapYear year))[index]? = some length) :
    daysInMonth year (1 + index) = length := by
  rw [daysInMonth, if_neg (by omega), Nat.add_sub_cancel_left, List.getD_eq_getElem?_getD, entry,
    Option.getD_some]

theorem daysInMonth_le (year : Int) (month : Nat) :
    daysInMonth year month ≤ 31 ∧ (12 < month → daysInMonth year month = 0) := by
  unfold daysInMonth
  split
  · exact ⟨Nat.zero_le _, fun _ => rfl⟩
  · have months : (monthLengths (isLeapYear year)).length = 12 := rfl
    rw [List.getD_eq_getElem?_getD]
    cases entry : (monthLengths (isLeapYear year))[month - 1]? with
    | none => exact ⟨Nat.zero_le _, fun _ => rfl⟩
    | some length =>
      obtain ⟨inside, _⟩ := List.getElem?_eq_some_iff.mp entry
      have short : ∀ length ∈ monthLengths (isLeapYear year), length ≤ 31 := by
        cases isLeapYear year <;> decide
      exact ⟨short length (List.mem_of_getElem? entry), fun late => by omega⟩

/-! ### Dates -/

theorem Date.ofParts?_eq_some {year : Int} {month day : Nat}
    (yearInRange : firstYear ≤ year ∧ year ≤ lastYear)
    (dayInMonth : 1 ≤ day ∧ day ≤ daysInMonth year month) :
    Date.ofParts? year month day = some ⟨year, month, day, yearInRange, dayInMonth⟩ := by
  rw [Date.ofParts?, dif_pos yearInRange, dif_pos dayInMonth]

theorem yearOfDay_inRange {day : Int} (late : daysBeforeYear firstYear ≤ day)
    (early : day < daysBeforeYear (lastYear + 1)) :
    firstYear ≤ yearOfDay day ∧ yearOfDay day ≤ lastYear := by
  obtain ⟨lower, upper⟩ := yearOfDay_spec day
  refine ⟨Int.not_lt.mp fun before => ?_, Int.not_lt.mp fun after => ?_⟩
  · have := daysBeforeYear_mono (Int.add_one_le_of_lt before)
    omega
  · have := daysBeforeYear_mono (Int.add_one_le_of_lt after)
    omega

/-- A day number of the years that are kept is turned into the date that has it. -/
theorem Date.exists_of_dayNumber {number : Int}
    (late : daysBeforeYear firstYear ≤ number + daysBeforeEpoch)
    (early : number + daysBeforeEpoch < daysBeforeYear (lastYear + 1)) :
    ∃ date, Date.ofDayNumber? number = some date ∧ date.dayNumber = number := by
  obtain ⟨lower, upper⟩ := yearOfDay_spec (number + daysBeforeEpoch)
  have yearInRange := yearOfDay_inRange late early
  unfold Date.ofDayNumber?
  dsimp only
  generalize yearOfDay (number + daysBeforeEpoch) = year at lower upper yearInRange
  rw [daysBeforeYear_succ] at upper
  generalize ordinalShape : (number + daysBeforeEpoch - daysBeforeYear year).toNat = ordinal
  have within : ordinal < (monthLengths (isLeapYear year)).sum := by omega
  obtain ⟨index, length, entry, counted, positive, inMonth, days⟩ := monthAndDay_spec _ 1 within
  generalize monthAndDay (monthLengths (isLeapYear year)) 1 ordinal = parts
    at counted positive inMonth days ⊢
  obtain ⟨month, day⟩ := parts
  obtain rfl : month = 1 + index := counted
  rw [Date.ofParts?_eq_some yearInRange ⟨positive, daysInMonth_of_getElem? entry ▸ inMonth⟩]
  refine ⟨_, rfl, ?_⟩
  unfold Date.dayNumber
  dsimp only at days ⊢
  rw [daysBeforeMonth_eq_sum]
  omega

/-- Every instant lies on a date. -/
theorem Instant.exists_date (instant : Instant) :
    ∃ date, instant.date? = some date ∧ date.dayNumber = instant.second / 86400 := by
  have range := instant.secondInRange
  unfold firstSecond lastSecond at range
  refine Date.exists_of_dayNumber ?_ ?_
  · unfold daysBeforeYear firstYear daysBeforeEpoch
    omega
  · unfold daysBeforeYear lastYear daysBeforeEpoch
    omega

end Sieve.Calendar
