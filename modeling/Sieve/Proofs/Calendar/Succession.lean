/-
Dates one after another. A date lies before another if its year does, or in the same year its
month, or in the same month its day; and the day after a date is the next day of its month, or
the first of the next month, or the first of January of the next year. Day numbers follow both:
they rise along the order of dates, and by one from each day to the next. So a day number counts
the days of the calendar from the first of January 1970, a date has its number for itself, and
turning the number back gives the date.

The date at midnight is an instant for every date, and this instant lies on the date.
-/

import Mathlib.Algebra.Order.BigOperators.Group.List
import Mathlib.Algebra.Order.Group.Nat
import Sieve.Proofs.Calendar.Date

namespace Sieve.Calendar

/-! ### The days of a year -/

/-- A month begins when the days of the month before it are over. -/
theorem daysBeforeMonth_succ (year : Int) {month : Nat} (positive : 1 ≤ month) :
    daysBeforeMonth (isLeapYear year) (month + 1) =
      daysBeforeMonth (isLeapYear year) month + daysInMonth year month := by
  obtain ⟨index, rfl⟩ := Nat.exists_eq_add_of_le positive
  rw [Nat.add_assoc, daysBeforeMonth_eq_sum, daysBeforeMonth_eq_sum, List.take_add_one,
    List.sum_append, daysInMonth, if_neg (by omega), Nat.add_sub_cancel_left,
    List.getD_eq_getElem?_getD]
  cases (monthLengths (isLeapYear year))[index]? with
  | none => rfl
  | some length => rfl

theorem daysBeforeMonth_mono (leap : Bool) {first second : Nat} (le : first ≤ second) :
    daysBeforeMonth leap first ≤ daysBeforeMonth leap second := by
  unfold daysBeforeMonth
  rw [← List.sum_eq_foldl, ← List.sum_eq_foldl]
  have fewer : first - 1 ≤ second - 1 := Nat.sub_le_sub_right le 1
  exact (List.take_sublist_take_left fewer).sum_le_sum fun _ _ => Nat.zero_le _

theorem daysBeforeMonth_le (leap : Bool) (month : Nat) :
    daysBeforeMonth leap month ≤ (monthLengths leap).sum := by
  unfold daysBeforeMonth
  rw [← List.sum_eq_foldl]
  exact (List.take_sublist _ _).sum_le_sum fun _ _ => Nat.zero_le _

namespace Date

theorem month_inRange (date : Date) : 1 ≤ date.month ∧ date.month ≤ 12 := by
  have inMonth := date.dayInMonth
  refine ⟨Nat.one_le_iff_ne_zero.mpr fun zero => ?_, Nat.le_of_not_lt fun late => ?_⟩
  · have none : daysInMonth date.year 0 = 0 := rfl
    rw [zero, none] at inMonth
    omega
  · have none := (daysInMonth_le date.year date.month).2 late
    omega

/-- A date lies in its month. -/
theorem daysBeforeMonth_add_day_le (date : Date) :
    daysBeforeMonth (isLeapYear date.year) date.month + date.day ≤
      daysBeforeMonth (isLeapYear date.year) (date.month + 1) := by
  rw [daysBeforeMonth_succ _ date.month_inRange.1]
  exact Nat.add_le_add_left date.dayInMonth.2 _

/-- A date lies in its year. -/
theorem dayNumber_inYear (date : Date) :
    daysBeforeYear date.year ≤ date.dayNumber + daysBeforeEpoch ∧
      date.dayNumber + daysBeforeEpoch < daysBeforeYear (date.year + 1) := by
  have inMonth := date.daysBeforeMonth_add_day_le
  have inYear := daysBeforeMonth_le (isLeapYear date.year) (date.month + 1)
  have positive := date.dayInMonth.1
  rw [daysBeforeYear_succ]
  unfold dayNumber
  omega

/-! ### The order of dates -/

instance : LT Date where
  lt first second :=
    first.year < second.year ∨ first.year = second.year ∧
      (first.month < second.month ∨ first.month = second.month ∧ first.day < second.day)

theorem lt_iff {first second : Date} :
    first < second ↔
      first.year < second.year ∨ first.year = second.year ∧
        (first.month < second.month ∨ first.month = second.month ∧ first.day < second.day) :=
  Iff.rfl

theorem eq_of_parts {first second : Date} (year : first.year = second.year)
    (month : first.month = second.month) (day : first.day = second.day) : first = second := by
  obtain ⟨_, _, _, _, _⟩ := first
  obtain ⟨_, _, _, _, _⟩ := second
  cases year
  cases month
  cases day
  rfl

theorem lt_trichotomy (first second : Date) : first < second ∨ first = second ∨ second < first := by
  by_cases same : first.year = second.year ∧ first.month = second.month ∧ first.day = second.day
  · obtain ⟨year, month, day⟩ := same
    exact Or.inr (Or.inl (eq_of_parts year month day))
  · rw [lt_iff, lt_iff]
    omega

theorem dayNumber_lt {first second : Date} (before : first < second) :
    first.dayNumber < second.dayNumber := by
  rcases lt_iff.mp before with year | ⟨year, month | ⟨month, day⟩⟩
  · have inFirst := first.dayNumber_inYear.2
    have inSecond := second.dayNumber_inYear.1
    have years := daysBeforeYear_mono (Int.add_one_le_of_lt year)
    omega
  · have inFirst := first.daysBeforeMonth_add_day_le
    have months := daysBeforeMonth_mono (isLeapYear first.year) (Nat.add_one_le_of_lt month)
    have positive := second.dayInMonth.1
    unfold dayNumber
    rw [← year]
    omega
  · unfold dayNumber
    rw [← year, ← month]
    omega

/-- Day numbers rise along the order of dates. -/
@[simp]
theorem dayNumber_lt_iff {first second : Date} :
    first.dayNumber < second.dayNumber ↔ first < second := by
  refine ⟨fun less => ?_, dayNumber_lt⟩
  rcases lt_trichotomy first second with before | rfl | after
  · exact before
  · exact absurd less (Int.lt_irrefl _)
  · exact absurd less (Int.lt_asymm (dayNumber_lt after))

@[simp]
theorem dayNumber_inj {first second : Date} :
    first.dayNumber = second.dayNumber ↔ first = second := by
  refine ⟨fun same => ?_, fun same => same ▸ rfl⟩
  rcases lt_trichotomy first second with before | equal | after
  · exact absurd same (Int.ne_of_lt (dayNumber_lt before))
  · exact equal
  · exact absurd same.symm (Int.ne_of_lt (dayNumber_lt after))

/-! ### The next day -/

/-- Whether a date is the day after another, by the lengths of the months. -/
def IsDayAfter (next date : Date) : Prop :=
  if date.day < daysInMonth date.year date.month then
    next.year = date.year ∧ next.month = date.month ∧ next.day = date.day + 1
  else if date.month < 12 then
    next.year = date.year ∧ next.month = date.month + 1 ∧ next.day = 1
  else next.year = date.year + 1 ∧ next.month = 1 ∧ next.day = 1

/-- From each day to the next the number rises by one. -/
theorem IsDayAfter.dayNumber_eq {next date : Date} (after : next.IsDayAfter date) :
    next.dayNumber = date.dayNumber + 1 := by
  have inMonth := date.dayInMonth
  have months := daysBeforeMonth_succ date.year date.month_inRange.1
  unfold IsDayAfter at after
  unfold dayNumber
  split at after
  · obtain ⟨year, month, day⟩ := after
    rw [year, month, day]
    omega
  · split at after
    · obtain ⟨year, month, day⟩ := after
      rw [year, month, day, months]
      omega
    · obtain ⟨year, month, day⟩ := after
      have december : date.month = 12 := by
        have := date.month_inRange
        omega
      have days : daysBeforeMonth (isLeapYear date.year) (12 + 1) =
          (monthLengths (isLeapYear date.year)).sum := by
        cases isLeapYear date.year <;> rfl
      have january : daysBeforeMonth (isLeapYear (date.year + 1)) 1 = 0 := rfl
      rw [december, days] at months
      rw [year, month, day, daysBeforeYear_succ, months, january, ← december]
      omega

/-! ### Turning day numbers back -/

/-- The number of a date is turned back into the date. -/
@[simp]
theorem ofDayNumber?_dayNumber (date : Date) : ofDayNumber? date.dayNumber = some date := by
  obtain ⟨lower, upper⟩ := date.dayNumber_inYear
  obtain ⟨notEarly, notLate⟩ := date.yearInRange
  have late := (daysBeforeYear_mono notEarly).trans lower
  have early := lt_of_lt_of_le upper (daysBeforeYear_mono (Int.add_le_add_right notLate 1))
  obtain ⟨found, turned, number⟩ := exists_of_dayNumber late early
  rw [turned, dayNumber_inj.mp number]

/-- Every date has a midnight, which is the first second of its day. -/
theorem exists_midnight (date : Date) :
    ∃ instant, date.midnight? = some instant ∧ instant.second = date.dayNumber * 86400 ∧
      instant.date? = some date := by
  obtain ⟨lower, upper⟩ := date.dayNumber_inYear
  obtain ⟨notEarly, notLate⟩ := date.yearInRange
  have first := daysBeforeYear_mono notEarly
  have last := daysBeforeYear_mono (Int.add_le_add_right notLate 1)
  have secondInRange : firstSecond ≤ date.dayNumber * 86400 ∧
      date.dayNumber * 86400 ≤ lastSecond := by
    have start : daysBeforeYear firstYear = -95746130 := by decide
    have finish : daysBeforeYear (lastYear + 1) = 95745399 := by decide
    unfold firstSecond lastSecond
    unfold daysBeforeEpoch at lower upper
    omega
  let midnight : Instant := ⟨date.dayNumber * 86400, 0, secondInRange, by decide⟩
  have regular : ¬midnight.LeapsEarly := Instant.not_leapsEarly_of_lt (Nat.pow_pos (Nat.succ_pos 9))
  refine ⟨midnight, Instant.of?_eq_some_iff.mpr ⟨⟨rfl, rfl⟩, regular⟩, rfl, ?_⟩
  unfold Instant.date?
  rw [Int.mul_ediv_cancel _ (by decide)]
  exact date.ofDayNumber?_dayNumber

end Date

end Sieve.Calendar
