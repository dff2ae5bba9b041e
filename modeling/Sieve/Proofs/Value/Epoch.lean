/-
Integers, dates and instants as counts of one another. An integer counts seconds from the start
of 1970, a date begins with the first of its seconds, and an instant lies on the date whose
seconds it is among. Going from one of the three to another by way of the third ends where the
direct way ends, and fails where it fails: all ways go through the number of the day, which is the
number of seconds divided by those of a day, rounded down for times before 1970 as well.

So a date survives any way around. An instant loses what lies after the last midnight when it is
brought to a date, and nothing else; a leap second lies on the date of the second before it.
-/

import Mathlib.Order.Bounds.Defs
import Sieve.Proofs.Calendar.Succession
import Sieve.Proofs.Calendar.Text
import Sieve.Proofs.Outcome
import Sieve.Value.Coercion

namespace Sieve

namespace Calendar.Instant

/-- Without a leap second, the counts are all that there is to an instant. -/
theorem of?_eq_some_iff_of_lt {second : Int} {nanosecond : Nat} (below : nanosecond < 10 ^ 9)
    {instant : Instant} :
    of? second nanosecond = some instant ↔
      instant.second = second ∧ instant.nanosecond = nanosecond := by
  rw [of?_eq_some_iff]
  refine and_iff_left_of_imp ?_
  rintro ⟨_, rfl⟩
  exact not_leapsEarly_of_lt below

/-- The seconds that are counted are those of the years that are kept. -/
theorem exists_of?_iff {second : Int} {nanosecond : Nat} (below : nanosecond < 10 ^ 9) :
    (∃ instant, of? second nanosecond = some instant) ↔
      firstSecond ≤ second ∧ second ≤ lastSecond := by
  constructor
  · rintro ⟨instant, found⟩
    rw [← (of?_eq_some_iff.mp found).1.1]
    exact instant.secondInRange
  · intro inRange
    have fits : nanosecond < 2 * 10 ^ 9 := by omega
    exact ⟨⟨second, nanosecond, inRange, fits⟩, (of?_eq_some_iff_of_lt below).mpr ⟨rfl, rfl⟩⟩

/-- The seconds of an instant fit into 64 bits. -/
theorem toInt_ofInt_second (instant : Instant) :
    (Int64.ofInt instant.second).toInt = instant.second := by
  have inRange := instant.secondInRange
  unfold firstSecond lastSecond at inRange
  exact Int64.toInt_ofInt_of_le (by omega) (by omega)

end Calendar.Instant

namespace Value

open Calendar (Date Instant firstSecond lastSecond)

/-! ### Single conversions -/

theorem coerce_datetime_int_eq_ok_iff {number : Int64} {result : Value} :
    coerce .datetime (.int number) = .ok result ↔
      ∃ instant, Instant.of? number.toInt 0 = some instant ∧ .datetime instant = result := by
  rw [coerce_eq_ok_iff, convert?, fromInt, Option.map_eq_some_iff]

theorem coerce_date_int_eq_ok_iff {number : Int64} {result : Value} :
    coerce .date (.int number) = .ok result ↔
      ∃ instant date, Instant.of? number.toInt 0 = some instant ∧ instant.date? = some date ∧
        .date date = result := by
  rw [coerce_eq_ok_iff, convert?, fromInt, Option.map_eq_some_iff]
  simp only [Option.bind_eq_some_iff]
  constructor
  · rintro ⟨date, ⟨instant, counted, found⟩, same⟩
    exact ⟨instant, date, counted, found, same⟩
  · rintro ⟨instant, date, counted, found, same⟩
    exact ⟨date, ⟨instant, counted, found⟩, same⟩

theorem coerce_date_datetime {instant : Instant} {date : Date}
    (found : instant.date? = some date) : coerce .date (.datetime instant) = .ok (.date date) := by
  rw [coerce_eq_ok_iff, convert?, fromInstant, found, Option.map_some]

@[simp]
theorem coerce_int_datetime (instant : Instant) :
    coerce .int (.datetime instant) = .ok (.int (Int64.ofInt instant.second)) := rfl

theorem coerce_from_date {date : Date} {instant : Instant}
    (midnight : date.midnight? = some instant) :
    coerce .datetime (.date date) = .ok (.datetime instant) ∧
      coerce .int (.date date) = .ok (.int (Int64.ofInt instant.second)) ∧
      coerce .float (.date date) = .ok (.float (.ofInt instant.second)) := by
  simp only [coerce_eq_ok_iff, convert?, fromDate, midnight, Option.map_some, and_self]

/-! ### Ways around -/

/-- The two ways from integers to dates end at the same date, and on the same integers. -/
theorem coerce_date_int_toOption (number : Int64) :
    (coerce .date (.int number)).toOption =
      ((coerce .datetime (.int number)).bind (coerce .date)).toOption := by
  refine Option.ext fun result => ?_
  rw [toOption_eq_some_iff, toOption_eq_some_iff, bind_eq_ok_iff, coerce_date_int_eq_ok_iff]
  constructor
  · rintro ⟨instant, date, counted, found, rfl⟩
    exact ⟨_, coerce_datetime_int_eq_ok_iff.mpr ⟨instant, counted, rfl⟩,
      coerce_date_datetime found⟩
  · rintro ⟨_, counts, brought⟩
    obtain ⟨instant, counted, rfl⟩ := coerce_datetime_int_eq_ok_iff.mp counts
    obtain ⟨date, found, _⟩ := instant.exists_date
    rw [coerce_date_datetime found, Except.ok.injEq] at brought
    exact ⟨instant, date, counted, found, brought⟩

theorem coerce_int_of_coerce_datetime {number : Int64} {moment : Value}
    (coerced : coerce .datetime (.int number) = .ok moment) :
    coerce .int moment = .ok (.int number) := by
  obtain ⟨instant, counted, rfl⟩ := coerce_datetime_int_eq_ok_iff.mp coerced
  rw [coerce_int_datetime, (Instant.of?_eq_some_iff.mp counted).1.1, Int64.ofInt_toInt]

/-- The integers that are brought to a date, and the number of this date. -/
theorem dayNumber_of_coerce_date_int {number : Int64} {date : Date}
    (coerced : coerce .date (.int number) = .ok (.date date)) :
    date.dayNumber = number.toInt / 86400 := by
  obtain ⟨instant, found, counted, lies, same⟩ := coerce_date_int_eq_ok_iff.mp coerced
  cases same
  obtain ⟨other, otherLies, day⟩ := instant.exists_date
  cases lies.symm.trans otherLies
  rw [day, (Instant.of?_eq_some_iff.mp counted).1.1]

theorem exists_coerce_date_int_iff {number : Int64} :
    (∃ date, coerce .date (.int number) = .ok (.date date)) ↔
      firstSecond ≤ number.toInt ∧ number.toInt ≤ lastSecond := by
  rw [← Instant.exists_of?_iff (show 0 < 10 ^ 9 by decide)]
  constructor
  · rintro ⟨date, coerced⟩
    obtain ⟨instant, _, counted, _⟩ := coerce_date_int_eq_ok_iff.mp coerced
    exact ⟨instant, counted⟩
  · rintro ⟨instant, counted⟩
    obtain ⟨date, found, _⟩ := instant.exists_date
    exact ⟨date, coerce_date_int_eq_ok_iff.mpr ⟨instant, date, counted, found, rfl⟩⟩

/-- Later integers are not brought to earlier dates. -/
theorem not_lt_of_coerce_date_int {number later : Int64} {date laterDate : Date}
    (coerced : coerce .date (.int number) = .ok (.date date))
    (laterCoerced : coerce .date (.int later) = .ok (.date laterDate)) (le : number ≤ later) :
    ¬laterDate < date := by
  rw [← Date.dayNumber_lt_iff, dayNumber_of_coerce_date_int coerced,
    dayNumber_of_coerce_date_int laterCoerced, Int.not_lt]
  exact Int.ediv_le_ediv (by decide) (Int64.le_iff_toInt_le.mp le)

/-- A date survives the ways by an instant and by an integer. -/
theorem date_survives (date : Date) :
    ∃ moment number float,
      coerce .datetime (.date date) = .ok moment ∧ coerce .int (.date date) = .ok number ∧
        coerce .float (.date date) = .ok float ∧ coerce .int moment = .ok number ∧
        coerce .date number = .ok (.date date) ∧ coerce .date moment = .ok (.date date) := by
  obtain ⟨instant, midnight, second, lies⟩ := date.exists_midnight
  obtain ⟨toMoment, toNumber, toFloat⟩ := coerce_from_date midnight
  have whole : instant.nanosecond = 0 := by
    unfold Date.midnight? at midnight
    exact (Instant.of?_eq_some_iff.mp midnight).1.2
  have counted : Instant.of? (Int64.ofInt instant.second).toInt 0 = some instant :=
    (Instant.of?_eq_some_iff_of_lt (by decide)).mpr ⟨instant.toInt_ofInt_second.symm, whole⟩
  exact ⟨_, _, _, toMoment, toNumber, toFloat, coerce_int_datetime instant,
    coerce_date_int_eq_ok_iff.mpr ⟨instant, date, counted, lies, rfl⟩, coerce_date_datetime lies⟩

theorem isGreatest_midnight (second : Int) :
    IsGreatest {start : Int | 86400 ∣ start ∧ start ≤ second} (second / 86400 * 86400) := by
  refine ⟨⟨Int.dvd_mul_left _ _, Int.ediv_mul_le _ (by decide)⟩, ?_⟩
  rintro _ ⟨⟨days, rfl⟩, early⟩
  rw [Int.mul_comm]
  refine Int.mul_le_mul_of_nonneg_right ?_ (by decide)
  rw [Int.le_ediv_iff_mul_le (by decide), Int.mul_comm]
  exact early

/-- What is left of an instant that is brought to a date is the last midnight that is not after it. -/
theorem date_of_instant (instant : Instant) :
    ∃ date midnight second,
      coerce .date (.datetime instant) = .ok (.date date) ∧
        coerce .int (.date date) = .ok (.int midnight) ∧
        coerce .int (.datetime instant) = .ok (.int second) ∧
        IsGreatest {start : Int | 86400 ∣ start ∧ start ≤ second.toInt} midnight.toInt := by
  obtain ⟨date, lies, day⟩ := instant.exists_date
  obtain ⟨start, midnight, first, _⟩ := date.exists_midnight
  obtain ⟨_, toNumber, _⟩ := coerce_from_date midnight
  refine ⟨date, _, _, coerce_date_datetime lies, toNumber, coerce_int_datetime instant, ?_⟩
  rw [start.toInt_ofInt_second, instant.toInt_ofInt_second, first, day]
  exact isGreatest_midnight instant.second

/-! ### All ways -/

/-- Integers, dates and instants are brought to one another in one way only, whichever way is taken. The
number of a date counts the days of the calendar from the first of January 1970. -/
theorem epoch_conversions_commute :
    (∀ number : Int64,
      (coerce .date (.int number)).toOption =
          ((coerce .datetime (.int number)).bind (coerce .date)).toOption ∧
        ((∃ date, coerce .date (.int number) = .ok (.date date)) ↔
          firstSecond ≤ number.toInt ∧ number.toInt ≤ lastSecond) ∧
        ∀ moment, coerce .datetime (.int number) = .ok moment →
          coerce .int moment = .ok (.int number)) ∧
    (∀ date : Date, ∃ moment number float,
      coerce .datetime (.date date) = .ok moment ∧ coerce .int (.date date) = .ok number ∧
        coerce .float (.date date) = .ok float ∧ coerce .int moment = .ok number ∧
        coerce .date number = .ok (.date date) ∧ coerce .date moment = .ok (.date date)) ∧
    (∀ instant : Instant, ∃ date midnight second,
      coerce .date (.datetime instant) = .ok (.date date) ∧
        coerce .int (.date date) = .ok (.int midnight) ∧
        coerce .int (.datetime instant) = .ok (.int second) ∧
        IsGreatest {start : Int | 86400 ∣ start ∧ start ≤ second.toInt} midnight.toInt) ∧
    (∀ (number : Int64) (date : Date), coerce .date (.int number) = .ok (.date date) →
      date.dayNumber = number.toInt / 86400 ∧
        ∀ (later : Int64) (laterDate : Date),
          coerce .date (.int later) = .ok (.date laterDate) → number ≤ later →
            ¬laterDate < date) ∧
    (∀ date next : Date, next.IsDayAfter date → next.dayNumber = date.dayNumber + 1) ∧
    ∃ date : Date, date.year = 1970 ∧ date.month = 1 ∧ date.day = 1 ∧ date.dayNumber = 0 := by
  refine ⟨fun number => ⟨coerce_date_int_toOption number, exists_coerce_date_int_iff,
    fun _ => coerce_int_of_coerce_datetime⟩, date_survives, date_of_instant, ?_, ?_, ?_⟩
  · intro number date coerced
    exact ⟨dayNumber_of_coerce_date_int coerced, fun _ _ laterCoerced le =>
      not_lt_of_coerce_date_int coerced laterCoerced le⟩
  · intro date next after
    exact after.dayNumber_eq
  · exact ⟨⟨1970, 1, 1, by decide, by decide⟩, rfl, rfl, rfl, by decide⟩

/-- The year 1900 had no 29th of February, long before the seconds begin to count. -/
theorem last_second_of_february_1900 :
    let february : Date := ⟨1900, 2, 28, by decide, by decide⟩
    let march : Date := ⟨1900, 3, 1, by decide, by decide⟩
    (coerce .date (.int (-2203891201)) = .ok (.date february) ∧
        february.dayNumber = (-2203891201 : Int64).toInt / 86400) ∧
      (coerce .date (.int (-2203891200)) = .ok (.date march) ∧ ¬march < february) ∧
      march.IsDayAfter february ∧ march.dayNumber = february.dayNumber + 1 ∧
      ∃ instant, coerce .datetime (.int (-2203891201)) = .ok (.datetime instant) ∧
        coerce .int (.datetime instant) = .ok (.int (-2203891201)) := by
  intro february march
  obtain ⟨integers, _, _, dates, days, _⟩ := epoch_conversions_commute
  have onFebruary : coerce .date (.int (-2203891201)) = .ok (.date february) := by rfl
  have onMarch : coerce .date (.int (-2203891200)) = .ok (.date march) := by rfl
  have after : march.IsDayAfter february := by
    unfold Date.IsDayAfter
    decide
  obtain ⟨day, notBefore⟩ := dates _ _ onFebruary
  have moment : coerce .datetime (.int (-2203891201)) =
      .ok (.datetime ⟨-2203891201, 0, by decide, by decide⟩) := by rfl
  exact ⟨⟨onFebruary, day⟩, ⟨onMarch, notBefore _ _ onMarch (by decide)⟩, after, days _ _ after,
    _, moment, (integers _).2.2 _ moment⟩

end Value

end Sieve
