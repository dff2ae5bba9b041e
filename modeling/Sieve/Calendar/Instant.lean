/-
Instants of coordinated universal time. An instant is a count of seconds since
the first of January 1970 and of nanoseconds in that second. A leap second has
no count of its own: it is the second before it with a thousand million or more
nanoseconds. An instant can have one after any second. The calendar only knows
those after the last second of a minute, and no others are made from counts.
-/

import Sieve.Calendar.Date
import Sieve.Power

namespace Sieve.Calendar

/-- The first second of the first year that is kept. -/
def firstSecond : Int := -8334601228800

/-- The last second of the last year that is kept. -/
def lastSecond : Int := 8210266876799

structure Instant where
  second : Int
  nanosecond : Nat
  secondInRange : firstSecond ≤ second ∧ second ≤ lastSecond
  nanosecondInRange : nanosecond < 2 * 10 ^ 9
deriving DecidableEq

namespace Instant

/-- Whether the instant lies in a leap second. -/
def isLeapSecond (instant : Instant) : Bool :=
  decide (10 ^ 9 ≤ instant.nanosecond)

/-- Whether the instant lies in a leap second before its minute is over. -/
def LeapsEarly (instant : Instant) : Prop :=
  instant.isLeapSecond = true ∧ instant.second % 60 ≠ 59

instance (instant : Instant) : Decidable instant.LeapsEarly :=
  inferInstanceAs (Decidable (instant.isLeapSecond = true ∧ instant.second % 60 ≠ 59))

/-- The instant with the given counts, if there is one. -/
def of? (second : Int) (nanosecond : Nat) : Option Instant :=
  if secondInRange : firstSecond ≤ second ∧ second ≤ lastSecond then
    if nanosecondInRange : nanosecond < 2 * 10 ^ 9 then
      let instant : Instant := ⟨second, nanosecond, secondInRange, nanosecondInRange⟩
      if instant.LeapsEarly then none else some instant
    else none
  else none

theorem of?_eq_some_iff {second : Int} {nanosecond : Nat} {instant : Instant} :
    of? second nanosecond = some instant ↔
      (instant.second = second ∧ instant.nanosecond = nanosecond) ∧ ¬instant.LeapsEarly := by
  constructor
  · intro found
    unfold of? at found
    split at found
    · split at found
      · obtain ⟨regular, same⟩ := Option.ite_none_left_eq_some.mp found
        cases same
        exact ⟨⟨rfl, rfl⟩, regular⟩
      · cases found
    · cases found
  · rintro ⟨⟨rfl, rfl⟩, regular⟩
    unfold of?
    rw [dif_pos instant.secondInRange, dif_pos instant.nanosecondInRange]
    exact if_neg regular

/-- Without a leap second, an instant does not leap early. -/
theorem not_leapsEarly_of_lt {instant : Instant} (below : instant.nanosecond < 10 ^ 9) :
    ¬instant.LeapsEarly :=
  fun early => absurd (of_decide_eq_true early.1) (Nat.not_le_of_lt below)

/-- The seconds of its day that lie before an instant. -/
def secondOfDay (instant : Instant) : Nat :=
  (instant.second % 86400).toNat

/-- The date on which an instant lies. -/
def date? (instant : Instant) : Option Date :=
  Date.ofDayNumber? (instant.second / 86400)

end Instant

/-- The first instant of a date. -/
def Date.midnight? (date : Date) : Option Instant :=
  Instant.of? (date.dayNumber * 86400) 0

end Sieve.Calendar
