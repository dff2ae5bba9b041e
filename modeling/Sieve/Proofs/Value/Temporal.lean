/-
Instants among the values of filters. An instant becomes a text where it is brought to a string,
and the same text stands for it in the queries of all backends. Bringing that text back to an
instant is meant to undo this, and in the years from zero to 9999 it does so for all instants but
the leap seconds before the end of a minute: these come back as the instants in the next second
that they are written as. Beyond these years the text has a sign in front of its year, which the
reader of instants does not take; so the text that goes out is none that would be let in. An offset
can move an instant out of these years.
-/

import Sieve.Elastic.Query
import Sieve.Proofs.Calendar.Text
import Sieve.Sql.Parameter

namespace Sieve

namespace Calendar

/-- The text of an instant starts with a digit or the sign of a year, and ends with a letter. -/
@[simp]
theorem Instant.trim_text (instant : Instant) : Text.trim instant.text = instant.text := by
  obtain ⟨date, found, _⟩ := instant.exists_date
  have shape := Instant.text_of_date found
  refine Text.trim_of_ends ?_ ⟨_, 'Z', shape, by decide⟩
  by_cases inRange : 0 ≤ date.year ∧ date.year ≤ 9999
  · obtain ⟨first, rest, digits, isDigit⟩ := Decimal.exists_padded_cons 4 date.year.toNat
    rw [shape, Date.text, yearText_of_inRange inRange, digits]
    exact ⟨first, _, rfl, Text.isBlank_of_isDigit isDigit⟩
  · obtain ⟨sign, digits, year, signed⟩ := yearText_of_not_inRange inRange
    rw [shape, Date.text, year]
    refine ⟨sign, _, rfl, ?_⟩
    rcases signed with rfl | rfl <;> decide

end Calendar

namespace Value

open Calendar (Date Instant)

/-- The text of an instant in the years from zero to 9999 is brought to what is shown of it, any other
to nothing. -/
theorem coerce_datetime_text {instant : Instant} {date : Date} (found : instant.date? = some date)
    (day : date.dayNumber = instant.second / 86400) :
    coerce .datetime (.str (String.ofList instant.text)) =
      if 0 ≤ date.year ∧ date.year ≤ 9999 then .ok (.datetime instant.asShown)
      else .error ⟨.str, .datetime⟩ := by
  rw [coerce, convert?, fromStr, String.toList_ofList, instant.trim_text]
  by_cases inRange : 0 ≤ date.year ∧ date.year ≤ 9999
  · rw [Instant.read?_text found day inRange, if_pos inRange]
    rfl
  · rw [Instant.read?_text_eq_none found inRange, if_neg inRange]
    rfl

/-- Brought to a string and back, an instant of the years from zero to 9999 is what is shown of it; in
all other years the way back is closed. It is the instant itself exactly in these years and if it
does not leap early. The string is what any backend gets for the instant. -/
theorem instants_survive_in_years_of_four_digits_unless_leaping_early (instant : Instant) :
    ∃ date text, instant.date? = some date ∧
      coerce .str (.datetime instant) = .ok (.str text) ∧
      Elastic.operandJson (.datetime instant) = .ok (.string text) ∧
      Sql.Parameter.ofValue (.datetime instant) = .ok (.string text) ∧
      (coerce .datetime (.str text) =
        if 0 ≤ date.year ∧ date.year ≤ 9999 then .ok (.datetime instant.asShown)
        else .error ⟨.str, .datetime⟩) ∧
      (coerce .datetime (.str text) = .ok (.datetime instant) ↔
        (0 ≤ date.year ∧ date.year ≤ 9999) ∧ ¬instant.LeapsEarly) := by
  obtain ⟨date, found, day⟩ := instant.exists_date
  have back := coerce_datetime_text found day
  refine ⟨date, String.ofList instant.text, found, rfl, rfl, rfl, back, ?_⟩
  rw [back]
  by_cases inRange : 0 ≤ date.year ∧ date.year ≤ 9999
  · rw [if_pos inRange, and_iff_right inRange, ← Instant.asShown_eq_self_iff, Except.ok.injEq,
      Value.datetime.injEq]
  · rw [if_neg inRange]
    exact iff_of_false (by rintro ⟨⟩) fun both => inRange both.1

/-- The leap second that belongs to second ten is written as second eleven, and comes back as that. -/
example :
    coerce .str (.datetime ⟨10, 1500000000, by decide, by decide⟩) =
      .ok (.str "1970-01-01T00:00:11.500Z") ∧
    coerce .datetime (.str "1970-01-01T00:00:11.500Z") =
      .ok (.datetime ⟨11, 500000000, by decide, by decide⟩) :=
  ⟨by rfl, by rfl⟩

/-- An offset moves an instant of the last year of four digits out of it, and its text does not lead
back. -/
theorem text_of_year_10000_is_not_read :
    ∃ instant,
      coerce .datetime (.str "9999-12-31T23:30:00-01:00") = .ok (.datetime instant) ∧
      coerce .str (.datetime instant) = .ok (.str "+10000-01-01T00:30:00Z") ∧
      coerce .datetime (.str "+10000-01-01T00:30:00Z") = .error ⟨.str, .datetime⟩ := by
  refine ⟨⟨253402302600, 0, by decide, by decide⟩, by rfl, by rfl, by rfl⟩

end Value

end Sieve
