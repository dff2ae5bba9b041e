/-
Dates and instants as bounds of a range. They are bound to a query as their texts, and a store
without kinds for them compares the bytes of these texts. That is meant to put them in the order of
time, and for dates of the years that are written without a sign it does. For instants it does not
where one of the two is the other cut to fewer digits of a second, a whole second and the half after
it for instance: these stand in the opposite order, and what lies between them is not found.
A leap second before the end of its minute stands among the instants of the next second.
-/

import Sieve.Proofs.Calendar.Collation
import Sieve.Sql.Parameter

namespace Sieve.Sql.Parameter

open Calendar (Date Instant)
open Text (bytes bytes_lt_iff)

theorem bytes_ofList_lt_iff {first second : List Char} :
    bytes (String.ofList first) < bytes (String.ofList second) ↔ first < second := by
  rw [bytes_lt_iff, String.lt_iff, String.toList_ofList, String.toList_ofList]

/-- In the years from zero to 9999 the bytes of what is bound for dates are in the order of the
dates. The bytes of what is bound for instants are in the order of the instants, leap seconds at the
end of a minute included, unless one instant is the other cut to whole seconds, milliseconds or
microseconds: then the order is reversed. -/
theorem times_are_bound_in_order_unless_cut (firstDate secondDate : Date) (first second : Instant)
    (firstYear : 0 ≤ firstDate.year ∧ firstDate.year ≤ 9999)
    (secondYear : 0 ≤ secondDate.year ∧ secondDate.year ≤ 9999)
    (firstPlain : first.HasPlainYear) (secondPlain : second.HasPlainYear) :
    (∃ text other, ofValue (.date firstDate) = .ok (.string text) ∧
      ofValue (.date secondDate) = .ok (.string other) ∧
      (bytes text < bytes other ↔ firstDate < secondDate)) ∧
    ∃ text other, ofValue (.datetime first) = .ok (.string text) ∧
      ofValue (.datetime second) = .ok (.string other) ∧
      (¬first.IsCutOf second → ¬second.IsCutOf first →
        ¬first.LeapsEarly → ¬second.LeapsEarly →
        (bytes text < bytes other ↔ first < second)) ∧
      (first.IsCutOf second → first < second ∧ bytes other < bytes text) := by
  constructor
  · refine ⟨String.ofList firstDate.text, String.ofList secondDate.text, rfl, rfl, ?_⟩
    have compared := @Date.text_append_lt_iff firstDate secondDate [] [] firstYear secondYear
    rw [List.append_nil, List.append_nil] at compared
    rw [bytes_ofList_lt_iff, compared]
    simp only [List.not_lt_nil, and_false, or_false]
  · refine ⟨String.ofList first.text, String.ofList second.text, rfl, rfl, ?_, ?_⟩
    · intro notCut notCutBack regular otherRegular
      rw [bytes_ofList_lt_iff,
        Instant.text_lt_iff_of_regular firstPlain secondPlain regular otherRegular]
      simp only [notCut, notCutBack, not_false_eq_true, and_true, or_false]
    · intro cut
      rw [bytes_ofList_lt_iff, Instant.text_lt_iff secondPlain firstPlain]
      exact ⟨Instant.lt_of_isCutOf cut, Or.inr (Instant.isCutOf_asShown cut)⟩

/-- The last day that is written without a sign comes after the first, and a leap second before the
year that it precedes. -/
theorem leap_second_is_bound_before_new_year :
    (∃ text other,
      ofValue (.date ⟨0, 1, 1, by decide, by decide⟩) = .ok (.string text) ∧
      ofValue (.date ⟨9999, 12, 31, by decide, by decide⟩) = .ok (.string other) ∧
      bytes text < bytes other) ∧
    ∃ text other,
      ofValue (.datetime ⟨1483228799, 1500000000, by decide, by decide⟩) = .ok (.string text) ∧
      ofValue (.datetime ⟨1483228800, 0, by decide, by decide⟩) = .ok (.string other) ∧
      bytes text < bytes other := by
  obtain ⟨⟨text, other, bound, otherBound, compared⟩, ⟨instantText, otherInstantText, instantBound,
      otherInstantBound, instantsCompared, _⟩⟩ :=
    times_are_bound_in_order_unless_cut
      ⟨0, 1, 1, by decide, by decide⟩ ⟨9999, 12, 31, by decide, by decide⟩
      ⟨1483228799, 1500000000, by decide, by decide⟩ ⟨1483228800, 0, by decide, by decide⟩
      (by decide) (by decide)
      ⟨⟨2016, 12, 31, by decide, by decide⟩, by rfl, by decide⟩
      ⟨⟨2017, 1, 1, by decide, by decide⟩, by rfl, by decide⟩
  refine ⟨⟨text, other, bound, otherBound, compared.mpr (Or.inl (by decide))⟩,
    ⟨instantText, otherInstantText, instantBound, otherInstantBound,
      (instantsCompared ?_ ?_ (by decide) (by decide)).mpr (Or.inl (by decide))⟩⟩
  · exact fun cut => absurd cut.1 (by decide)
  · exact fun cut => absurd cut.1 (by decide)

/-- Half a second after a whole one, its text comes before the text of the whole one. -/
theorem half_second_is_bound_before_whole :
    ∃ whole half : Instant, whole.HasPlainYear ∧ half.HasPlainYear ∧
      whole.isLeapSecond = false ∧ half.isLeapSecond = false ∧ whole < half ∧
      ofValue (.datetime whole) = .ok (.string "2024-01-01T12:30:00Z") ∧
      ofValue (.datetime half) = .ok (.string "2024-01-01T12:30:00.500Z") ∧
      bytes "2024-01-01T12:30:00.500Z" < bytes "2024-01-01T12:30:00Z" ∧
      ¬bytes "2024-01-01T12:30:00Z" < bytes "2024-01-01T12:30:00.500Z" := by
  refine ⟨⟨1704112200, 0, by decide, by decide⟩, ⟨1704112200, 500000000, by decide, by decide⟩,
    ⟨⟨2024, 1, 1, by decide, by decide⟩, by rfl, by decide⟩,
    ⟨⟨2024, 1, 1, by decide, by decide⟩, by rfl, by decide⟩, rfl, rfl, Or.inr ⟨rfl, by decide⟩,
    by rfl, by rfl, ?_, ?_⟩
  · rw [bytes_lt_iff]
    decide
  · rw [bytes_lt_iff]
    decide

end Sieve.Sql.Parameter
