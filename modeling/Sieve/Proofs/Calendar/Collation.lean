/-
Dates and instants in the order of their texts, for the years that are written without a sign. The
parts of a date have fixed widths and stand from the largest to the smallest, so texts of dates are
in the order of the dates. The same goes for instants up to the second. But the fraction of a
second has as many digits as it takes, and the letter after it comes after all digits and after
the point in front of them: an instant that is another one cut to fewer digits lies before it,
and its text stands after the other's. In all other cases the texts are in the order of the
instants, the leap seconds at the end of a minute included. A leap second before the end of its
minute has the text of an instant in the next second, and stands where that one does.
-/

import Sieve.Proofs.Calendar.Succession
import Sieve.Proofs.Calendar.Text
import Sieve.Proofs.Decimal.Order

namespace Sieve.Calendar

open Sieve.Decimal (padded padded_append_lt_iff padded_add exists_padded_cons)

/-! ### Dates -/

theorem Date.text_append_lt_iff {first second : Date} {rest more : List Char}
    (firstPlain : 0 ≤ first.year ∧ first.year ≤ 9999)
    (secondPlain : 0 ≤ second.year ∧ second.year ≤ 9999) :
    first.text ++ rest < second.text ++ more ↔ first < second ∨ first = second ∧ rest < more := by
  obtain ⟨monthFits, dayFits⟩ := first.month_day_lt
  obtain ⟨otherMonthFits, otherDayFits⟩ := second.month_day_lt
  have yearFits : first.year.toNat < 10 ^ 4 := by omega
  have otherYearFits : second.year.toNat < 10 ^ 4 := by omega
  have years : first.year.toNat < second.year.toNat ↔ first.year < second.year := by omega
  have sameYear : first.year.toNat = second.year.toNat ↔ first.year = second.year := by omega
  have same : first = second ↔
      first.year = second.year ∧ first.month = second.month ∧ first.day = second.day := by
    refine ⟨fun same => same ▸ ⟨rfl, rfl, rfl⟩, ?_⟩
    rintro ⟨year, month, day⟩
    exact Date.eq_of_parts year month day
  have four : 0 < 4 := by decide
  have two : 0 < 2 := by decide
  unfold Date.text
  rw [yearText_of_inRange firstPlain, yearText_of_inRange secondPlain]
  simp only [List.append_assoc, List.cons_append, List.cons_lt_cons_iff,
    padded_append_lt_iff four yearFits otherYearFits,
    padded_append_lt_iff two monthFits otherMonthFits,
    padded_append_lt_iff two dayFits otherDayFits, years, sameYear, same, Date.lt_iff]
  simp only [lt_irrefl, false_or, true_and, and_or_left, or_assoc, and_assoc]

/-! ### Fractions of a second -/

/-- Whether a count of nanoseconds is another one cut to whole seconds, to three or to six digits. -/
def IsCut (coarse fine : Nat) : Prop :=
  coarse ≠ fine ∧ ∃ unit ∈ [10 ^ 9, 10 ^ 6, 10 ^ 3], fine / unit * unit = coarse

theorem isCut_iff {coarse fine : Nat} :
    IsCut coarse fine ↔ coarse ≠ fine ∧ (fine / 10 ^ 9 * 10 ^ 9 = coarse ∨
      fine / 10 ^ 6 * 10 ^ 6 = coarse ∨ fine / 10 ^ 3 * 10 ^ 3 = coarse) := by
  simp [IsCut]

/-- A digit comes before any letter. -/
theorem padded_lt_letter (width number : Nat) (rest : List Char) :
    padded width number ++ rest < ['Z'] ∧ ¬['Z'] < padded width number ++ rest := by
  obtain ⟨first, others, start, digit⟩ := exists_padded_cons width number
  have before : first.toNat < 'Z'.toNat := (Decimal.toNat_lt_of_isDigit digit).2.trans_lt (by decide)
  have less : first < 'Z' := before
  rw [start, List.cons_append, List.cons_lt_cons_iff, List.cons_lt_cons_iff]
  refine ⟨Or.inl less, ?_⟩
  rintro (greater | ⟨same, _⟩)
  · exact lt_asymm less greater
  · exact absurd same.symm (ne_of_lt less)

/-- Behind numbers of two widths stands a letter, which comes after the digits. So where the shorter
number is the beginning of the longer one, it is the greater text. -/
theorem padded_letter_lt_iff {width otherWidth number other : Nat} (positive : 0 < width)
    (otherPositive : 0 < otherWidth) (fits : number < 10 ^ width)
    (otherFits : other < 10 ^ otherWidth) :
    padded width number ++ ['Z'] < padded otherWidth other ++ ['Z'] ↔
      number / 10 ^ (width - otherWidth) < other / 10 ^ (otherWidth - width) ∨
        number / 10 ^ (width - otherWidth) = other / 10 ^ (otherWidth - width) ∧
          otherWidth < width := by
  have frontFits : ∀ {front back value : Nat}, value < 10 ^ (front + back) →
      value / 10 ^ back < 10 ^ front := by
    intro front back value fits
    rw [Nat.pow_add, Nat.mul_comm] at fits
    exact Nat.div_lt_of_lt_mul fits
  rcases Nat.lt_trichotomy width otherWidth with shorter | rfl | longer
  · obtain ⟨back, rfl⟩ := Nat.exists_eq_add_of_lt shorter
    rw [Nat.add_assoc] at otherFits shorter ⊢
    have none : width - (width + (back + 1)) = 0 := by omega
    rw [padded_add positive (Nat.succ_pos back) otherFits, List.append_assoc,
      padded_append_lt_iff positive fits (frontFits otherFits), none, Nat.add_sub_cancel_left,
      Nat.pow_zero, Nat.div_one, iff_false_intro (padded_lt_letter _ _ _).2,
      iff_false_intro (Nat.lt_asymm shorter)]
  · rw [padded_append_lt_iff positive fits otherFits, Nat.sub_self, Nat.pow_zero, Nat.div_one,
      Nat.div_one, iff_false_intro (lt_irrefl _), iff_false_intro (Nat.lt_irrefl _)]
  · obtain ⟨back, rfl⟩ := Nat.exists_eq_add_of_lt longer
    rw [Nat.add_assoc] at fits longer ⊢
    have none : otherWidth - (otherWidth + (back + 1)) = 0 := by omega
    rw [padded_add otherPositive (Nat.succ_pos back) fits, List.append_assoc,
      padded_append_lt_iff otherPositive (frontFits fits) otherFits, none, Nat.add_sub_cancel_left,
      Nat.pow_zero, Nat.div_one, iff_true_intro (padded_lt_letter _ _ _).1, iff_true_intro longer]

/-- The fraction of a second other than zero has three, six or nine digits, as few as it takes. -/
theorem fractionText_cases {nanosecond : Nat} (below : nanosecond < 10 ^ 9)
    (fraction : nanosecond ≠ 0) :
    ∃ width ∈ [3, 6, 9],
      fractionText nanosecond = '.' :: padded width (nanosecond / 10 ^ (9 - width)) ∧
      nanosecond / 10 ^ (9 - width) < 10 ^ width ∧ nanosecond % 10 ^ (9 - width) = 0 ∧
      (width ≠ 3 → nanosecond % 10 ^ (12 - width) ≠ 0) := by
  unfold fractionText
  rw [if_neg fraction]
  by_cases thousandths : nanosecond % 1000000 = 0
  · refine ⟨3, by decide, if_pos thousandths, by omega, thousandths, fun other => absurd rfl other⟩
  · rw [if_neg thousandths]
    by_cases millionths : nanosecond % 1000 = 0
    · exact ⟨6, by decide, if_pos millionths, by omega, millionths, fun _ => thousandths⟩
    · rw [if_neg millionths]
      refine ⟨9, by decide, ?_, by omega, Nat.mod_one _, fun _ => millionths⟩
      rw [Nat.sub_self, Nat.pow_zero, Nat.div_one]

/-- Cutting leaves the whole seconds as they are. -/
theorem isCut_iff_seconds {coarse fine : Nat} :
    IsCut coarse fine ↔
      coarse / 10 ^ 9 = fine / 10 ^ 9 ∧ IsCut (coarse % 10 ^ 9) (fine % 10 ^ 9) := by
  rw [isCut_iff, isCut_iff]
  omega

/-- A fraction that is left after cutting has three or six digits. -/
theorem isCut_iff_fraction {coarse fine : Nat} (below : fine < 10 ^ 9) (fraction : coarse ≠ 0) :
    IsCut coarse fine ↔
      coarse ≠ fine ∧ (fine / 10 ^ 6 * 10 ^ 6 = coarse ∨ fine / 10 ^ 3 * 10 ^ 3 = coarse) := by
  rw [isCut_iff]
  omega

theorem isCut_zero_iff {nanosecond : Nat} (below : nanosecond < 10 ^ 9) :
    IsCut 0 nanosecond ↔ nanosecond ≠ 0 := by
  rw [isCut_iff]
  omega

@[simp]
theorem not_isCut_zero (nanosecond : Nat) : ¬IsCut nanosecond 0 := by
  rw [isCut_iff]
  omega

/-- The point of a fraction comes before the letter as well. -/
theorem point_lt_letter (rest more : List Char) :
    '.' :: rest < 'Z' :: more ∧ ¬ 'Z' :: more < '.' :: rest := by
  have before : '.' < 'Z' := by decide
  have different : '.' ≠ 'Z' := by decide
  simp [List.cons_lt_cons_iff, before, lt_asymm before, different.symm]

/-- The texts of fractions are in the order of the fractions, but where one is the other cut. -/
theorem fractionText_lt_iff {first second : Nat} (firstBelow : first < 10 ^ 9)
    (secondBelow : second < 10 ^ 9) :
    fractionText first ++ ['Z'] < fractionText second ++ ['Z'] ↔
      first < second ∧ ¬IsCut first second ∨ IsCut second first := by
  have noFraction : fractionText 0 = [] := rfl
  have positive : ∀ width ∈ [3, 6, 9], 0 < width := by decide
  by_cases firstFraction : first = 0
  · rw [firstFraction, noFraction, List.nil_append, isCut_zero_iff secondBelow,
      iff_false_intro (not_isCut_zero second)]
    by_cases secondFraction : second = 0
    · rw [secondFraction, noFraction]
      simp
    · obtain ⟨width, _, text, _⟩ := fractionText_cases secondBelow secondFraction
      rw [text, List.cons_append, iff_false_intro (point_lt_letter _ _).2]
      simp [secondFraction]
  · obtain ⟨width, listed, text, fits, exact, fewest⟩ := fractionText_cases firstBelow firstFraction
    by_cases secondFraction : second = 0
    · have cut := (isCut_zero_iff firstBelow).mpr firstFraction
      rw [secondFraction, noFraction, text, List.nil_append, List.cons_append]
      exact iff_of_true (point_lt_letter _ _).1 (Or.inr cut)
    · obtain ⟨otherWidth, otherListed, otherText, otherFits, otherExact, otherFewest⟩ :=
        fractionText_cases secondBelow secondFraction
      rw [text, otherText, List.cons_append, List.cons_append, List.cons_lt_cons_self,
        padded_letter_lt_iff (positive width listed) (positive otherWidth otherListed) fits otherFits,
        isCut_iff_fraction secondBelow firstFraction, isCut_iff_fraction firstBelow secondFraction]
      -- Of the two numbers, the one with more digits is cut to the digits of the other.
      simp only [List.mem_cons, List.not_mem_nil, or_false] at listed otherListed
      rcases listed with rfl | rfl | rfl <;> rcases otherListed with rfl | rfl | rfl <;> omega

/-! ### Instants -/

namespace Instant

instance : LT Instant where
  lt first second :=
    first.second < second.second ∨
      first.second = second.second ∧ first.nanosecond < second.nanosecond

theorem lt_iff {first second : Instant} :
    first < second ↔ first.second < second.second ∨
      first.second = second.second ∧ first.nanosecond < second.nanosecond :=
  Iff.rfl

/-- Whether an instant is another one cut to whole seconds, to three or to six digits of a second. -/
def IsCutOf (coarse fine : Instant) : Prop :=
  coarse.second = fine.second ∧ IsCut coarse.nanosecond fine.nanosecond

theorem isCutOf_iff {coarse fine : Instant} :
    coarse.IsCutOf fine ↔ coarse.second = fine.second ∧
      coarse.nanosecond / 10 ^ 9 = fine.nanosecond / 10 ^ 9 ∧
        IsCut (coarse.nanosecond % 10 ^ 9) (fine.nanosecond % 10 ^ 9) :=
  and_congr_right fun _ => isCut_iff_seconds

/-- What is cut off lies after what is left. -/
theorem lt_of_isCutOf {coarse fine : Instant} (cut : coarse.IsCutOf fine) : coarse < fine := by
  obtain ⟨same, nanoseconds⟩ := cut
  rw [isCut_iff] at nanoseconds
  refine Or.inr ⟨same, ?_⟩
  omega

/-- The order of instants with the leap second and the fraction of a second taken apart. -/
theorem lt_iff_parts {first second : Instant} :
    first < second ↔ first.second < second.second ∨ first.second = second.second ∧
      (first.nanosecond / 10 ^ 9 < second.nanosecond / 10 ^ 9 ∨
        first.nanosecond / 10 ^ 9 = second.nanosecond / 10 ^ 9 ∧
          first.nanosecond % 10 ^ 9 < second.nanosecond % 10 ^ 9) := by
  rw [lt_iff]
  omega

/-- Whether the year of an instant is written without a sign. -/
def HasPlainYear (instant : Instant) : Prop :=
  ∃ date, instant.date? = some date ∧ 0 ≤ date.year ∧ date.year ≤ 9999

/-- The second of its minute that is shown for an instant. -/
def shownSecond (instant : Instant) : Nat :=
  if instant.isLeapSecond then instant.secondOfDay % 60 + 1 else instant.secondOfDay % 60

theorem timeText_lt_iff {first second : Instant} :
    first.timeText ++ ['Z'] < second.timeText ++ ['Z'] ↔
      first.secondOfDay / 3600 < second.secondOfDay / 3600 ∨
        first.secondOfDay / 3600 = second.secondOfDay / 3600 ∧
          (first.secondOfDay / 60 % 60 < second.secondOfDay / 60 % 60 ∨
            first.secondOfDay / 60 % 60 = second.secondOfDay / 60 % 60 ∧
              (first.shownSecond < second.shownSecond ∨
                first.shownSecond = second.shownSecond ∧
                  (first.nanosecond % 10 ^ 9 < second.nanosecond % 10 ^ 9 ∧
                      ¬IsCut (first.nanosecond % 10 ^ 9) (second.nanosecond % 10 ^ 9) ∨
                    IsCut (second.nanosecond % 10 ^ 9) (first.nanosecond % 10 ^ 9)))) := by
  have hour : ∀ instant : Instant, instant.secondOfDay / 3600 < 10 ^ 2 := by
    intro instant
    unfold secondOfDay
    omega
  have minute : ∀ instant : Instant, instant.secondOfDay / 60 % 60 < 10 ^ 2 := by
    intro instant
    omega
  have shown : ∀ instant : Instant, instant.shownSecond < 10 ^ 2 := by
    intro instant
    unfold shownSecond
    split <;> omega
  have fraction : ∀ instant : Instant, instant.nanosecond % 10 ^ 9 < 10 ^ 9 :=
    fun instant => Nat.mod_lt _ (by decide)
  have two : 0 < 2 := by decide
  have text : ∀ instant : Instant, instant.timeText ++ ['Z'] =
      padded 2 (instant.secondOfDay / 3600) ++ ':' ::
        (padded 2 (instant.secondOfDay / 60 % 60) ++ ':' ::
          (padded 2 instant.shownSecond ++
            (fractionText (instant.nanosecond % 10 ^ 9) ++ ['Z']))) := by
    intro instant
    unfold timeText shownSecond
    simp only [List.append_assoc, List.cons_append]
  rw [text, text, padded_append_lt_iff two (hour first) (hour second), List.cons_lt_cons_self,
    padded_append_lt_iff two (minute first) (minute second), List.cons_lt_cons_self,
    padded_append_lt_iff two (shown first) (shown second),
    fractionText_lt_iff (fraction first) (fraction second)]

/-- Instants of one second that both or neither leap are both early or neither. -/
theorem leapsEarly_congr {first second : Instant} (same : first.second = second.second)
    (leap : first.nanosecond / 10 ^ 9 = second.nanosecond / 10 ^ 9) :
    first.LeapsEarly ↔ second.LeapsEarly := by
  have leaps : 10 ^ 9 ≤ first.nanosecond ↔ 10 ^ 9 ≤ second.nanosecond := by omega
  unfold LeapsEarly isLeapSecond
  rw [decide_eq_true_iff, decide_eq_true_iff, leaps, same]

/-- Cutting takes nothing from the leap second, so what is shown is cut as well. -/
theorem isCutOf_asShown {coarse fine : Instant} (cut : coarse.IsCutOf fine) :
    coarse.asShown.IsCutOf fine.asShown := by
  obtain ⟨same, leap, fraction⟩ := isCutOf_iff.mp cut
  have alike := leapsEarly_congr same leap
  by_cases early : coarse.LeapsEarly
  · obtain ⟨second, nanosecond⟩ := asShown_of_leapsEarly early
    obtain ⟨otherSecond, otherNanosecond⟩ := asShown_of_leapsEarly (alike.mp early)
    rw [← nanosecond, ← otherNanosecond, Nat.add_mod_right, Nat.add_mod_right] at fraction
    refine isCutOf_iff.mpr ⟨?_, ?_, fraction⟩
    · rw [second, otherSecond, same]
    · omega
  · rw [asShown_of_not_leapsEarly early, asShown_of_not_leapsEarly (mt alike.mpr early)]
    exact cut

/-- A leap second counts as the nanosecond's overflow into the second that is shown. -/
theorem shownSecond_eq (instant : Instant) :
    instant.shownSecond = instant.secondOfDay % 60 + instant.nanosecond / 10 ^ 9 := by
  have bound := instant.nanosecondInRange
  unfold shownSecond isLeapSecond
  by_cases leap : 10 ^ 9 ≤ instant.nanosecond
  · rw [if_pos (decide_eq_true leap)]
    omega
  · rw [if_neg (by simpa using leap)]
    omega

/-- The nanosecond overflows at the end of a minute only. -/
theorem overflow_of_not_leapsEarly {instant : Instant} (regular : ¬instant.LeapsEarly) :
    instant.nanosecond / 10 ^ 9 = 0 ∨ instant.second % 60 = 59 := by
  refine or_iff_not_imp_right.mpr fun early => ?_
  refine Nat.div_eq_of_lt (Nat.lt_of_not_le fun leap => regular ⟨decide_eq_true leap, early⟩)

/-- The day, the hour, the minute and the second that is shown, a leap second being shown as the
sixtieth of its minute, are in the order of the seconds, and a leap second comes after the second it
follows. -/
theorem clock_lt_iff {first second : Instant} (regular : ¬first.LeapsEarly)
    (otherRegular : ¬second.LeapsEarly) (rest : Prop) :
    (first.second / 86400 < second.second / 86400 ∨
        first.second / 86400 = second.second / 86400 ∧
          (first.secondOfDay / 3600 < second.secondOfDay / 3600 ∨
            first.secondOfDay / 3600 = second.secondOfDay / 3600 ∧
              (first.secondOfDay / 60 % 60 < second.secondOfDay / 60 % 60 ∨
                first.secondOfDay / 60 % 60 = second.secondOfDay / 60 % 60 ∧
                  (first.shownSecond < second.shownSecond ∨
                    first.shownSecond = second.shownSecond ∧ rest)))) ↔
      first.second < second.second ∨ first.second = second.second ∧
        (first.nanosecond / 10 ^ 9 < second.nanosecond / 10 ^ 9 ∨
          first.nanosecond / 10 ^ 9 = second.nanosecond / 10 ^ 9 ∧ rest) := by
  have overflow := overflow_of_not_leapsEarly regular
  have otherOverflow := overflow_of_not_leapsEarly otherRegular
  have firstBound := first.nanosecondInRange
  have secondBound := second.nanosecondInRange
  rw [shownSecond_eq, shownSecond_eq]
  by_cases holds : rest
  · simp only [holds, and_true]
    unfold secondOfDay
    omega
  · simp only [holds, and_false, or_false]
    unfold secondOfDay
    omega

/-- Where no leap second is early, the texts of instants are in the order of the instants, but where
one is the other cut: then they are in the opposite order. -/
theorem text_lt_iff_of_regular {first second : Instant} (firstPlain : first.HasPlainYear)
    (secondPlain : second.HasPlainYear) (regular : ¬first.LeapsEarly)
    (otherRegular : ¬second.LeapsEarly) :
    first.text < second.text ↔ first < second ∧ ¬first.IsCutOf second ∨ second.IsCutOf first := by
  obtain ⟨date, found, plain⟩ := firstPlain
  obtain ⟨otherDate, otherFound, otherPlain⟩ := secondPlain
  obtain ⟨same, sameFound, day⟩ := first.exists_date
  cases found.symm.trans sameFound
  obtain ⟨otherSame, otherSameFound, otherDay⟩ := second.exists_date
  cases otherFound.symm.trans otherSameFound
  rw [text_of_date found, text_of_date otherFound, List.append_assoc, List.append_assoc,
    Date.text_append_lt_iff plain otherPlain, List.cons_append, List.cons_append,
    List.cons_lt_cons_self, timeText_lt_iff, ← Date.dayNumber_lt_iff, ← Date.dayNumber_inj, day,
    otherDay, clock_lt_iff regular otherRegular, lt_iff_parts, isCutOf_iff, isCutOf_iff]
  rcases lt_trichotomy first.second second.second with before | same | after
  · simp [before, before.ne, before.ne']
  · rcases lt_trichotomy (first.nanosecond / 10 ^ 9) (second.nanosecond / 10 ^ 9) with
      before | sameLeap | after
    · simp only [before, before.ne, before.ne', same, lt_irrefl, false_and, and_false,
        or_false, not_false_eq_true, and_true, or_true]
    · simp only [same, sameLeap, lt_irrefl, true_and, false_or]
    · simp only [after.ne, after.ne', not_lt_of_gt after, same, lt_irrefl, false_and, and_false,
        or_false]
  · simp [after.ne, after.ne', not_lt_of_gt after]

theorem hasPlainYear_asShown {instant : Instant} (plain : instant.HasPlainYear) :
    instant.asShown.HasPlainYear := by
  unfold HasPlainYear
  rwa [date?_asShown]

/-- The texts of instants are in the order of what is shown of them. -/
theorem text_lt_iff {first second : Instant} (firstPlain : first.HasPlainYear)
    (secondPlain : second.HasPlainYear) :
    first.text < second.text ↔ first.asShown < second.asShown ∧
      ¬first.asShown.IsCutOf second.asShown ∨ second.asShown.IsCutOf first.asShown := by
  rw [← first.text_asShown, ← second.text_asShown]
  exact text_lt_iff_of_regular (hasPlainYear_asShown firstPlain) (hasPlainYear_asShown secondPlain)
    first.not_leapsEarly_asShown second.not_leapsEarly_asShown

end Instant

end Sieve.Calendar
