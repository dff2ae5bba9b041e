/-
Instants and their texts. The text of an instant has parts of fixed widths, but for the year and
the fraction of the second, and the reader takes them off one after another. It wants a year of
four digits. So it reads the text of an instant, and finds the instant again, exactly if the
year has four digits without a sign; the text of any other year is none that it knows.

A leap second at the end of a minute is written as the sixtieth second of it, which no other
second is, and the fraction is written with as many digits as it takes to be exact. So nothing of
such an instant is lost where its text is read. A leap second before the minute is over is written
like the second that comes next, and its text is the text of an instant in that second.
-/

import Sieve.Proofs.Calendar.Date
import Sieve.Proofs.Decimal.Numeral
import Sieve.Calendar.Text

namespace Sieve.Calendar

open Sieve.Decimal (padded value length_padded value_padded isDigit_of_mem_padded)

/-! ### Numbers -/

variable {width number : Nat} {rest : List Char}

theorem readFixed?_padded (positive : 0 < width) (fits : number < 10 ^ width)
    (rest : List Char) : readFixed? width (padded width number ++ rest) = some (number, rest) := by
  have length := length_padded positive fits
  have digits : (padded width number).all Char.isDigit = true :=
    List.all_eq_true.mpr fun _ member => isDigit_of_mem_padded member
  unfold readFixed?
  dsimp only
  rw [List.take_left' length, List.drop_left' length, if_pos ⟨length, digits⟩, value_padded]

/-- What does not start with a digit is no number. -/
theorem readFixed?_eq_none (positive : 0 < width) {character : Char}
    (noDigit : character.isDigit = false) (rest : List Char) :
    readFixed? width (character :: rest) = none := by
  obtain ⟨others, rfl⟩ := Nat.exists_eq_add_one_of_ne_zero (Nat.ne_of_gt positive)
  unfold readFixed?
  dsimp only
  rw [List.take_succ_cons, List.all_cons, noDigit, Bool.false_and]
  exact if_neg fun both => Bool.false_ne_true both.2

@[simp]
theorem expect?_self (character : Char) (rest : List Char) :
    expect? character (character :: rest) = some rest := by
  rw [expect?, if_pos rfl]

/-! ### Fractions of a second -/

/-- A fraction of a few digits is read as if zeros made it nine. -/
theorem readFraction?_padded (positive : 0 < width) (most : width ≤ 9)
    (fits : number < 10 ^ width) {mark : Char} (ends : mark.isDigit = false) :
    readFraction? ('.' :: padded width number ++ mark :: rest) =
      some (number * 10 ^ (9 - width), mark :: rest) := by
  have length := length_padded positive fits
  have digits : ∀ character ∈ padded width number, character.isDigit = true :=
    fun _ member => isDigit_of_mem_padded member
  have noDigit : ¬ mark.isDigit = true := Bool.eq_false_iff.mp ends
  have run :
      (padded width number ++ mark :: rest).takeWhile Char.isDigit = padded width number := by
    simp [List.takeWhile_append_of_pos digits, List.takeWhile_cons_of_neg noDigit]
  have after : (padded width number ++ mark :: rest).dropWhile Char.isDigit = mark :: rest := by
    rw [List.dropWhile_append_of_pos digits, List.dropWhile_cons_of_neg noDigit]
  have some : (padded width number).isEmpty = false := by
    rw [List.isEmpty_eq_false_iff, ← List.length_pos_iff, length]
    exact positive
  rw [List.cons_append, readFraction?]
  dsimp only
  rw [run, after, some, if_neg Bool.false_ne_true,
    List.take_of_length_le (Nat.le_trans (Nat.le_of_eq length) most), length,
    Decimal.value_append_zeros, value_padded]

theorem readFraction?_fractionText {nanosecond : Nat} (below : nanosecond < 10 ^ 9) {mark : Char}
    (ends : mark.isDigit = false) (noPoint : mark ≠ '.') :
    readFraction? (fractionText nanosecond ++ mark :: rest) = some (nanosecond, mark :: rest) := by
  unfold fractionText
  split
  · rename_i zero
    rw [List.nil_append, readFraction?, zero]
    intro others point
    cases point
    exact noPoint rfl
  · split
    · have exact : nanosecond / 1000000 * 10 ^ (9 - 3) = nanosecond :=
        Nat.div_mul_cancel (Nat.dvd_of_mod_eq_zero ‹_›)
      rw [readFraction?_padded (by decide) (by decide) (by omega) ends, exact]
    · split
      · have exact : nanosecond / 1000 * 10 ^ (9 - 6) = nanosecond :=
          Nat.div_mul_cancel (Nat.dvd_of_mod_eq_zero ‹_›)
        rw [readFraction?_padded (by decide) (by decide) (by omega) ends, exact]
      · rw [readFraction?_padded (by decide) (by decide) below ends, Nat.sub_self, Nat.pow_zero,
          Nat.mul_one]

/-! ### Dates -/

/-- The month and the day of a date have two digits at most. -/
theorem Date.month_day_lt (date : Date) : date.month < 10 ^ 2 ∧ date.day < 10 ^ 2 := by
  obtain ⟨short, late⟩ := daysInMonth_le date.year date.month
  have inMonth := date.dayInMonth
  by_cases after : 12 < date.month
  · have := late after
    omega
  · omega

/-- A year of four digits at most, with zeros in front, stands without a sign. -/
theorem yearText_of_inRange {year : Int} (inRange : 0 ≤ year ∧ year ≤ 9999) :
    yearText year = padded 4 year.toNat := by
  rw [yearText, if_pos inRange]

/-- Any other year stands behind its sign. -/
theorem yearText_of_not_inRange {year : Int} (outside : ¬(0 ≤ year ∧ year ≤ 9999)) :
    ∃ sign digits, yearText year = sign :: digits ∧ (sign = '-' ∨ sign = '+') := by
  rw [yearText, if_neg outside]
  split
  · exact ⟨'-', _, rfl, Or.inl rfl⟩
  · exact ⟨'+', _, rfl, Or.inr rfl⟩

/-! ### Instants -/

@[simp]
theorem Date.ofParts?_self (date : Date) :
    Date.ofParts? date.year date.month date.day = some date :=
  Date.ofParts?_eq_some date.yearInRange date.dayInMonth

theorem Instant.of?_self {instant : Instant} (regular : ¬instant.LeapsEarly) :
    Instant.of? instant.second instant.nanosecond = some instant :=
  Instant.of?_eq_some_iff.mpr ⟨⟨rfl, rfl⟩, regular⟩

theorem Instant.secondOfDay_eq (instant : Instant) :
    (instant.secondOfDay : Int) = instant.second % 86400 :=
  Int.toNat_of_nonneg (Int.emod_nonneg _ (by decide))

/-! ### What is shown of an instant -/

/-- The second after an early leap second is in the same minute, and so in range. -/
theorem Instant.LeapsEarly.succ_inRange {instant : Instant} (early : instant.LeapsEarly) :
    firstSecond ≤ instant.second + 1 ∧ instant.second + 1 ≤ lastSecond := by
  obtain ⟨first, last⟩ := instant.secondInRange
  have notLast : instant.second ≠ lastSecond := fun same => early.2 (same ▸ rfl)
  omega

/-- What an instant is shown as: an early leap second as the second after it, any other as itself. -/
def Instant.asShown (instant : Instant) : Instant :=
  if early : instant.LeapsEarly then
    ⟨instant.second + 1, instant.nanosecond - 10 ^ 9, early.succ_inRange,
      Nat.lt_of_le_of_lt (Nat.sub_le _ _) instant.nanosecondInRange⟩
  else instant

theorem Instant.asShown_of_leapsEarly {instant : Instant} (early : instant.LeapsEarly) :
    instant.asShown.second = instant.second + 1 ∧
      instant.asShown.nanosecond + 10 ^ 9 = instant.nanosecond := by
  have leap : 10 ^ 9 ≤ instant.nanosecond := of_decide_eq_true early.1
  rw [asShown, dif_pos early]
  exact ⟨rfl, Nat.sub_add_cancel leap⟩

theorem Instant.asShown_of_not_leapsEarly {instant : Instant} (regular : ¬instant.LeapsEarly) :
    instant.asShown = instant :=
  dif_neg regular

@[simp]
theorem Instant.not_leapsEarly_asShown (instant : Instant) : ¬instant.asShown.LeapsEarly := by
  by_cases early : instant.LeapsEarly
  · have below := instant.nanosecondInRange
    have nanosecond := (asShown_of_leapsEarly early).2
    exact not_leapsEarly_of_lt (by omega)
  · rwa [asShown_of_not_leapsEarly early]

@[simp]
theorem Instant.asShown_eq_self_iff {instant : Instant} :
    instant.asShown = instant ↔ ¬instant.LeapsEarly := by
  refine ⟨fun same => ?_, asShown_of_not_leapsEarly⟩
  rw [← same]
  exact instant.not_leapsEarly_asShown

/-- The second after an early leap second is in the same minute, and so on the same day. -/
@[simp]
theorem Instant.asShown_day (instant : Instant) :
    instant.asShown.second / 86400 = instant.second / 86400 := by
  by_cases early : instant.LeapsEarly
  · have second := (asShown_of_leapsEarly early).1
    have notLast := early.2
    omega
  · rw [asShown_of_not_leapsEarly early]

@[simp]
theorem Instant.date?_asShown (instant : Instant) : instant.asShown.date? = instant.date? := by
  unfold date?
  simp

@[simp]
theorem Instant.timeText_asShown (instant : Instant) :
    instant.asShown.timeText = instant.timeText := by
  by_cases early : instant.LeapsEarly
  · obtain ⟨second, nanosecond⟩ := asShown_of_leapsEarly early
    obtain ⟨leap, notLast⟩ := early
    have below := instant.nanosecondInRange
    have ofDay := secondOfDay_eq instant
    have shownOfDay := secondOfDay_eq instant.asShown
    have noLeap : instant.asShown.isLeapSecond = false := decide_eq_false (by omega)
    have hour : instant.asShown.secondOfDay / 3600 = instant.secondOfDay / 3600 := by omega
    have minute : instant.asShown.secondOfDay / 60 % 60 = instant.secondOfDay / 60 % 60 := by omega
    have shown : instant.asShown.secondOfDay % 60 = instant.secondOfDay % 60 + 1 := by omega
    have fraction : instant.asShown.nanosecond % 10 ^ 9 = instant.nanosecond % 10 ^ 9 := by omega
    unfold timeText
    dsimp only
    rw [hour, minute, fraction, shown, noLeap, leap, if_neg Bool.false_ne_true, if_pos rfl]
  · rw [asShown_of_not_leapsEarly early]

/-- Nothing is shown of an early leap second that is not shown of the second after it. -/
@[simp]
theorem Instant.text_asShown (instant : Instant) : instant.asShown.text = instant.text := by
  unfold text
  simp

/-! ### Texts of instants -/

/-- What the parts of a text are read as. -/
theorem Instant.read?_parts {year month day hour minute second nanosecond : Nat}
    (yearFits : year < 10 ^ 4) (monthFits : month < 10 ^ 2) (dayFits : day < 10 ^ 2)
    (hourFits : hour < 24) (minuteFits : minute < 60) (secondFits : second ≤ 60)
    (below : nanosecond < 10 ^ 9) :
    Instant.read? (padded 4 year ++ '-' :: (padded 2 month ++ '-' :: (padded 2 day ++ 'T' ::
      (padded 2 hour ++ ':' :: (padded 2 minute ++ ':' :: (padded 2 second ++
        (fractionText nanosecond ++ ['Z']))))))) =
      (Date.ofParts? year month day).bind fun date =>
        Instant.of?
          (date.dayNumber * 86400 + (hour * 3600 + minute * 60 +
            (if second = 60 then 59 else second) : Nat))
          (if second = 60 then 10 ^ 9 + nanosecond else nanosecond) := by
  have two : 0 < 2 := Nat.two_pos
  have hourDigits : hour < 10 ^ 2 := by omega
  have minuteDigits : minute < 10 ^ 2 := by omega
  have secondDigits : second < 10 ^ 2 := by omega
  have universal : readOffset? ['Z'] = some (0, []) := rfl
  -- Each part is taken off the front, in the order of the reader.
  unfold Instant.read?
  rw [readFixed?_padded (by decide) yearFits]
  dsimp only [bind, Option.bind]
  rw [expect?_self]
  dsimp only
  rw [readFixed?_padded two monthFits]
  dsimp only
  rw [expect?_self]
  dsimp only
  rw [readFixed?_padded two dayFits]
  dsimp only
  rw [if_pos (Or.inl rfl), readFixed?_padded two hourDigits]
  dsimp only
  rw [expect?_self]
  dsimp only
  rw [readFixed?_padded two minuteDigits]
  dsimp only
  rw [expect?_self]
  dsimp only
  rw [readFixed?_padded two secondDigits]
  dsimp only
  rw [readFraction?_fractionText below (by decide) (by decide)]
  dsimp only
  rw [universal]
  dsimp only
  cases Date.ofParts? year month day with
  | none => rfl
  | some date =>
    dsimp only
    rw [if_pos ⟨rfl, hourFits, minuteFits, secondFits⟩, Int.sub_zero]

theorem Instant.text_of_date {instant : Instant} {date : Date}
    (found : instant.date? = some date) :
    instant.text = date.text ++ 'T' :: instant.timeText ++ ['Z'] := by
  unfold text
  rw [found]

/-- The second that is shown is the sixtieth for a leap second at the end of its minute, and for no
other. -/
theorem Instant.counts_of_text {instant : Instant} (regular : ¬instant.LeapsEarly) :
    let shown := if instant.isLeapSecond then instant.secondOfDay % 60 + 1
      else instant.secondOfDay % 60
    shown ≤ 60 ∧
      instant.second / 86400 * 86400 + (instant.secondOfDay / 3600 * 3600 +
        instant.secondOfDay / 60 % 60 * 60 + (if shown = 60 then 59 else shown) : Nat) =
          instant.second ∧
      (if shown = 60 then 10 ^ 9 + instant.nanosecond % 10 ^ 9 else instant.nanosecond % 10 ^ 9) =
        instant.nanosecond := by
  have range := instant.nanosecondInRange
  intro shown
  have ofDay : (instant.secondOfDay : Int) = instant.second % 86400 := secondOfDay_eq instant
  by_cases leap : 10 ^ 9 ≤ instant.nanosecond
  · have atEnd : instant.second % 60 = 59 := by
      by_contra early
      exact regular ⟨decide_eq_true leap, early⟩
    have last : shown = 60 := by
      unfold shown isLeapSecond
      rw [if_pos (decide_eq_true leap)]
      omega
    rw [last, if_pos rfl, if_pos rfl]
    omega
  · have plain : shown = instant.secondOfDay % 60 := by
      unfold shown isLeapSecond
      rw [if_neg (mt of_decide_eq_true leap)]
    have early : shown ≠ 60 := by omega
    rw [if_neg early, if_neg early]
    omega

/-- The text of an instant in a year of four digits is read as the instant, if it does not leap
early. -/
theorem Instant.read?_text_of_regular {instant : Instant} {date : Date}
    (found : instant.date? = some date) (day : date.dayNumber = instant.second / 86400)
    (inRange : 0 ≤ date.year ∧ date.year ≤ 9999) (regular : ¬instant.LeapsEarly) :
    Instant.read? instant.text = some instant := by
  obtain ⟨monthFits, dayFits⟩ := date.month_day_lt
  obtain ⟨shownFits, second, nanosecond⟩ := counts_of_text regular
  have yearFits : date.year.toNat < 10 ^ 4 := by omega
  have yearShown : (date.year.toNat : Int) = date.year := Int.toNat_of_nonneg inRange.1
  have secondOfDay : instant.secondOfDay < 86400 := by
    unfold Instant.secondOfDay
    omega
  have text : instant.text =
      padded 4 date.year.toNat ++ '-' :: (padded 2 date.month ++ '-' :: (padded 2 date.day ++ 'T' ::
        (padded 2 (instant.secondOfDay / 3600) ++ ':' ::
          (padded 2 (instant.secondOfDay / 60 % 60) ++ ':' ::
            (padded 2 (if instant.isLeapSecond then instant.secondOfDay % 60 + 1
              else instant.secondOfDay % 60) ++
              (fractionText (instant.nanosecond % 10 ^ 9) ++ ['Z'])))))) := by
    rw [text_of_date found, Date.text, yearText_of_inRange inRange, timeText]
    simp only [List.append_assoc, List.cons_append]
  rw [text, read?_parts yearFits monthFits dayFits (by omega) (by omega) shownFits
    (Nat.mod_lt _ (by decide)), yearShown, Date.ofParts?_self, Option.bind_some, day, second,
    nanosecond, of?_self regular]

/-- The text of an instant in a year of four digits is read as what the instant is shown as. -/
theorem Instant.read?_text {instant : Instant} {date : Date}
    (found : instant.date? = some date) (day : date.dayNumber = instant.second / 86400)
    (inRange : 0 ≤ date.year ∧ date.year ≤ 9999) :
    Instant.read? instant.text = some instant.asShown := by
  rw [← text_asShown]
  refine read?_text_of_regular ?_ ?_ inRange instant.not_leapsEarly_asShown
  · simp [found]
  · simp [day]

/-- The text of an instant in any other year is not read at all. -/
theorem Instant.read?_text_eq_none {instant : Instant} {date : Date}
    (found : instant.date? = some date) (outside : ¬(0 ≤ date.year ∧ date.year ≤ 9999)) :
    Instant.read? instant.text = none := by
  obtain ⟨sign, digits, year, signed⟩ := yearText_of_not_inRange outside
  have noDigit : sign.isDigit = false := by
    rcases signed with rfl | rfl <;> decide
  rw [text_of_date found, Date.text, year]
  simp only [List.cons_append]
  unfold read?
  rw [readFixed?_eq_none (by decide) noDigit]
  rfl

end Sieve.Calendar
