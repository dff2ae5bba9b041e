/-
Dates are read from their texts. The reader allows for more than is written: blanks before each
number, single digits, years of any length behind a sign. Where no sign stands it takes four
digits for the year and no more, and this is how many the years without a sign are written with.
A year before the year zero has a sign that looks like the hyphens between the parts; but it
stands in front of the first digit, and a hyphen ends the digits that it follows. So the parts are
told apart for every year that is kept.
-/

import Sieve.Proofs.Calendar.Text

namespace Sieve.Calendar

open Sieve.Decimal (padded value value_padded length_padded isDigit_of_mem_padded
  exists_padded_cons)
open Sieve.Text (trimStart trimStart_of_head isBlank_of_isDigit)

/-! ### Numbers -/

@[simp]
theorem trimStart_padded (width number : Nat) (rest : List Char) :
    trimStart (padded width number ++ rest) = padded width number ++ rest := by
  obtain ⟨first, others, start, digit⟩ := exists_padded_cons width number
  rw [start, List.cons_append, trimStart_of_head (isBlank_of_isDigit digit)]

/-- A number is read up to the next character that is no digit. -/
theorem readDigits?_padded {width number most : Nat} {rest : List Char}
    (fits : (padded width number).length ≤ most)
    (ends : ∀ mark ∈ rest.head?, mark.isDigit = false) :
    readDigits? most (padded width number ++ rest) = some (number, rest) := by
  have digits : ∀ character ∈ padded width number, character.isDigit = true :=
    fun _ member => isDigit_of_mem_padded member
  have stop : (rest.take (most - (padded width number).length)).takeWhile Char.isDigit = [] := by
    cases rest with
    | nil => rw [List.take_nil, List.takeWhile_nil]
    | cons mark others =>
      have noDigit : ¬mark.isDigit = true := Bool.eq_false_iff.mp (ends mark rfl)
      cases most - (padded width number).length with
      | zero => rfl
      | succ more => rw [List.take_succ_cons, List.takeWhile_cons_of_neg noDigit]
  have run : ((padded width number ++ rest).take most).takeWhile Char.isDigit =
      padded width number := by
    rw [List.take_append, List.take_of_length_le fits, List.takeWhile_append_of_pos digits, stop,
      List.append_nil]
  obtain ⟨first, others, start, _⟩ := exists_padded_cons width number
  have some : (padded width number).isEmpty = false := by
    rw [start]
    rfl
  unfold readDigits?
  dsimp only
  rw [run, some, if_neg Bool.false_ne_true, List.drop_left, value_padded]

/-! ### Years -/

/-- The hyphen after a year ends it. -/
@[simp]
theorem readYear?_yearText (year : Int) (rest : List Char) :
    readYear? (yearText year ++ '-' :: rest) = some (year, '-' :: rest) := by
  have ends : ∀ mark ∈ ('-' :: rest).head?, mark.isDigit = false := by
    rintro mark ⟨⟩
    decide
  unfold yearText
  split
  · rename_i inRange
    have length := length_padded (show 0 < 4 by decide) (show year.toNat < 10 ^ 4 by omega)
    have same : (year.toNat : Int) = year := Int.toNat_of_nonneg inRange.1
    have read := readDigits?_padded (Nat.le_of_eq length) ends
    obtain ⟨first, others, start, digit⟩ := exists_padded_cons 4 year.toNat
    rw [start, List.cons_append] at read ⊢
    unfold readYear?
    split
    · rename_i sign
      cases sign
      cases digit
    · rename_i sign
      cases sign
      cases digit
    · rw [read]
      exact congrArg (fun year => some (year, '-' :: rest)) same
  · rename_i outside
    have long : (padded 4 year.natAbs).length ≤ (padded 4 year.natAbs ++ '-' :: rest).length := by
      rw [List.length_append]
      exact Nat.le_add_right _ _
    have read := readDigits?_padded long ends
    split
    · have same : -(year.natAbs : Int) = year := by omega
      rw [List.cons_append, readYear?, read]
      exact congrArg (fun year => some (year, '-' :: rest)) same
    · have same : (year.natAbs : Int) = year := by omega
      rw [List.cons_append, readYear?, read]
      exact congrArg (fun year => some (year, '-' :: rest)) same

@[simp]
theorem trimStart_yearText (year : Int) (rest : List Char) :
    trimStart (yearText year ++ rest) = yearText year ++ rest := by
  by_cases inRange : 0 ≤ year ∧ year ≤ 9999
  · rw [yearText_of_inRange inRange]
    exact trimStart_padded _ _ _
  · obtain ⟨sign, digits, start, signed⟩ := yearText_of_not_inRange inRange
    rw [start, List.cons_append, trimStart_of_head]
    rcases signed with rfl | rfl <;> decide

/-! ### Dates -/

/-- The text of a date is read as the date. -/
@[simp]
theorem Date.read?_text (date : Date) : Date.read? date.text = some date := by
  obtain ⟨monthFits, dayFits⟩ := date.month_day_lt
  have two : 0 < 2 := Nat.two_pos
  have month : readDigits? 2 (padded 2 date.month ++ '-' :: padded 2 date.day) =
      some (date.month, '-' :: padded 2 date.day) := by
    refine readDigits?_padded (Nat.le_of_eq (length_padded two monthFits)) ?_
    rintro mark ⟨⟩
    decide
  have day : readDigits? 2 (padded 2 date.day ++ []) = some (date.day, []) := by
    refine readDigits?_padded (Nat.le_of_eq (length_padded two dayFits)) ?_
    rintro mark ⟨⟩
  have dayAlone := trimStart_padded 2 date.day []
  rw [List.append_nil] at day dayAlone
  -- Each part is taken off the front, in the order of the reader.
  unfold Date.read? Date.text
  rw [List.append_assoc, List.cons_append, trimStart_yearText, readYear?_yearText]
  dsimp only [bind, Option.bind]
  rw [expect?_self]
  dsimp only
  rw [trimStart_padded, month]
  dsimp only
  rw [expect?_self]
  dsimp only
  rw [dayAlone, day]
  dsimp only
  simp

end Sieve.Calendar
