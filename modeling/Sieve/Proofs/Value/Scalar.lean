/-
Flags, integers and dates as texts. Each of them has a text, without blanks in it, and a text with
this content is brought back to the value that it came from, whatever blanks stand around it. This
goes for all integers of 64 bits and for all dates of the years that are kept.
-/

import Sieve.Proofs.Calendar.Reading
import Sieve.Value.Coercion

namespace Sieve

open Sieve.Text (isBlank trim trim_surrounded isBlank_of_isDigit)

/-! ### Texts without blanks -/

theorem Decimal.isBlank_signed {number : Int} {character : Char}
    (member : character ∈ signed number) : isBlank character = false := by
  unfold signed at member
  split at member
  · rcases List.mem_cons.mp member with rfl | digit
    · decide
    · exact isBlank_of_isDigit (isDigit_of_mem_digits digit)
  · exact isBlank_of_isDigit (isDigit_of_mem_digits member)

namespace Calendar

theorem isBlank_yearText {year : Int} {character : Char}
    (member : character ∈ yearText year) : isBlank character = false := by
  unfold yearText at member
  split at member
  · exact isBlank_of_isDigit (Decimal.isDigit_of_mem_padded member)
  · rcases List.mem_cons.mp member with rfl | digit
    · split <;> decide
    · exact isBlank_of_isDigit (Decimal.isDigit_of_mem_padded digit)

theorem Date.isBlank_text {date : Date} {character : Char}
    (member : character ∈ date.text) : isBlank character = false := by
  unfold Date.text at member
  simp only [List.mem_append, List.mem_cons] at member
  rcases member with (year | rfl | month) | rfl | day
  · exact isBlank_yearText year
  · decide
  · exact isBlank_of_isDigit (Decimal.isDigit_of_mem_padded month)
  · decide
  · exact isBlank_of_isDigit (Decimal.isDigit_of_mem_padded day)

end Calendar

namespace Value

open Calendar (Date)

/-! ### There and back -/

/-- What a scalar is as a text: one without blanks, which is brought back from among blanks. -/
def IsTextOf (text : List Char) (value : Value) : Prop :=
  coerce .str value = .ok (.str (String.ofList text)) ∧
    (∀ character ∈ text, isBlank character = false) ∧
    ∀ (target : Target) (written : String), target.kind = value.kind → trim written.toList = text →
      coerce target (.str written) = .ok value

theorem isTextOf_bool (flag : Bool) :
    IsTextOf (if flag then "true" else "false").toList (.bool flag) := by
  refine ⟨?_, ?_, ?_⟩
  · rw [String.ofList_toList]
    rfl
  · have noBlank : ((if flag then "true" else "false").toList.any isBlank) = false := by
      cases flag <;> rfl
    intro character member
    exact Bool.eq_false_iff.mpr (List.any_eq_false.mp noBlank character member)
  · intro target written kind trimmed
    cases target with
    | bool =>
      rw [coerce_eq_ok_iff, convert?, fromStr, trimmed]
      cases flag <;> rfl
    | int | str | float | list | sequence | date | datetime | formula => cases kind

theorem isTextOf_int (number : Int64) : IsTextOf (Decimal.signed number.toInt) (.int number) := by
  refine ⟨rfl, fun _ => Decimal.isBlank_signed, ?_⟩
  intro target written kind trimmed
  cases target with
  | int =>
    rw [coerce_eq_ok_iff, convert?, fromStr, trimmed, Decimal.readInteger_signed]
    exact congrArg (fun number => some (Value.int number)) (Int64.ofInt_toInt number)
  | str | bool | float | list | sequence | date | datetime | formula => cases kind

theorem isTextOf_date (date : Date) : IsTextOf date.text (.date date) := by
  refine ⟨rfl, fun _ => Date.isBlank_text, ?_⟩
  intro target written kind trimmed
  cases target with
  | date => simp [coerce_eq_ok_iff, convert?, fromStr, trimmed]
  | int | str | bool | float | list | sequence | datetime | formula => cases kind

/-- A flag, an integer or a date has a text that is brought back to it, among any blanks. -/
theorem scalars_survive_among_blanks (value : Value) (target : Target)
    (scalar : value.kind = .bool ∨ value.kind = .int ∨ value.kind = .date)
    (kind : target.kind = value.kind) :
    ∃ text, coerce .str value = .ok (.str text) ∧ coerce target (.str text) = .ok value ∧
      ∀ before after : String,
        (∀ character ∈ before.toList, isBlank character = true) →
        (∀ character ∈ after.toList, isBlank character = true) →
          coerce target (.str (before ++ text ++ after)) = .ok value := by
  have isText : ∃ text, IsTextOf text value := by
    cases value with
    | bool flag => exact ⟨_, isTextOf_bool flag⟩
    | int number => exact ⟨_, isTextOf_int number⟩
    | date date => exact ⟨_, isTextOf_date date⟩
    | float _ | str _ | list _ | datetime _ | formula _ =>
      rcases scalar with flag | number | date
      · cases flag
      · cases number
      · cases date
  obtain ⟨text, written, solid, back⟩ := isText
  have noBlank : ∀ character ∈ [], isBlank character = true :=
    fun _ member => absurd member List.not_mem_nil
  refine ⟨String.ofList text, written, back target _ kind ?_, ?_⟩
  · have alone := trim_surrounded noBlank solid noBlank
    rw [List.nil_append, List.append_nil] at alone
    rwa [String.toList_ofList]
  · intro before after blankBefore blankAfter
    refine back target _ kind ?_
    rw [String.toList_append, String.toList_append, String.toList_ofList]
    exact trim_surrounded blankBefore solid blankAfter

/-- The first day that is kept, between a no-break space and a line feed. -/
theorem first_date_among_blanks :
    let first : Date := ⟨-262143, 1, 1, by decide, by decide⟩
    coerce .str (.date first) = .ok (.str "-262143-01-01") ∧
      coerce .date (.str ("\u00a0" ++ "-262143-01-01" ++ "\n")) = .ok (.date first) := by
  intro first
  have shown : first.text = "-262143-01-01".toList := by decide +kernel
  have written : coerce .str (.date first) = .ok (.str "-262143-01-01") := by
    rw [coerce_eq_ok_iff, convert?, fromDate, shown, String.ofList_toList]
  obtain ⟨text, same, _, among⟩ :=
    scalars_survive_among_blanks (.date first) .date (.inr (.inr rfl)) rfl
  cases written.symm.trans same
  have noBreak : "\u00a0".toList.all isBlank = true := by decide
  have newline : "\n".toList.all isBlank = true := by decide
  exact ⟨written,
    among "\u00a0" "\n" (List.all_eq_true.mp noBreak) (List.all_eq_true.mp newline)⟩

end Value

end Sieve
