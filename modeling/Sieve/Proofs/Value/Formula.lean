/-
Formulas that strings and numbers become. A string becomes an equals sign and one string literal:
the literal begins behind the sign, and read from there it closes at the last character of the
formula and nowhere before, whatever quotes the string is made of. No other formula is such a
literal for this string, and none is one for two strings.

A number becomes an equals sign and its text. There is no quote in the text of a number, so no
number becomes the formula of a string.
-/

import Sieve.Proofs.Decimal.Numeral
import Sieve.Proofs.Text.Doubled
import Sieve.Value.Coercion

namespace Sieve

/-! ### Texts of numbers -/

theorem Decimal.quote_not_mem_digits (number : Nat) : '"' ∉ digits number := by
  intro member
  cases isDigit_of_mem_digits member

theorem Decimal.quote_not_mem_signed (number : Int) : '"' ∉ signed number := by
  unfold signed
  split <;> simp [quote_not_mem_digits]

namespace Double

theorem quote_not_mem_positionalText (number : Decimal.Scaled) :
    '"' ∉ positionalText .plain number := by
  have noQuote := Decimal.quote_not_mem_digits number.digits
  simp only [positionalText, Layout.plain]
  split
  · simp [noQuote]
  · split
    · simp only [List.mem_append, List.mem_cons, not_or]
      exact ⟨mt List.mem_of_mem_take noQuote, by decide, mt List.mem_of_mem_drop noQuote⟩
    · simp [noQuote]

theorem quote_not_mem_magnitudeText (magnitude : Nat) :
    '"' ∉ magnitudeText .plain magnitude := by
  unfold magnitudeText
  split
  · simp [Layout.plain]
  · exact quote_not_mem_positionalText _

theorem quote_not_mem_text (number : Double) : '"' ∉ number.text .plain := by
  have sign : '"' ∉ (if number.negative then ['-'] else []) := by
    split <;> simp
  have rest : '"' ∉
      (if number.isFinite then magnitudeText .plain number.magnitude else ['i', 'n', 'f']) := by
    split
    · exact quote_not_mem_magnitudeText _
    · simp
  unfold text
  split
  · simp
  · simp only [List.mem_append, not_or]
    exact ⟨sign, rest⟩

end Double

/-! ### Formulas -/

namespace Value

open Text (readEnclosed readEnclosed_eq_some_iff)

/-- A formula is one string literal: behind the equals sign a quoted text is read off, which is
this text, and nothing is left. -/
def IsLiteralOf (formula text : String) : Prop :=
  ∃ literal, formula.toList = '=' :: literal ∧
    readEnclosed '"' literal = some (text.toList, [])

theorem isLiteralOf_iff {formula text : String} :
    IsLiteralOf formula text ↔ formula = literalFormula text := by
  unfold IsLiteralOf literalFormula
  simp only [readEnclosed_eq_some_iff]
  rw [← String.toList_inj, String.toList_ofList]
  constructor
  · rintro ⟨literal, sign, rfl, _⟩
    simp [sign]
  · intro same
    exact ⟨_, same, (List.append_nil _).symm, by simp⟩

theorem IsLiteralOf.inj {formula first second : String} (one : IsLiteralOf formula first)
    (other : IsLiteralOf formula second) : first = second := by
  obtain ⟨literal, sign, read⟩ := one
  obtain ⟨literal', sign', read'⟩ := other
  rw [sign] at sign'
  cases sign'
  rw [read] at read'
  have contents : first.toList = second.toList := by simpa using read'
  exact String.toList_inj.mp contents

theorem not_isLiteralOf_of_not_mem {shown : List Char} (noQuote : '"' ∉ shown) (text : String) :
    ¬IsLiteralOf (String.ofList ('=' :: shown)) text := by
  rintro ⟨literal, sign, read⟩
  rw [String.toList_ofList] at sign
  cases sign
  obtain ⟨enclosed, _⟩ := readEnclosed_eq_some_iff.mp read
  rw [enclosed] at noQuote
  exact noQuote List.mem_cons_self

/-- Every string becomes a formula. That formula, and no other one, is an equals sign and one
string literal of the string. It becomes of no other string, of no integer and of no float. -/
theorem strings_become_string_literals (text : String) :
    ∃ formula, coerce .formula (.str text) = .ok (.formula formula) ∧
      (∀ other, IsLiteralOf other text ↔ other = formula) ∧
      (∀ other, coerce .formula (.str other) = .ok (.formula formula) → other = text) ∧
      (∀ number, coerce .formula (.int number) ≠ .ok (.formula formula)) ∧
      ∀ number, coerce .formula (.float number) ≠ .ok (.formula formula) := by
  have literal : IsLiteralOf (literalFormula text) text := isLiteralOf_iff.mpr rfl
  refine ⟨literalFormula text, rfl, fun _ => isLiteralOf_iff, ?_, ?_, ?_⟩
  · intro other become
    have same : literalFormula other = literalFormula text := formula.inj (Except.ok.inj become)
    exact (isLiteralOf_iff.mpr same.symm).inj literal
  · intro number become
    have same : String.ofList ('=' :: Decimal.signed number.toInt) = literalFormula text :=
      formula.inj (Except.ok.inj become)
    exact not_isLiteralOf_of_not_mem (Decimal.quote_not_mem_signed _) text (same ▸ literal)
  · intro number become
    rw [coerce_eq_ok_iff, convert?] at become
    split at become
    · have same : String.ofList ('=' :: number.text .plain) = literalFormula text :=
        formula.inj (Option.some.inj become)
      exact not_isLiteralOf_of_not_mem number.quote_not_mem_text text (same ▸ literal)
    · cases become

/-- A formula in quotes is a string like any other. -/
example : coerce .formula (.str "\"=1\"") = .ok (.formula "=\"\"\"=1\"\"\"") := by rfl

end Value

end Sieve
