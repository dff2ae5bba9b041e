/-
Texts in order. A store that knows no kinds compares texts byte by byte, as they are encoded. The
encoding was made for that: of two characters, the one with the smaller code point has the smaller
bytes, also where one has more bytes than the other. So the order of the bytes of texts is the order
of their characters.
-/

import Mathlib.Data.Char
import Mathlib.Data.List.Lex
import Mathlib.Tactic.SplitIfs
import Mathlib.Tactic.Tauto

namespace Sieve.Text

/-- Parts of the same length are compared first, what follows them after. -/
theorem append_lt_append_iff {Symbol : Type} [LT Symbol]
    {first second rest other : List Symbol} (sameLength : first.length = second.length) :
    first ++ rest < second ++ other ↔ first < second ∨ first = second ∧ rest < other := by
  induction first generalizing second with
  | nil =>
    obtain rfl : second = [] := List.length_eq_zero_iff.mp sameLength.symm
    simp
  | cons character others inductionHypothesis =>
    cases second with
    | nil => cases sameLength
    | cons mark more =>
      have shorter : others.length = more.length := Nat.succ.inj sameLength
      simp only [List.cons_append, List.cons_lt_cons_iff, inductionHypothesis shorter,
        List.cons.injEq]
      tauto

/-- The bytes of a text. -/
def bytes (text : String) : List UInt8 :=
  text.toUTF8.data.toList

theorem bytes_ofList (characters : List Char) :
    bytes (String.ofList characters) = characters.flatMap String.utf8EncodeChar := by
  rw [bytes, String.toUTF8, String.toByteArray_ofList, List.utf8Encode, List.data_toByteArray]

/-- The first byte in which the encodings of two characters differ decides as their code points. -/
theorem encode_lt {first second : Char} (less : first < second) (rest more : List UInt8) :
    String.utf8EncodeChar first ++ rest < String.utf8EncodeChar second ++ more := by
  have codes : first.val.toNat < second.val.toNat := less
  have bound : second.val.toNat < 0x110000 := by
    rcases second.valid with low | high
    · exact Nat.lt_trans low (by decide)
    · exact high.2
  unfold String.utf8EncodeChar
  dsimp only
  generalize first.val.toNat = code at codes
  generalize second.val.toNat = otherCode at codes bound
  -- The parts of a code point are its digits to the base 64, and no byte overflows.
  have twelve : ∀ number, number / 4096 = number / 64 / 64 := by omega
  have eighteen : ∀ number, number / 262144 = number / 64 / 64 / 64 := by omega
  have next : ∀ number, (number % 64 + 128) % 256 = number % 64 + 128 := by omega
  have lead : ∀ number, (number % 8 + 240) % 256 = number % 8 + 240 := by omega
  split_ifs <;>
    simp only [List.cons_append, List.nil_append, List.cons_lt_cons_iff, UInt8.lt_iff_toNat_lt,
      ← UInt8.toNat_inj, UInt8.toNat_ofNat', lead, next, twelve, eighteen] <;>
    omega

theorem encodeEach_lt_iff {first second : List Char} :
    first.flatMap String.utf8EncodeChar < second.flatMap String.utf8EncodeChar ↔
      first < second := by
  induction first generalizing second with
  | nil =>
    cases second with
    | nil => simp
    | cons mark more =>
      have nonempty : String.utf8EncodeChar mark ≠ [] := String.utf8EncodeChar_ne_nil
      obtain ⟨byte, bytes, encoded⟩ := List.exists_cons_of_ne_nil nonempty
      rw [List.flatMap_cons, encoded]
      simp
  | cons character others inductionHypothesis =>
    cases second with
    | nil => simp
    | cons mark more =>
      rw [List.flatMap_cons, List.flatMap_cons, List.cons_lt_cons_iff]
      rcases lt_trichotomy character mark with before | rfl | after
      · exact iff_of_true (encode_lt before _ _) (Or.inl before)
      · rw [append_lt_append_iff rfl, inductionHypothesis, iff_false_intro (List.lt_irrefl _),
          iff_false_intro (lt_irrefl character)]
        simp only [true_and]
      · refine iff_of_false (List.lt_asymm (encode_lt after _ _)) ?_
        rintro (before | ⟨same, _⟩)
        · exact lt_asymm after before
        · exact absurd same.symm (ne_of_lt after)

/-- Compared byte by byte, texts are in the order of their characters. -/
theorem bytes_lt_iff {first second : String} : bytes first < bytes second ↔ first < second := by
  rw [String.lt_iff, ← encodeEach_lt_iff, ← bytes_ofList, ← bytes_ofList, String.ofList_toList,
    String.ofList_toList]

end Sieve.Text
