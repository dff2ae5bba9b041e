/-
Lists as texts. This file is about the lists of flags, integers, strings and lists of these, to any
depth. All of them have texts, and the text of such a list leads back to the list itself, whatever
characters its strings are made of, as long as the lists are not nested deeper than texts may be:
127 of them can be open at once. The text of a list that is nested deeper is refused.

So a list that is bound to a query as a text stands for one list only, and a schema that asks for a
list gets this one from the text.
-/

import Sieve.Proofs.Json.Compact
import Sieve.Proofs.Value.Parts
import Sieve.Sql.Parameter

namespace Sieve

namespace Value

mutual

/-- The most lists of a value that are open at once. -/
def nesting : Value → Nat
  | .list items => 1 + greatestNesting items
  | .bool _ | .int _ | .float _ | .str _ | .date _ | .datetime _ | .formula _ => 0

def greatestNesting : List Value → Nat
  | [] => 0
  | item :: rest => max (nesting item) (greatestNesting rest)

end

end Value

/-! ### Documents of such lists -/

namespace Json

mutual

/-- An operand is nested as deep as its value. -/
theorem nesting_toOperand : (document : Json) → document.isOperand = true →
    document.toOperand.nesting = document.nesting
  | .bool _, _ | .integer _, _ | .float _, _ | .string _, _ => rfl
  | .list items, operands => congrArg (1 + ·) (greatestNesting_toOperands items operands)
  | .null, refused | .mapping _, refused => by cases refused

theorem greatestNesting_toOperands : (items : List Json) → areOperands items = true →
    Value.greatestNesting (toOperands items) = greatestNesting items
  | [], _ => rfl
  | item :: rest, operands => by
    rw [areOperands, Bool.and_eq_true] at operands
    rw [toOperands, Value.greatestNesting, greatestNesting, nesting_toOperand item operands.1,
      greatestNesting_toOperands rest operands.2]

end

theorem toOperands_eq_map (items : List Json) : toOperands items = items.map toOperand := by
  induction items with
  | nil => rfl
  | cons item rest inductionHypothesis => rw [toOperands, inductionHypothesis, List.map_cons]

/-- An operand is exact if no float stands in its value. -/
theorem isExact_of_isOperand (document : Json) (operand : document.isOperand = true)
    (noFloat : ∀ number, ¬(Value.float number).OccursIn document.toOperand) :
    document.IsExact := by
  cases document with
  | null | mapping _ => cases operand
  | bool flag => exact .bool flag
  | integer number => exact .integer number
  | float number => exact absurd .here (noFloat number.val)
  | string text => exact .string text
  | list items =>
    refine .list fun item listed => ?_
    refine isExact_of_isOperand item (areOperands_iff.mp operand item listed) ?_
    intro number occurs
    have valueListed : item.toOperand ∈ toOperands items := by
      rw [toOperands_eq_map]
      exact List.mem_map_of_mem listed
    exact noFloat number (.item valueListed occurs)

end Json

/-! ### There and back -/

namespace Value

/-- A value of flags, integers, strings and lists, with its document and the properties of that. -/
theorem exists_exact_document {value : Value}
    (textual : ∀ part : Value, part.OccursIn value → part.kind ∈ [.bool, .int, .str, .list]) :
    ∃ document : Json, document.isOperand = true ∧ document.toOperand = value ∧
      document.IsExact := by
  have noFloat : ∀ number, ¬(Value.float number).OccursIn value := by
    intro number occurs
    exact absurd (textual _ occurs) (of_decide_eq_false rfl)
  have plain : ∀ part : Value, part.OccursIn value → part.IsPlainHere := by
    intro part occurs
    refine ⟨?_, ?_⟩
    · have kinds : [Kind.bool, .int, .str, .list] ⊆ [.bool, .int, .float, .str, .list] := by decide
      exact kinds (textual part occurs)
    · rintro number rfl
      exact absurd occurs (noFloat number)
  obtain ⟨document, operand, rfl⟩ := exists_operand value ((isPlain_iff value).mpr plain)
  exact ⟨document, operand, rfl, document.isExact_of_isOperand operand noFloat⟩

/-- The compact text of an exact list is read as the list, if that is not nested too deep. -/
theorem readList?_compact {documents : List Json} (operand : (Json.list documents).isOperand = true)
    (exact : (Json.list documents).IsExact) :
    readList? (Json.list documents).compact =
      if (Json.list documents).toOperand.nesting ≤ 127 then some (Json.list documents).toOperand
      else none := by
  obtain ⟨shallow, deep⟩ := exact.read_compact
  rw [Json.nesting_toOperand _ operand, readList?]
  by_cases fits : (Json.list documents).nesting ≤ 127
  · rw [if_pos fits, shallow (Nat.lt_succ_of_le fits)]
    dsimp only
    rw [(ofJson_eq_ok_iff (.list documents)).mpr ⟨operand, rfl⟩]
    rfl
  · obtain ⟨fault, refused, _⟩ := deep (Nat.lt_of_not_le fits)
    rw [if_neg fits, refused]

/-- A text is brought to a list by reading it. -/
theorem convert?_str_of_isSequence {target : Target} (sequence : target.isSequence = true)
    (text : String) : convert? target (.str text) = readList? text := by
  cases target with
  | list | sequence => rfl
  | int | str | bool | float | date | datetime | formula => cases sequence

/-- A list of flags, integers, strings and lists, to any depth, has a text, and that is what is
bound to a query for it. The text is brought to the same list again if at most 127 lists are nested
in one another, and to nothing if there are more. -/
theorem lists_survive_as_texts (items : List Value)
    (textual : ∀ part : Value, part.OccursIn (.list items) →
      part.kind ∈ [.bool, .int, .str, .list]) :
    ∃ text, coerce .str (.list items) = .ok (.str text) ∧
      Sql.Parameter.ofValue (.list items) = .ok (.string text) ∧
      ∀ target : Target, target.isSequence = true →
        (nesting (.list items) ≤ 127 →
          coerce target (.str text) = .ok (.list items) ∧
            coerceEach target (.str text) = .ok (.list items)) ∧
        (127 < nesting (.list items) → coerce target (.str text) = .error ⟨.str, target⟩) := by
  obtain ⟨document, operand, same, exact⟩ := exists_exact_document textual
  have list : ∃ documents, document = .list documents := by
    cases document with
    | list documents => exact ⟨documents, rfl⟩
    | null | mapping _ => cases operand
    | bool _ | integer _ | float _ | string _ => cases same
  obtain ⟨documents, rfl⟩ := list
  have written : coerce .str (.list items) = .ok (.str (Json.list documents).compact) := by
    rw [← same]
    exact coerce_str_toOperand operand
  have read := readList?_compact operand exact
  rw [same] at read
  refine ⟨_, written, ?_, fun target sequence => ⟨fun shallow => ?_, fun deep => ?_⟩⟩
  · rw [Sql.Parameter.ofValue, Sql.Parameter.ofText, written]
    all_goals rintro _ ⟨⟩
  · have back : coerce target (.str (Json.list documents).compact) = .ok (.list items) := by
      rw [coerce_eq_ok_iff, convert?_str_of_isSequence sequence, read, if_pos shallow]
    exact ⟨back, back⟩
  · have refused : convert? target (.str (Json.list documents).compact) = none := by
      rw [convert?_str_of_isSequence sequence, read, if_neg (Nat.not_le_of_lt deep)]
    rw [coerce, refused]
    rfl

/-- A quote, a backslash and a control character, beside a list of the least integer. -/
theorem list_of_escapes_survives :
    let items : List Value := [.str "\"\\\x01", .list [.int Int64.minValue]]
    coerce .str (.list items) = .ok (.str "[\"\\\"\\\\\\u0001\",[-9223372036854775808]]") ∧
      nesting (.list items) ≤ 127 ∧
      coerceEach .sequence (.str "[\"\\\"\\\\\\u0001\",[-9223372036854775808]]") =
        .ok (.list items) := by
  intro items
  have written : coerce .str (.list items) =
      .ok (.str "[\"\\\"\\\\\\u0001\",[-9223372036854775808]]") := by rfl
  have shallow : nesting (.list items) ≤ 127 := by decide
  have textual : ∀ part : Value, part.OccursIn (.list items) →
      part.kind ∈ [.bool, .int, .str, .list] := by
    simp only [items, forall_occursIn_list_iff, List.forall_mem_singleton, List.forall_mem_cons]
    refine ⟨by decide, ?_, by decide, ?_⟩
    · exact (forall_occursIn_iff_of_kind (by decide)).mpr (by decide)
    · exact (forall_occursIn_iff_of_kind (by decide)).mpr (by decide)
  obtain ⟨text, same, _, back⟩ := lists_survive_as_texts items textual
  cases written.symm.trans same
  exact ⟨written, shallow, ((back .sequence rfl).1 shallow).2⟩

end Value

end Sieve
