/-
What stands in documents and in values, at any depth. A document has a value exactly if nothing in
it, however deep, is a null, a mapping or an integer beyond the signed range; a value has a
document exactly if no float in it is infinite or undefined. The two ways undo one another, so an
operand goes through the values unchanged: it keeps its order, its integers stay integers, and its
floats keep their bits, the sign of a zero among them.

The functions that translate go down through lists, and so do the predicates beside them. The parts
of a document or a value are defined apart from both, and the predicates are shown to speak about
all parts.
-/

import Sieve.Proofs.Value.Operand

namespace Sieve

/-! ### Parts of documents -/

namespace Json

/-- A document stands in itself, and in what it stands in an item or a member of. -/
inductive OccursIn (part : Json) : Json → Prop where
  | here : OccursIn part part
  | item {items : List Json} {item : Json} (listed : item ∈ items) (inside : OccursIn part item) :
      OccursIn part (.list items)
  | member {members : List (String × Json)} {member : String × Json} (listed : member ∈ members)
      (inside : OccursIn part member.2) : OccursIn part (.mapping members)

/-- A document that nothing with a value may hold. -/
inductive IsUnfit : Json → Prop where
  | null : IsUnfit .null
  | mapping (members : List (String × Json)) : IsUnfit (.mapping members)
  | unsigned (number : Integer) (beyond : 2 ^ 63 ≤ number.value) : IsUnfit (.integer number)

theorem areOperands_iff {items : List Json} :
    areOperands items = true ↔ ∀ item ∈ items, item.isOperand = true := by
  induction items with
  | nil => exact iff_of_true rfl fun _ listed => absurd listed List.not_mem_nil
  | cons item rest inductionHypothesis =>
    rw [areOperands, Bool.and_eq_true, inductionHypothesis, List.forall_mem_cons]

/-- The operands are the documents without a part that is unfit. -/
theorem isOperand_iff (document : Json) :
    document.isOperand = true ↔ ∀ part : Json, part.OccursIn document → ¬part.IsUnfit := by
  cases document with
  | null | mapping _ =>
    refine iff_of_false Bool.false_ne_true fun fit => fit _ .here ?_
    constructor
  | bool _ | float _ | string _ =>
    refine iff_of_true rfl ?_
    rintro _ ⟨⟩ ⟨⟩
  | integer number =>
    rw [isOperand, decide_eq_true_iff]
    constructor
    · rintro fitting _ ⟨⟩ unfit
      cases unfit with
      | unsigned _ beyond => exact Int.not_lt_of_ge beyond fitting
    · intro fit
      exact Int.lt_of_not_ge fun beyond => fit _ .here (.unsigned number beyond)
  | list items =>
    rw [isOperand, areOperands_iff]
    constructor
    · intro operands part occurs
      cases occurs with
      | here => rintro ⟨⟩
      | item listed inside => exact (isOperand_iff _).mp (operands _ listed) part inside
    · intro fit item listed
      exact (isOperand_iff item).mpr fun part inside => fit part (.item listed inside)

end Json

/-! ### Parts of values -/

namespace Value

/-- A value stands in itself, and in the lists of what it stands in. -/
inductive OccursIn (part : Value) : Value → Prop where
  | here : OccursIn part part
  | item {items : List Value} {item : Value} (listed : item ∈ items) (inside : OccursIn part item) :
      OccursIn part (.list items)

/-- In a value that is no list stands nothing but itself. -/
theorem forall_occursIn_iff_of_kind {value : Value} {here : Value → Prop}
    (single : value.kind ≠ .list) :
    (∀ part : Value, part.OccursIn value → here part) ↔ here value := by
  constructor
  · intro every
    exact every _ .here
  · intro top part occurs
    cases occurs with
    | here => exact top
    | item _ _ => exact absurd rfl single

/-- In a list stand the list and what stands in its items. -/
theorem forall_occursIn_list_iff {items : List Value} {here : Value → Prop} :
    (∀ part : Value, part.OccursIn (.list items) → here part) ↔
      here (.list items) ∧ ∀ item ∈ items, ∀ part : Value, part.OccursIn item → here part := by
  constructor
  · intro every
    exact ⟨every _ .here, fun item listed part inside => every part (.item listed inside)⟩
  · rintro ⟨top, below⟩ part occurs
    cases occurs with
    | here => exact top
    | item listed inside => exact below _ listed part inside

/-- A property that can be told of a list from its items and itself, and of any other value from
itself, is one of all parts. -/
theorem iff_forall_occursIn {motive here : Value → Prop}
    (list : ∀ items, motive (.list items) ↔ here (.list items) ∧ ∀ item ∈ items, motive item)
    (single : ∀ value, value.kind ≠ .list → (motive value ↔ here value)) (value : Value) :
    motive value ↔ ∀ part : Value, part.OccursIn value → here part := by
  cases value with
  | list items =>
    rw [list, forall_occursIn_list_iff]
    exact and_congr_right' (forall₂_congr fun item _ => iff_forall_occursIn list single item)
  | bool _ | int _ | float _ | str _ | date _ | datetime _ | formula _ =>
    exact (single _ (by rintro ⟨⟩)).trans (forall_occursIn_iff_of_kind (by rintro ⟨⟩)).symm

/-- Whether a float in its own place is finite; a value of another kind is no float. -/
def IsFiniteHere (value : Value) : Prop :=
  ∀ number, value = .float number → number.isFinite = true

/-- Of which parts plain values are put together. -/
def IsPlainHere (value : Value) : Prop :=
  value.kind ∈ [.bool, .int, .float, .str, .list] ∧ value.IsFiniteHere

theorem arePlain_iff {items : List Value} :
    arePlain items = true ↔ ∀ item ∈ items, item.isPlain = true := by
  induction items with
  | nil => exact iff_of_true rfl fun _ listed => absurd listed List.not_mem_nil
  | cons item rest inductionHypothesis =>
    rw [arePlain, Bool.and_eq_true, inductionHypothesis, List.forall_mem_cons]

theorem isFiniteHere_of_kind {value : Value} (noFloat : value.kind ≠ .float) :
    value.IsFiniteHere := by
  rintro number rfl
  exact absurd rfl noFloat

theorem isFiniteHere_float {number : Double} :
    (Value.float number).IsFiniteHere ↔ number.isFinite = true := by
  constructor
  · intro finite
    exact finite number rfl
  · rintro finite _ ⟨⟩
    exact finite

/-- A value is finite if every float that stands in it is. -/
theorem isFinite_iff (value : Value) :
    value.isFinite = true ↔ ∀ part : Value, part.OccursIn value → part.IsFiniteHere := by
  refine iff_forall_occursIn (motive := fun value => value.isFinite = true)
    (fun items => ?_) (fun value single => ?_) value
  · rw [isFinite, allFinite_iff, and_iff_right (isFiniteHere_of_kind (by rintro ⟨⟩))]
  · cases value with
    | float number => rw [isFinite, isFiniteHere_float]
    | list _ => exact absurd rfl single
    | bool _ | int _ | str _ | date _ | datetime _ | formula _ =>
      exact iff_of_true rfl (isFiniteHere_of_kind (by rintro ⟨⟩))

/-- A value is plain if it is put together from plain parts. -/
theorem isPlain_iff (value : Value) :
    value.isPlain = true ↔ ∀ part : Value, part.OccursIn value → part.IsPlainHere := by
  refine iff_forall_occursIn (motive := fun value => value.isPlain = true)
    (fun items => ?_) (fun value single => ?_) value
  · have list : (Value.list items).IsPlainHere :=
      ⟨of_decide_eq_true rfl, isFiniteHere_of_kind (by rintro ⟨⟩)⟩
    rw [isPlain, arePlain_iff, and_iff_right list]
  · cases value with
    | float number =>
      rw [isPlain, IsPlainHere, isFiniteHere_float, kind, and_iff_right (by decide)]
    | list _ => exact absurd rfl single
    | bool _ | int _ | str _ =>
      exact iff_of_true rfl ⟨of_decide_eq_true rfl, isFiniteHere_of_kind (by rintro ⟨⟩)⟩
    | date _ | datetime _ | formula _ =>
      exact iff_of_false Bool.false_ne_true fun plain => absurd plain.1 (of_decide_eq_false rfl)

/-! ### There and back -/

/-- A document that has a value is the document of this value. -/
theorem toJson?_of_ofJson {document : Json} {value : Value}
    (read : ofJson document = .ok value) : toJson? value = some document := by
  obtain ⟨operand, rfl⟩ := (ofJson_eq_ok_iff document).mp read
  exact toJson?_toOperand document operand

/-- A plain value has a document, which has this value. -/
theorem exists_document_of_isPlain {value : Value} (plain : value.isPlain = true) :
    ∃ document, toJson? value = some document ∧ ofJson document = .ok value := by
  obtain ⟨document, operand, rfl⟩ := exists_operand value plain
  exact ⟨document, toJson?_toOperand document operand,
    (ofJson_eq_ok_iff document).mpr ⟨operand, rfl⟩⟩

theorem toJson?_eq_none_iff {value : Value} :
    toJson? value = none ↔ ∃ number, (Value.float number).OccursIn value ∧
      number.isFinite = false := by
  rw [← Option.isNone_iff_eq_none, ← Option.not_isSome, isSome_toJson?, Bool.not_eq_true',
    ← Bool.not_eq_true, isFinite_iff]
  constructor
  · intro some
    by_contra none
    refine some ?_
    rintro _ occurs number rfl
    by_contra infinite
    exact none ⟨number, occurs, Bool.eq_false_iff.mpr infinite⟩
  · rintro ⟨number, occurs, infinite⟩ every
    exact Bool.eq_false_iff.mp infinite (every _ occurs number rfl)

/-- A document has a value exactly if no part of it is unfit, and then it is the document of this
value. A plain value has a document, of which it is the value. The values without a document are
those in which a float stands that is not finite. -/
theorem operands_pass_unchanged :
    (∀ document : Json,
      ((∃ value, ofJson document = .ok value) ↔
          ∀ part : Json, part.OccursIn document → ¬part.IsUnfit) ∧
        ∀ value, ofJson document = .ok value → toJson? value = some document) ∧
    (∀ value : Value, (∀ part : Value, part.OccursIn value → part.IsPlainHere) →
      ∃ document, toJson? value = some document ∧ ofJson document = .ok value) ∧
    ∀ value : Value, toJson? value = none ↔
      ∃ number, (Value.float number).OccursIn value ∧ number.isFinite = false := by
  refine ⟨fun document => ⟨?_, fun _ => toJson?_of_ofJson⟩, fun value plain => ?_,
    fun _ => toJson?_eq_none_iff⟩
  · rw [← Json.isOperand_iff]
    constructor
    · rintro ⟨value, read⟩
      exact ((ofJson_eq_ok_iff document).mp read).1
    · intro operand
      exact ⟨_, (ofJson_eq_ok_iff document).mpr ⟨operand, rfl⟩⟩
  · exact exists_document_of_isPlain ((isPlain_iff value).mpr plain)

/-- The negative zero and the least integer pass in a nested list, and one as a float stays a
float. -/
theorem negative_zero_passes :
    let zero : FiniteDouble := ⟨.ofMagnitude true 0, by decide⟩
    let one : FiniteDouble := ⟨.one, by decide⟩
    let least : Json := .integer ⟨-(2 ^ 63), by decide, by decide⟩
    let document := Json.list [least, .list [.float zero, .float one]]
    let value := Value.list [.int Int64.minValue, .list [.float zero.val, .float .one]]
    ofJson document = .ok value ∧ toJson? value = some document ∧
      ∃ other, toJson? value = some other ∧ ofJson other = .ok value := by
  intro zero one least document value
  obtain ⟨documents, plainValues, _⟩ := operands_pass_unchanged
  have read : ofJson document = .ok value := by rfl
  exact ⟨read, (documents document).2 value read,
    plainValues value ((isPlain_iff value).mp (by decide))⟩

end Value

end Sieve
