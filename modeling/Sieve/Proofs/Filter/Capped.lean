/-
Integers beyond the signed range. A document may hold integers that fit 64 bits only without a
sign; no operand holds one. Writing a zero for each of them gives a document that a reader has
no such reason to refuse. So if it reads this one, it reads the document itself too, or refuses
it because a number is out of range and for nothing else.

The two readings are followed side by side. They take the same steps up to the first operand
that holds such an integer, and there the reading of the document ends.
-/

import Sieve.Proofs.Filter.Reading
import Sieve.Proofs.Value.Operand

namespace Sieve

namespace Json

mutual

/-- The document with a zero for each integer beyond the signed range. -/
def capped : Json → Json
  | .integer number =>
    .integer (if number.value < 2 ^ 63 then number else ⟨0, by decide, by decide⟩)
  | .list items => .list (cappedItems items)
  | .mapping members => .mapping (cappedMembers members)
  | .null => .null
  | .bool flag => .bool flag
  | .float number => .float number
  | .string text => .string text

def cappedItems : List Json → List Json
  | [] => []
  | item :: rest => capped item :: cappedItems rest

def cappedMembers : List (String × Json) → List (String × Json)
  | [] => []
  | (key, document) :: rest => (key, capped document) :: cappedMembers rest

end

mutual

/-- Operands hold no integer beyond the signed range. -/
theorem capped_of_isOperand : (document : Json) → document.isOperand = true →
    document.capped = document
  | .integer number, operand => by
    rw [isOperand, decide_eq_true_iff] at operand
    rw [capped, if_pos operand]
  | .list items, operands => by rw [capped, cappedItems_of_areOperands items operands]
  | .bool _, _ | .float _, _ | .string _, _ => rfl
  | .null, refused | .mapping _, refused => by cases refused

theorem cappedItems_of_areOperands : (items : List Json) → areOperands items = true →
    cappedItems items = items
  | [], _ => rfl
  | item :: rest, operands => by
    rw [areOperands, Bool.and_eq_true] at operands
    rw [cappedItems, capped_of_isOperand item operands.1,
      cappedItems_of_areOperands rest operands.2]

end

theorem isMapping_capped (document : Json) : document.capped.isMapping = document.isMapping := by
  cases document <;> rfl

end Json

namespace Value

mutual

/-- A document that is a value but for such integers is refused for them alone. -/
theorem rejection_eq_of_capped : (document : Json) → {value : Value} → {rejection : Rejection} →
    ofJson document.capped = .ok value → ofJson document = .error rejection →
    rejection = .outOfRange
  | .integer number, _, _, _, rejected => by
    rw [ofJson, ofInteger] at rejected
    split at rejected <;> cases rejected
    rfl
  | .list items, _, _, taken, rejected => by
    obtain ⟨_, items', _⟩ := map_eq_ok_iff.mp taken
    exact rejection_eq_of_cappedItems items items' (map_eq_error_iff.mp rejected)
  | .null, _, _, taken, _ | .mapping _, _, _, taken, _ => by cases taken
  | .bool _, _, _, _, rejected | .float _, _, _, _, rejected | .string _, _, _, _, rejected => by
    cases rejected

theorem rejection_eq_of_cappedItems : (items : List Json) → {values : List Value} →
    {rejection : Rejection} → ofItems (Json.cappedItems items) = .ok values →
    ofItems items = .error rejection → rejection = .outOfRange
  | [], _, _, _, rejected => by cases rejected
  | item :: rest, _, _, taken, rejected => by
    obtain ⟨value, others, head, tail, rfl⟩ := ofItems_cons _ _ taken
    have noMapping : ∀ members, item = .mapping members → False := by
      rintro members rfl
      cases head
    rw [ofItems.eq_3 item rest noMapping] at rejected
    split at rejected
    · rename_i refused
      cases rejected
      exact rejection_eq_of_capped item head refused
    · exact rejection_eq_of_cappedItems rest tail (map_eq_error_iff.mp rejected)

end

end Value

namespace Filter

open Sieve.Json (cappedItems cappedMembers)

/-! ### Outcomes -/

/-- Where the first outcome is a value, the second one is a value too, or it says that a number is out
of range. -/
def Excused {α : Type} (first second : Except Fault α) : Prop :=
  ∀ value fault, first = .ok value → second = .error fault →
    fault.problem = .malformed (.rejected .outOfRange)

namespace Excused

variable {α β : Type} {first second : Except Fault α}

theorem same (outcome : Except Fault α) : Excused outcome outcome := by
  rintro value fault rfl impossible
  cases impossible

theorem map {function : α → β} (excused : Excused first second) :
    Excused (first.map function) (second.map function) := by
  intro value fault taken refused
  obtain ⟨before, ok, _⟩ := map_eq_ok_iff.mp taken
  exact excused before fault ok (map_eq_error_iff.mp refused)

theorem after (step : Except Fault α) {next other : α → Except Fault β}
    (excused : ∀ value, Excused (next value) (other value)) :
    Excused (step.bind next) (step.bind other) := by
  cases step with
  | error fault => exact same (.error fault)
  | ok value => exact excused value

theorem cons {rest others : Except Fault (List α)} (head : Excused first second)
    (tail : Excused rest others) :
    Excused (first.bind fun value => rest.map (value :: ·))
      (second.bind fun value => others.map (value :: ·)) := by
  intro values fault taken refused
  obtain ⟨value, later, ok, rest, _⟩ := bind_cons_eq_ok_iff.mp taken
  rcases error_of_bind_cons refused with failed | failed
  · exact head value fault ok failed
  · exact tail later fault rest failed

end Excused

namespace Reader

variable (reader : Reader) (path : Path) (level : Nat)

/-! ### Leaves -/

/-- An operand is refused for a number out of range before anything else is done with it. -/
theorem excused_operand {α : Type} (document : Json) (next : Value → Except Fault α) :
    Excused ((operand path document.capped).bind next) ((operand path document).bind next) := by
  cases read : Value.ofJson document with
  | ok value =>
    rw [Json.capped_of_isOperand document ((Value.ofJson_eq_ok_iff document).mp read).1]
    exact .same _
  | error rejection =>
    intro value fault taken refused
    obtain ⟨operandValue, capped, _⟩ := bind_eq_ok_iff.mp taken
    have cause := Value.rejection_eq_of_capped document (mapError_eq_ok_iff.mp capped) read
    unfold operand at refused
    rw [read, cause] at refused
    cases refused
    rfl

theorem excused_readCondition (field key : String) (document : Json) :
    Excused (reader.readCondition path level field key document.capped)
      (reader.readCondition path level field key document) := by
  rw [readCondition_eq, readCondition_eq]
  refine .after _ fun _ => .after _ fun operator => .map ?_
  unfold conditionOf
  cases operator.builder with
  | logical connective => exact .same _
  | field operation =>
    dsimp only
    rw [operatorOperand_eq, operatorOperand_eq, bind_bind, bind_bind]
    exact excused_operand path document _

theorem excused_readField_operand (field : String) {document : Json}
    (bare : document.isMapping = false) :
    Excused (reader.readField path level field document.capped)
      (reader.readField path level field document) := by
  rw [readField_operand _ _ _ _ bare, readField_operand _ _ _ _ (by rwa [Json.isMapping_capped]),
    readEquality_eq, readEquality_eq, comparedOperand_eq, comparedOperand_eq]
  exact .after _ fun _ => .map (excused_operand path document _)

/-! ### Mappings and lists -/

@[simp]
theorem entryLevel_cappedMembers (members : List (String × Json)) :
    reader.entryLevel path level (cappedMembers members) =
      reader.entryLevel path level members := by
  match members with
  | [] | [_] | _ :: _ :: _ => rfl

theorem excused_mapping (members : List (String × Json))
    {entries others : Nat → Except Fault (List Tree)}
    (each : ∀ inner, Excused (entries inner) (others inner)) :
    Excused
      ((reader.entryLevel path level (cappedMembers members)).bind fun inner =>
        (entries inner).map Tree.conjunction)
      ((reader.entryLevel path level members).bind fun inner =>
        (others inner).map Tree.conjunction) := by
  rw [entryLevel_cappedMembers]
  exact .after _ fun inner => (each inner).map

mutual

theorem excused_readField (path : Path) (level : Nat) (field : String) : (document : Json) →
    Excused (reader.readField path level field document.capped)
      (reader.readField path level field document)
  | .mapping members => by
    rw [Json.capped, readField_mapping, readField_mapping]
    exact reader.excused_mapping path level members fun inner =>
      excused_readOperators path inner field members
  | .null | .bool _ | .integer _ | .float _ | .string _ | .list _ =>
    reader.excused_readField_operand path level field rfl

theorem excused_readOperators (path : Path) (level : Nat) (field : String) :
    (members : List (String × Json)) →
    Excused (reader.readOperators path level field (cappedMembers members))
      (reader.readOperators path level field members)
  | [] => .same _
  | (key, document) :: rest => by
    rw [cappedMembers, readOperators_cons, readOperators_cons]
    refine .cons ?_ (excused_readOperators path level field rest)
    unfold readOperator
    split
    · exact reader.excused_readCondition path level field key document
    · exact excused_readField (path.child key) level (field ++ "." ++ key) document

end

theorem excused_readMapping_other {document : Json} (bare : document.isMapping = false) :
    Excused (reader.readMapping path level document.capped)
      (reader.readMapping path level document) := by
  rw [readMapping_other _ _ _ bare, readMapping_other _ _ _ (by rwa [Json.isMapping_capped])]
  exact .same _

/-- The list of a logical operator is empty in both readings, or in none. -/
theorem excused_readGroup_list (key : String) (connective : Connective) {items : List Json}
    (elements : Excused (reader.readElements path (level + 1) key 0 (cappedItems items))
      (reader.readElements path (level + 1) key 0 items)) :
    Excused (reader.readGroup path level key connective (.list (cappedItems items)))
      (reader.readGroup path level key connective (.list items)) := by
  rw [readGroup_list, readGroup_list]
  refine .after _ fun _ => .map ?_
  cases items with
  | nil => exact .same _
  | cons item rest => exact elements

theorem excused_readGroup_other (key : String) (connective : Connective) {document : Json}
    (noList : ∀ items, document ≠ .list items) :
    Excused (reader.readGroup path level key connective document.capped)
      (reader.readGroup path level key connective document) := by
  have stillNone : ∀ items, document.capped ≠ .list items := by
    cases document with
    | list items => exact absurd rfl (noList items)
    | _ =>
      intro items impossible
      cases impossible
  rw [readGroup_other _ _ _ _ _ noList, readGroup_other _ _ _ _ _ stillNone]
  exact .same _

mutual

theorem excused_readMapping (path : Path) (level : Nat) : (document : Json) →
    Excused (reader.readMapping path level document.capped)
      (reader.readMapping path level document)
  | .mapping members => by
    rw [Json.capped, readMapping_mapping, readMapping_mapping]
    exact reader.excused_mapping path level members fun inner =>
      excused_readEntries path inner members
  | .null | .bool _ | .integer _ | .float _ | .string _ | .list _ =>
    reader.excused_readMapping_other path level rfl

theorem excused_readEntries (path : Path) (level : Nat) : (members : List (String × Json)) →
    Excused (reader.readEntries path level (cappedMembers members))
      (reader.readEntries path level members)
  | [] => .same _
  | (key, document) :: rest => by
    rw [cappedMembers, readEntries_cons, readEntries_cons]
    refine .cons ?_ (excused_readEntries path level rest)
    unfold readEntry
    split
    · exact .after _ fun connective => excused_readGroup path level key connective document
    · exact reader.excused_readField (path.child key) level key document

theorem excused_readGroup (path : Path) (level : Nat) (key : String) (connective : Connective) :
    (document : Json) →
    Excused (reader.readGroup path level key connective document.capped)
      (reader.readGroup path level key connective document)
  | .list items =>
    reader.excused_readGroup_list path level key connective
      (excused_readElements path (level + 1) key 0 items)
  | .null | .bool _ | .integer _ | .float _ | .string _ | .mapping _ =>
    reader.excused_readGroup_other path level key connective (by simp)

theorem excused_readElements (path : Path) (level : Nat) (key : String) (index : Nat) :
    (items : List Json) →
    Excused (reader.readElements path level key index (cappedItems items))
      (reader.readElements path level key index items)
  | [] => .same _
  | item :: rest => by
    rw [cappedItems, readElements_cons, readElements_cons]
    exact .cons (excused_readMapping (path.child (Path.element key index)) level item)
      (excused_readElements path level key (index + 1) rest)

end

/-- If a reader takes a document with its integers capped, then it takes the document itself, or it
refuses it because a number is out of range. -/
theorem excused_read (document : Json) :
    Excused (reader.read document.capped) (reader.read document) :=
  reader.excused_readMapping .root 1 document

end Reader

end Filter

end Sieve
