/-
Which documents can be operands, and what value each of them is. A document is an operand
unless it holds, at any depth, a null, a mapping or an integer beyond the signed range; and
then it is its own value, part by part. So an operand has a document form again, and that is
the document that it was. The values of operands are the plain ones, which hold none of the
kinds that only a schema makes, and no float that is not finite.

An operator that is not about the order or the equality of values reads its operand in a way
of its own: as a wish for a value to be there or not, or as a pattern.
-/

import Sieve.Proofs.Value.Finite

namespace Sieve

namespace Json

mutual

/-- Whether a document is an operand: it holds no null, no mapping and no integer beyond the signed
range, at any depth. -/
def isOperand : Json → Bool
  | .null => false
  | .mapping _ => false
  | .integer number => decide (number.value < 2 ^ 63)
  | .list items => areOperands items
  | .bool _ | .float _ | .string _ => true

def areOperands : List Json → Bool
  | [] => true
  | item :: rest => isOperand item && areOperands rest

end

mutual

/-- The value that an operand is; what is no operand counts as an empty list. -/
def toOperand : Json → Value
  | .bool flag => .bool flag
  | .integer number => .int (Int64.ofInt number.value)
  | .float number => .float number.val
  | .string text => .str text
  | .list items => .list (toOperands items)
  | .null | .mapping _ => .list []

def toOperands : List Json → List Value
  | [] => []
  | item :: rest => toOperand item :: toOperands rest

end

def isList : Json → Bool
  | .list _ => true
  | _ => false

/-- The wish for presence that a document states: a flag, an integer that stands for a flag, or the
word for one, in either case of letters and among blanks. -/
def wish? : Json → Option Bool
  | .bool flag => some flag
  | .integer number =>
    if number.value = 0 then some false else if number.value = 1 then some true else none
  | .string text =>
    let word := (Text.trim text.toList).map Char.toLower
    if word = "true".toList then some true
    else if word = "false".toList then some false
    else none
  | _ => none

/-- The pattern that an operand is: a string is one itself, a number is written out without an
exponent, and any other operand is its compact text. -/
def pattern : Json → String
  | .string text => text
  | .float number => String.ofList (number.val.text .plain)
  | document => document.compact

end Json

namespace Value

open Sieve.Json (Integer)

/-! ### Operands as values -/

theorem ofInteger_eq_ok_iff {number : Integer} {value : Value} :
    ofInteger number = .ok value ↔ number.value < 2 ^ 63 ∧ .int (Int64.ofInt number.value) = value := by
  unfold ofInteger
  by_cases fitting : number.value < 2 ^ 63
  · rw [if_pos fitting, Except.ok.injEq, and_iff_right fitting]
  · rw [if_neg fitting]
    constructor
    · intro refused
      cases refused
    · intro fits
      exact absurd fits.1 fitting

theorem ofItems_cons_eq_ok_iff {item : Json} {rest : List Json} {values : List Value} :
    ofItems (item :: rest) = .ok values ↔
      ∃ value others, ofJson item = .ok value ∧ ofItems rest = .ok others ∧
        value :: others = values := by
  refine ⟨ofItems_cons item rest, ?_⟩
  rintro ⟨value, others, head, tail, rfl⟩
  have noMapping : ∀ members, item = .mapping members → False := by
    rintro members rfl
    cases head
  rw [ofItems.eq_3 item rest noMapping, head, tail]
  rfl

mutual

/-- The documents that are values are the operands. -/
theorem ofJson_eq_ok_iff : (document : Json) → {value : Value} →
    (ofJson document = .ok value ↔ document.isOperand = true ∧ document.toOperand = value)
  | .null, _ | .mapping _, _ => by
    constructor
    · intro outcome
      cases outcome
    · rintro ⟨⟨⟩, _⟩
  | .bool _, _ | .float _, _ | .string _, _ => by
    rw [ofJson, Except.ok.injEq, Json.isOperand, Json.toOperand, and_iff_right rfl]
  | .integer number, _ => by
    rw [ofJson, ofInteger_eq_ok_iff, Json.isOperand, Json.toOperand, decide_eq_true_iff]
  | .list items, value => by
    rw [ofJson, map_eq_ok_iff, Json.isOperand, Json.toOperand]
    constructor
    · rintro ⟨values, read, rfl⟩
      obtain ⟨operands, rfl⟩ := (ofItems_eq_ok_iff items).mp read
      exact ⟨operands, rfl⟩
    · rintro ⟨operands, rfl⟩
      exact ⟨_, (ofItems_eq_ok_iff items).mpr ⟨operands, rfl⟩, rfl⟩

theorem ofItems_eq_ok_iff : (items : List Json) → {values : List Value} →
    (ofItems items = .ok values ↔ Json.areOperands items = true ∧ Json.toOperands items = values)
  | [], _ => by
    rw [ofItems, Except.ok.injEq, Json.areOperands, Json.toOperands, and_iff_right rfl]
  | item :: rest, values => by
    rw [ofItems_cons_eq_ok_iff, Json.areOperands, Json.toOperands, Bool.and_eq_true]
    constructor
    · rintro ⟨value, others, head, tail, rfl⟩
      obtain ⟨operand, rfl⟩ := (ofJson_eq_ok_iff item).mp head
      obtain ⟨operands, rfl⟩ := (ofItems_eq_ok_iff rest).mp tail
      exact ⟨⟨operand, operands⟩, rfl⟩
    · rintro ⟨⟨operand, operands⟩, rfl⟩
      exact ⟨_, _, (ofJson_eq_ok_iff item).mpr ⟨operand, rfl⟩,
        (ofItems_eq_ok_iff rest).mpr ⟨operands, rfl⟩, rfl⟩

end

theorem toInt_ofInt_of_lt {number : Integer} (fitting : number.value < 2 ^ 63) :
    (Int64.ofInt number.value).toInt = number.value :=
  Int64.toInt_ofInt_of_le number.atLeast fitting

theorem integerToJson_ofInt {number : Integer} (fitting : number.value < 2 ^ 63) :
    integerToJson (Int64.ofInt number.value) = .integer number := by
  have same := toInt_ofInt_of_lt fitting
  obtain ⟨value, atLeast, below⟩ := number
  unfold integerToJson
  congr

mutual

/-- The document form of an operand is the document that it was. -/
theorem toJson?_toOperand : (document : Json) → document.isOperand = true →
    toJson? document.toOperand = some document
  | .bool _, _ | .string _, _ => rfl
  | .integer number, operand => by
    rw [Json.isOperand, decide_eq_true_iff] at operand
    rw [Json.toOperand, toJson?, integerToJson_ofInt operand]
  | .float number, _ => dif_pos number.property
  | .list items, operands => by
    rw [Json.toOperand, toJson?, itemsToJson?_toOperands items operands]
    rfl
  | .null, refused | .mapping _, refused => by cases refused

theorem itemsToJson?_toOperands : (items : List Json) → Json.areOperands items = true →
    itemsToJson? (Json.toOperands items) = some items
  | [], _ => rfl
  | item :: rest, operands => by
    rw [Json.areOperands, Bool.and_eq_true] at operands
    rw [Json.toOperands, itemsToJson?, toJson?_toOperand item operands.1,
      itemsToJson?_toOperands rest operands.2]
    rfl

end

/-! ### Values that are operands -/

mutual

/-- Whether a value can be that of an operand: it is put together from flags, integers, finite
floats and strings. Dates, instants and formulas are made by a schema only. -/
def isPlain : Value → Bool
  | .float number => number.isFinite
  | .list items => arePlain items
  | .bool _ | .int _ | .str _ => true
  | .date _ | .datetime _ | .formula _ => false

def arePlain : List Value → Bool
  | [] => true
  | item :: rest => isPlain item && arePlain rest

end

mutual

theorem isPlain_toOperand : (document : Json) → document.toOperand.isPlain = true
  | .float number => number.property
  | .list items => arePlain_toOperands items
  | .null | .bool _ | .integer _ | .string _ | .mapping _ => rfl

theorem arePlain_toOperands : (items : List Json) → arePlain (Json.toOperands items) = true
  | [] => rfl
  | item :: rest => by
    rw [Json.toOperands, arePlain, isPlain_toOperand item, arePlain_toOperands rest, Bool.true_and]

end

mutual

/-- Every plain value is that of an operand. -/
theorem exists_operand : (value : Value) → value.isPlain = true →
    ∃ document : Json, document.isOperand = true ∧ document.toOperand = value
  | .bool flag, _ => ⟨.bool flag, rfl, rfl⟩
  | .str text, _ => ⟨.string text, rfl, rfl⟩
  | .float number, finite => ⟨.float ⟨number, finite⟩, rfl, rfl⟩
  | .int number, _ => by
    refine ⟨integerToJson number, decide_eq_true number.toInt_lt, ?_⟩
    exact congrArg Value.int (Int64.ofInt_toInt number)
  | .list items, plain => by
    obtain ⟨documents, operands, rfl⟩ := exists_operands items plain
    exact ⟨.list documents, operands, rfl⟩
  | .date _, refused | .datetime _, refused | .formula _, refused => by cases refused

theorem exists_operands : (items : List Value) → arePlain items = true →
    ∃ documents : List Json, Json.areOperands documents = true ∧ Json.toOperands documents = items
  | [], _ => ⟨[], rfl, rfl⟩
  | item :: rest, plain => by
    rw [arePlain, Bool.and_eq_true] at plain
    obtain ⟨document, operand, rfl⟩ := exists_operand item plain.1
    obtain ⟨documents, operands, rfl⟩ := exists_operands rest plain.2
    exact ⟨document :: documents, Bool.and_eq_true_iff.mpr ⟨operand, operands⟩, rfl⟩

end

/-! ### Operands of other operators -/

/-- Every operand has a text, and that is its pattern. -/
theorem coerce_str_toOperand {document : Json} (operand : document.isOperand = true) :
    coerce .str document.toOperand = .ok (.str document.pattern) := by
  unfold coerce
  cases document with
  | null | mapping _ => cases operand
  | string text => rfl
  | bool flag =>
    cases flag <;> rfl
  | integer number =>
    rw [Json.isOperand, decide_eq_true_iff] at operand
    rw [Json.toOperand, convert?, fromInt, toInt_ofInt_of_lt operand]
    rfl
  | float number =>
    rw [Json.toOperand, convert?, if_pos number.property]
    rfl
  | list items =>
    have written := toJson?_toOperand (.list items) operand
    rw [Json.toOperand] at written ⊢
    rw [convert?, fromList, written]
    rfl

theorem ofInt_eq_iff {number : Integer} (fitting : number.value < 2 ^ 63) (other : Int64) :
    Int64.ofInt number.value = other ↔ number.value = other.toInt := by
  rw [← Int64.toInt_inj, toInt_ofInt_of_lt fitting]

/-- An operand can be brought to a flag where it states a wish. -/
theorem convert?_bool_toOperand {document : Json} (operand : document.isOperand = true) :
    convert? .bool document.toOperand = document.wish?.map .bool := by
  cases document with
  | null | mapping _ => cases operand
  | bool flag | list items => rfl
  | float number =>
    rw [Json.toOperand, convert?, if_pos number.property]
    rfl
  | integer number =>
    rw [Json.isOperand, decide_eq_true_iff] at operand
    have zero := ofInt_eq_iff operand 0
    have one := ofInt_eq_iff operand 1
    rw [Int64.toInt_zero] at zero
    rw [show Int64.toInt 1 = 1 from rfl] at one
    rw [Json.toOperand, convert?, fromInt, Json.wish?]
    simp only [zero, one]
    split
    · rfl
    · split <;> rfl
  | string text =>
    rw [Json.toOperand, convert?, fromStr, readBool?, Json.wish?]
    rfl

end Value

end Sieve
