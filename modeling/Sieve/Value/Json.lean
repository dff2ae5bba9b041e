/-
Values in documents. A document is a value when it holds no null, no mapping and
no integer beyond the signed range, at any depth. In the other direction every
value has a document form except those that hold a float which is no number;
dates and instants are written as their text.
-/

import Sieve.Json.Basic
import Sieve.Value.Basic

namespace Sieve.Value

/-- Why a document is no value. -/
inductive Rejection where
  | null
  | mapping
  | mappingInList
  | outOfRange
deriving DecidableEq, Repr

def Rejection.message : Rejection → String
  | .null => "null is not a valid filter value"
  | .mapping => "a mapping is not a valid filter value"
  | .mappingInList => "lists cannot contain mappings"
  | .outOfRange => "number is out of range"

/-- The integer as a value, where it fits the signed range. -/
def ofInteger (number : Json.Integer) : Except Rejection Value :=
  if number.value < 2 ^ 63 then .ok (.int (Int64.ofInt number.value)) else .error .outOfRange

mutual

/-- The value that a document is. -/
def ofJson : Json → Except Rejection Value
  | .null => .error .null
  | .bool flag => .ok (.bool flag)
  | .integer number => ofInteger number
  | .float number => .ok (.float number.val)
  | .string text => .ok (.str text)
  | .list items => (ofItems items).map .list
  | .mapping _ => .error .mapping

/-- The values that the items of a list are; the first that is none is the one reported. -/
def ofItems : List Json → Except Rejection (List Value)
  | [] => .ok []
  | .mapping _ :: _ => .error .mappingInList
  | item :: rest =>
    match ofJson item with
    | .error rejection => .error rejection
    | .ok value => (ofItems rest).map (value :: ·)

end

/-- A double as a document number, where it is a number. -/
def numberToJson? (number : Double) : Option Json :=
  if finite : number.isFinite = true then some (.float ⟨number, finite⟩) else none

/-- An integer of 64 bits as a document number. -/
def integerToJson (number : Int64) : Json :=
  .integer ⟨number.toInt, number.le_toInt,
    Int.lt_trans number.toInt_lt (by decide)⟩

mutual

/-- The document form of a value. -/
def toJson? : Value → Option Json
  | .bool flag => some (.bool flag)
  | .int number => some (integerToJson number)
  | .float number => numberToJson? number
  | .str text => some (.string text)
  | .list items => (itemsToJson? items).map .list
  | .date day => some (.string (String.ofList day.text))
  | .datetime instant => some (.string (String.ofList instant.text))
  | .formula text => some (.string text)

/-- The document forms of the items of a list, if all have one. -/
def itemsToJson? : List Value → Option (List Json)
  | [] => some []
  | item :: rest =>
    match toJson? item with
    | none => none
    | some document => (itemsToJson? rest).map (document :: ·)

end

end Sieve.Value
