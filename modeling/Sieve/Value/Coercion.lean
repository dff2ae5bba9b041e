/-
Bringing values to a kind. For each kind of source there is a table of the
targets that it can be brought to; a pair outside the tables, and a value for
which the entry has no exact answer, is a fault that names the two kinds.
Nothing is truncated and nothing is guessed: an integer becomes a float only
where the float is exact, and a float that is no number becomes nothing at all.

Texts are read leniently at their ends, where blanks do not count, and strictly
in between. A list in a text is read as a document.
-/

import Sieve.Json.Reader
import Sieve.Json.Writer
import Sieve.Text.Doubled
import Sieve.Value.Json

namespace Sieve.Value

open Sieve.Calendar (Date Instant)
open Sieve.Text (trim enclose)

/-- A value could not be brought to a kind. -/
structure ConversionFault where
  source : Kind
  target : Target
deriving DecidableEq, Repr

def ConversionFault.message (fault : ConversionFault) : String :=
  s!"cannot convert {fault.source.name} to {fault.target.name}"

/-! ### The tables, by source -/

def fromBool (flag : Bool) : Target → Option Value
  | .bool => some (.bool flag)
  | .int => some (.int (if flag then 1 else 0))
  | .float => some (.float (if flag then .one else .zero))
  | .str => some (.str (if flag then "true" else "false"))
  | _ => none

/-- The largest absolute value up to which every integer is a double. -/
def exactIntegers : Nat := 2 ^ 53

def fromInt (number : Int64) : Target → Option Value
  | .int => some (.int number)
  | .str => some (.str (String.ofList (Decimal.signed number.toInt)))
  | .float =>
    if number.toInt.natAbs ≤ exactIntegers then some (.float (.ofInt number.toInt)) else none
  | .bool =>
    if number = 0 then some (.bool false)
    else if number = 1 then some (.bool true)
    else none
  | .datetime => (Instant.of? number.toInt 0).map .datetime
  | .date => ((Instant.of? number.toInt 0).bind Instant.date?).map .date
  | .formula => some (.formula (String.ofList ('=' :: Decimal.signed number.toInt)))
  | _ => none

def fromFloat (number : Double) : Target → Option Value
  | .float => some (.float number)
  | .int => number.toInteger?.map fun whole => .int (Int64.ofInt whole)
  | .str => some (.str (String.ofList (number.text .plain)))
  | .datetime => (Instant.of? number.floor number.nanoseconds).map .datetime
  | .formula => some (.formula (String.ofList ('=' :: number.text .plain)))
  | _ => none

/-- A word for true or false, in either case of letters. -/
def readBool? (text : List Char) : Option Bool :=
  let word := text.map Char.toLower
  if word = ['t', 'r', 'u', 'e'] then some true
  else if word = ['f', 'a', 'l', 's', 'e'] then some false
  else none

/-- The list that a document text holds. -/
def readList? (text : String) : Option Value :=
  match Json.read text with
  | .ok (.list items) => (ofJson (.list items)).toOption
  | _ => none

/-- The formula of a string: a string literal, with the quotes inside doubled. -/
def literalFormula (text : String) : String :=
  String.ofList ('=' :: enclose '"' text.toList)

def fromStr (text : String) : Target → Option Value
  | .str => some (.str text)
  | .int =>
    (Decimal.readInteger (trim text.toList)).toOption.map fun number => .int (Int64.ofInt number)
  | .float => (Double.read? (trim text.toList)).map .float
  | .bool => (readBool? (trim text.toList)).map .bool
  | .date => (Date.read? (trim text.toList)).map .date
  | .datetime => (Instant.read? (trim text.toList)).map .datetime
  | .list => readList? text
  | .sequence => readList? text
  | .formula => some (.formula (literalFormula text))

def fromList (items : List Value) : Target → Option Value
  | .list => some (.list items)
  | .sequence => some (.list items)
  | .str => (toJson? (.list items)).map fun document => .str document.compact
  | _ => none

def fromDate (day : Date) : Target → Option Value
  | .date => some (.date day)
  | .str => some (.str (String.ofList day.text))
  | .datetime => day.midnight?.map .datetime
  | .int => day.midnight?.map fun instant => .int (Int64.ofInt instant.second)
  | .float => day.midnight?.map fun instant => .float (.ofInt instant.second)
  | _ => none

def fromInstant (instant : Instant) : Target → Option Value
  | .datetime => some (.datetime instant)
  | .int => some (.int (Int64.ofInt instant.second))
  | .str => some (.str (String.ofList instant.text))
  | .float => some (.float (.ofSeconds instant.second instant.nanosecond))
  | .date => instant.date?.map .date
  | _ => none

def fromFormula (text : String) : Target → Option Value
  | .formula => some (.formula text)
  | .str => some (.str text)
  | _ => none

/-! ### Coercion -/

/-- The value of the wanted kind, where there is one. -/
def convert? (target : Target) : Value → Option Value
  | .bool flag => fromBool flag target
  | .int number => fromInt number target
  | .float number => if number.isFinite then fromFloat number target else none
  | .str text => fromStr text target
  | .list items => fromList items target
  | .date day => fromDate day target
  | .datetime instant => fromInstant instant target
  | .formula text => fromFormula text target

/-- Brings a value to a kind. -/
def coerce (target : Target) (value : Value) : Except ConversionFault Value :=
  match convert? target value with
  | some converted => .ok converted
  | none => .error ⟨value.kind, target⟩

theorem coerce_eq_ok_iff {target : Target} {value result : Value} :
    coerce target value = .ok result ↔ convert? target value = some result := by
  unfold coerce
  cases convert? target value with
  | none => simp
  | some converted => simp

theorem fault_of_coerce {target : Target} {value : Value} {fault : ConversionFault}
    (refused : coerce target value = .error fault) : fault = ⟨value.kind, target⟩ := by
  unfold coerce at refused
  split at refused
  · cases refused
  · cases refused
    rfl

/-- Brings the values of a list to a kind, first to last. -/
def coerceAll (target : Target) : List Value → Except ConversionFault (List Value)
  | [] => .ok []
  | value :: rest =>
    match coerce target value with
    | .error fault => .error fault
    | .ok converted => (coerceAll target rest).map (converted :: ·)

/-- Brings a value to a kind, or each item of a list where the target is no list itself. -/
def coerceEach (target : Target) : Value → Except ConversionFault Value
  | .list items =>
    if target.isSequence then coerce target (.list items)
    else (coerceAll target items).map .list
  | value => coerce target value

end Sieve.Value
