/-
The values that are bound to a query. Nothing that a filter says about its operands
is written into the text of a query: each operand becomes a parameter, which the
text refers to by its number. Parameters are numbered from one in the order in
which they were added.
-/

import Sieve.Filter.Defect

namespace Sieve.Sql

open Sieve.Filter (Defect)

inductive Parameter where
  | string (text : String)
  | integer (number : Int64)
  | float (number : Double)
  | bool (flag : Bool)

namespace Parameter

/-- The document form of a parameter. A double that is no number has none and is left out. -/
def toJson : Parameter → Json
  | .string text => .string text
  | .integer number => Value.integerToJson number
  | .float number => (Value.numberToJson? number).getD .null
  | .bool flag => .bool flag

/-- The text of a value that is bound as text. -/
def ofText (operand : Value) : Except Defect Parameter :=
  match Value.coerce .str operand with
  | .ok (.str text) => .ok (.string text)
  | .ok other => .error (.unexpected other.kind)
  | .error fault => .error (.inconvertible fault)

/-- An operand as a parameter: dates, instants and lists are bound as their text. -/
def ofValue : Value → Except Defect Parameter
  | .bool flag => .ok (.bool flag)
  | .int number => .ok (.integer number)
  | .float number => if number.isFinite then .ok (.float number) else .error (.unbindable number)
  | .str text => .ok (.string text)
  | .formula text => .ok (.string text)
  | operand => ofText operand

/-- The items of a list as parameters, first to last. -/
def ofValues : List Value → Except Defect (List Parameter)
  | [] => .ok []
  | operand :: rest =>
    match ofValue operand with
    | .error defect => .error defect
    | .ok parameter => (ofValues rest).map (parameter :: ·)

end Parameter

/-- The parameters of a query, in the order of their numbers. -/
structure Parameters where
  values : List Parameter

namespace Parameters

def empty : Parameters :=
  ⟨[]⟩

def size (parameters : Parameters) : Nat :=
  parameters.values.length

def isEmpty (parameters : Parameters) : Bool :=
  parameters.values.isEmpty

/-- The parameters with more of them at the end. -/
def append (parameters : Parameters) (more : List Parameter) : Parameters :=
  ⟨parameters.values ++ more⟩

/-- Adds a parameter, and gives its number. -/
def push (parameters : Parameters) (parameter : Parameter) : Nat × Parameters :=
  (parameters.size + 1, parameters.append [parameter])

/-- Adds parameters one after another, and gives their numbers. -/
def pushAll (parameters : Parameters) : List Parameter → List Nat × Parameters
  | [] => ([], parameters)
  | parameter :: rest =>
    let (slot, parameters) := parameters.push parameter
    let (slots, parameters) := parameters.pushAll rest
    (slot :: slots, parameters)

/-- The numbers that the next few parameters will have. -/
def slots (parameters : Parameters) (count : Nat) : List Nat :=
  List.range' (parameters.size + 1) count

/-- Parameters that are added one after another stand at the end, under the next few numbers. -/
@[simp]
theorem pushAll_eq (parameters : Parameters) (more : List Parameter) :
    parameters.pushAll more = (parameters.slots more.length, parameters.append more) := by
  induction more generalizing parameters with
  | nil => simp [pushAll, slots, append]
  | cons parameter rest inductionHypothesis =>
    simp [pushAll, push, inductionHypothesis, slots, append, size, List.range'_succ]

def toJson (parameters : Parameters) : Json :=
  .list (parameters.values.map Parameter.toJson)

end Parameters

end Sieve.Sql
