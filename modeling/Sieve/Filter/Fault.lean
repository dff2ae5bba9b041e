/-
What can be wrong with a filter that somebody wrote. A fault is a problem and the
place in the filter where it was met; every problem has a stable code that
programs can tell it by, and a message for people.
-/

import Sieve.Filter.Operator
import Sieve.Filter.Path
import Sieve.Json.Fault

namespace Sieve.Filter

/-- The most bytes that the text of a filter may have. -/
def longestText : Nat := 64 * 1024

/-- Why a document has not the shape of a filter. -/
inductive Malformation where
  | tooLong
  | noDocument (fault : Json.Fault)
  | noMapping
  | emptyMapping
  | noList (key : String)
  | elementIsNoMapping
  | operatorWithoutField (key : String)
  | logicalOnField (key : String)
  | rejected (rejection : Value.Rejection)
  | operand (misfit : Misfit)

def Malformation.message : Malformation → String
  | .tooLong => s!"filter JSON exceeds maximum size of {longestText} bytes"
  | .noDocument fault => s!"invalid JSON: {fault.message}"
  | .noMapping => "filter must be a mapping"
  | .emptyMapping => "empty mapping"
  | .noList key => s!"'{key}' expects a list of conditions"
  | .elementIsNoMapping => "each condition must be a mapping"
  | .operatorWithoutField key => s!"operator '{key}' must be applied to a field"
  | .logicalOnField key => s!"logical operator '{key}' cannot be applied to a field"
  | .rejected rejection => rejection.message
  | .operand misfit => misfit.message

inductive Problem where
  | unknownOperator (key : String)
  | childless (key : String)
  | tooDeep (limit : Nat)
  | malformed (malformation : Malformation)
  | conversion (fault : Value.ConversionFault)

/-- The code that programs can tell the problem by. -/
def Problem.code : Problem → String
  | .unknownOperator _ => "UNKNOWN_OPERATOR"
  | .childless _ => "EMPTY_LOGICAL_CHILDREN"
  | .tooDeep _ => "MAX_DEPTH_EXCEEDED"
  | .malformed _ => "MALFORMED_FILTER"
  | .conversion _ => "INVALID_FILTER_VALUE"

structure Fault where
  problem : Problem
  path : Path

namespace Fault

def code (fault : Fault) : String :=
  fault.problem.code

def message (fault : Fault) : String :=
  match fault.problem with
  | .unknownOperator key => s!"unknown operator '{key}' at {fault.path.text}"
  | .childless key => s!"'{key}' requires at least one condition at {fault.path.text}"
  | .tooDeep limit => s!"filter nesting exceeds maximum depth of {limit} at {fault.path.text}"
  | .malformed malformation => s!"malformed filter at {fault.path.text}: {malformation.message}"
  | .conversion conversion => s!"invalid value at {fault.path.text}: {conversion.message}"

/-- The fault of a document that has not the shape of a filter. -/
def malformed (path : Path) (malformation : Malformation) : Fault :=
  ⟨.malformed malformation, path⟩

end Fault

/-- The fault of an operand at a place. -/
def OperandFault.atPath (path : Path) : OperandFault → Fault
  | .conversion fault => ⟨.conversion fault, path⟩
  | .shape misfit => .malformed path (.operand misfit)

end Sieve.Filter
