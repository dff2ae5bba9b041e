/-
Operators. An operator has a marker, the key by which filters name it; it starts
with a sign that no field name starts with. An operator either joins a list of
filters or makes a condition out of an operand, and it belongs to the logical
category exactly when it joins.
-/

import Sieve.Filter.Tree
import Sieve.Value.Coercion

namespace Sieve.Filter

/-- The sign that tells an operator from a field name. -/
def sigil : Char := '@'

/-- Whether a key names an operator. -/
def isOperatorKey (key : String) : Bool :=
  decide (key.toList.head? = some sigil)

/-! ### Conditions from operands -/

/-- The ways to make a condition out of an operand. -/
inductive Operation where
  | compare (comparison : Comparison)
  | presence
  | matching
deriving DecidableEq, Repr

/-- What is wrong with the shape of an operand. -/
inductive Misfit where
  | listInRange
  | notBoolean
  | notPattern
deriving DecidableEq, Repr

def Misfit.message : Misfit → String
  | .listInRange => "range operators do not accept lists"
  | .notBoolean => "expected a boolean"
  | .notPattern => "expected a pattern string"

/-- Why an operand makes no condition. -/
inductive OperandFault where
  | conversion (fault : Value.ConversionFault)
  | shape (misfit : Misfit)
deriving DecidableEq, Repr

def OperandFault.message : OperandFault → String
  | .conversion fault => fault.message
  | .shape misfit => misfit.message

/-- The operand of a comparison: a list has no order. -/
def compareWith (comparison : Comparison) : Value → Except OperandFault Condition
  | .list items =>
    if comparison.isRange then .error (.shape .listInRange)
    else .ok (.compare comparison (.list items))
  | operand => .ok (.compare comparison operand)

/-- The condition that an operation makes out of an operand. -/
def Operation.condition : Operation → Value → Except OperandFault Condition
  | .compare comparison, operand => compareWith comparison operand
  | .presence, operand =>
    match Value.coerce .bool operand with
    | .ok (.bool wanted) => .ok (.present wanted)
    | .ok _ => .error (.shape .notBoolean)
    | .error fault => .error (.conversion fault)
  | .matching, operand =>
    match Value.coerce .str operand with
    | .ok (.str pattern) => .ok (.matching pattern)
    | .ok _ => .error (.shape .notPattern)
    | .error fault => .error (.conversion fault)

/-! ### Operators -/

/-- What an operator makes: a group of filters, or a condition on a field. Filters are read with
connectives and operations; the table of operators takes builders of any sort. -/
inductive Builder (γ : Type := Connective) (φ : Type := Operation) where
  | logical (connective : γ)
  | field (operation : φ)
deriving DecidableEq, Repr

variable {γ φ : Type}

def Builder.isLogical : Builder γ φ → Bool
  | .logical _ => true
  | .field _ => false

def Builder.description : Builder γ φ → String
  | .logical _ => "Logical(..)"
  | .field _ => "Field(..)"

/-- Whether a key can be the marker of an operator: the sign and something after it. -/
def isMarker (key : String) : Bool :=
  isOperatorKey key && decide (1 < key.toList.length)

structure Operator (γ : Type := Connective) (φ : Type := Operation) where
  marker : String
  category : Category
  builder : Builder γ φ
  marked : isMarker marker = true
  fitting : builder.isLogical = decide (category = .logical)
deriving DecidableEq

end Sieve.Filter
