/-
Filters. A filter is a tree: a leaf puts one condition on one field, a group joins
filters with a connective. The reader of filters only builds groups that have a
child; trees that are made by hand may have others.
-/

import Sieve.Value.Basic

namespace Sieve.Filter

/-- All of the children hold, one of them at least, or none of them. -/
inductive Connective where
  | and
  | or
  | nor
deriving DecidableEq, Repr

def Connective.name : Connective → String
  | .and => "and"
  | .or => "or"
  | .nor => "nor"

inductive Comparison where
  | eq
  | ne
  | gt
  | gte
  | lt
  | lte
deriving DecidableEq, Repr

def Comparison.name : Comparison → String
  | .eq => "eq"
  | .ne => "ne"
  | .gt => "gt"
  | .gte => "gte"
  | .lt => "lt"
  | .lte => "lte"

/-- Whether a comparison asks for the order of its operands. -/
def Comparison.isRange : Comparison → Bool
  | .eq => false
  | .ne => false
  | .gt => true
  | .gte => true
  | .lt => true
  | .lte => true

/-- What is asked of one field: how its value compares with an operand, whether it has a value at
all, or whether its value matches a pattern. -/
inductive Condition where
  | compare (comparison : Comparison) (operand : Value)
  | present (wanted : Bool)
  | matching (pattern : String)

/-- The four families of operators. -/
inductive Category where
  | comparison
  | element
  | evaluation
  | logical
deriving DecidableEq, Repr

def Category.name : Category → String
  | .comparison => "comparison"
  | .element => "element"
  | .evaluation => "evaluation"
  | .logical => "logical"

def Condition.name : Condition → String
  | .compare comparison _ => comparison.name
  | .present _ => "exists"
  | .matching _ => "regex"

def Condition.category : Condition → Category
  | .compare _ _ => .comparison
  | .present _ => .element
  | .matching _ => .evaluation

inductive Tree where
  | group (connective : Connective) (children : List Tree)
  | leaf (field : String) (condition : Condition)

namespace Tree

def isGroup : Tree → Bool
  | .group _ _ => true
  | .leaf _ _ => false

mutual

/-- The number of nodes on the longest way from the root to a leaf. -/
def depth : Tree → Nat
  | .group _ children => 1 + greatestDepth children
  | .leaf _ _ => 1

def greatestDepth : List Tree → Nat
  | [] => 0
  | tree :: rest => max (depth tree) (greatestDepth rest)

end

/-- Several filters as one: a single filter is itself, any other number is joined by `and`. -/
def conjunction : List Tree → Tree
  | [tree] => tree
  | trees => .group .and trees

end Tree

end Sieve.Filter
