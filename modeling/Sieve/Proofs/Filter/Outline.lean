/-
What is left of a filter when everything is taken out that a client can fill in freely:
the names of its fields and its operands. The outline of a filter keeps its connectives and
its operators, whether an operand is a list and how long, and what is asked about presence.
Filters with one outline have the same shape.
-/

import Sieve.Filter.Tree

namespace Sieve

/-- An operand with its contents taken out: a list of that length, or any single value. -/
def Value.outline : Value → Value
  | .list items => .list (items.map fun _ => .bool false)
  | .bool _ | .int _ | .float _ | .str _ | .date _ | .datetime _ | .formula _ => .bool false

/-- The outline of an operand is a list where the operand is. -/
@[simp]
theorem Value.kind_outline_iff (operand : Value) :
    operand.outline.kind = .list ↔ operand.kind = .list := by
  cases operand <;> simp [outline, kind]

namespace Filter

/-- A condition with the contents of its operand taken out. -/
def Condition.outline : Condition → Condition
  | .compare comparison operand => .compare comparison operand.outline
  | .present wanted => .present wanted
  | .matching _ => .matching ""

namespace Tree

mutual

/-- A filter with the names of its fields and the contents of its operands taken out. -/
def outline : Tree → Tree
  | .leaf _ condition => .leaf "" condition.outline
  | .group connective children => .group connective (outlineEach children)

def outlineEach : List Tree → List Tree
  | [] => []
  | tree :: rest => outline tree :: outlineEach rest

end

mutual

/-- The leaves of a filter from left to right, each with its field and its condition. -/
def leaves : Tree → List (String × Condition)
  | .leaf field condition => [(field, condition)]
  | .group _ children => leavesOfEach children

def leavesOfEach : List Tree → List (String × Condition)
  | [] => []
  | tree :: rest => leaves tree ++ leavesOfEach rest

end

@[simp]
theorem outlineEach_eq_nil_iff {trees : List Tree} : outlineEach trees = [] ↔ trees = [] := by
  cases trees with
  | nil => exact ⟨fun _ => rfl, fun _ => rfl⟩
  | cons tree rest =>
    rw [outlineEach]
    constructor
    · intro empty
      cases empty
    · intro empty
      cases empty

end Tree

end Filter

end Sieve
