/-
Trees that cannot be rendered. The reader of filters builds none of them, so a
defect is never the fault of the one who wrote the filter; a tree made by hand may
have one.
-/

import Sieve.Filter.Tree
import Sieve.Value.Coercion
import Sieve.Value.Description

namespace Sieve.Filter

inductive Defect where
  | tooDeep (depth limit : Nat)
  | childless (connective : Connective)
  | listInRange (field : String)
  | unbindable (number : Double)
  | inconvertible (fault : Value.ConversionFault)
  | unexpected (kind : Value.Kind)
  | unwritable (operand : Value)

namespace Defect

/-- The code that programs can tell a defect by. -/
def code : String := "INTERNAL_ERROR"

/-- What is wrong with the tree. -/
def reason : Defect → String
  | .tooDeep depth limit => s!"tree depth {depth} exceeds limit of {limit}"
  | .childless connective => s!"'{connective.name}' node has no children"
  | .listInRange field => s!"range operator on '{field}' has a list operand"
  | .unbindable number =>
    "non-finite float " ++ String.ofList (number.text .plain) ++ " cannot be bound"
  | .inconvertible fault => fault.message
  | .unexpected kind => s!"unexpected {kind.name} from string coercion"
  | .unwritable operand =>
    "value " ++ String.ofList operand.description ++ " has no JSON representation"

def message (defect : Defect) : String :=
  s!"internal filter error: {defect.reason}"

end Defect

/-- Refuses a tree that is deeper than a limit. -/
def Tree.checkDepth (limit : Nat) (tree : Tree) : Except Defect Unit :=
  if tree.depth ≤ limit then .ok () else .error (.tooDeep tree.depth limit)

end Sieve.Filter
