/-
Places in a filter. A path is the list of steps from the root: a step is the name
of a field, or a logical operator with the position of a condition in its list,
such as `@or[1]`.
-/

namespace Sieve.Filter

structure Path where
  segments : List String
deriving DecidableEq, Repr

namespace Path

def root : Path :=
  ⟨[]⟩

/-- The place one step further. -/
def child (path : Path) (segment : String) : Path :=
  ⟨path.segments ++ [segment]⟩

def isRoot (path : Path) : Bool :=
  path.segments.isEmpty

/-- The path with steps separated by points; empty steps are dropped. -/
def ofText (text : String) : Path :=
  ⟨(text.splitOn ".").filter fun segment => !segment.isEmpty⟩

def text (path : Path) : String :=
  if path.isRoot then "<root>" else ".".intercalate path.segments

/-- The step to a condition in the list of a logical operator. -/
def element (key : String) (index : Nat) : String :=
  s!"{key}[{index}]"

end Path

end Sieve.Filter
