/-
Filters as Elasticsearch queries. A condition on a field is a query of its own. A
group is a mapping from the name of its connective to the queries of its children;
inside another group, and as a whole query, it is wrapped under `bool`. What has
no query of its own, an unequal or a missing value, is the negation of one that
has.
-/

import Sieve.Filter.Defect

namespace Sieve.Elastic

open Sieve.Filter (Condition Connective Defect Tree)

/-- The key of the children of a group. -/
def clauseKey : Connective → String
  | .and => "must"
  | .or => "should"
  | .nor => "must_not"

/-- A mapping of one key. -/
def single (key : String) (value : Json) : Json :=
  .mapping [(key, value)]

/-- An operand in a query. -/
def operandJson (operand : Value) : Except Defect Json :=
  match operand.toJson? with
  | some document => .ok document
  | none => .error (.unwritable operand)

/-- The query that a field equals an operand. -/
def term (field : String) (operand : Json) : Json :=
  single "term" (single field operand)

/-- The query that a field has a value. -/
def existence (field : String) : Json :=
  single "exists" (single "field" (.string field))

/-- The query of a condition on a field. -/
def leafQuery (field : String) : Condition → Except Defect Json
  | .compare .eq operand => (operandJson operand).map (term field)
  | .compare .ne operand =>
    (operandJson operand).map fun document =>
      single "bool" (single "must_not" (.list [term field document]))
  | .compare comparison operand =>
    (operandJson operand).map fun document =>
      single "range" (single field (single comparison.name document))
  | .present true => .ok (existence field)
  | .present false => .ok (single "bool" (single "must_not" (existence field)))
  | .matching pattern =>
    .ok (single "regexp" (single field
      (.mapping [("value", .string pattern), ("case_insensitive", .bool true)])))

/-- The query of a filter as a child or as a whole: a group is wrapped. -/
def wrap (tree : Tree) (query : Json) : Json :=
  if tree.isGroup then single "bool" query else query

mutual

/-- The query of a filter; of a group, the mapping of its children. -/
def render : Tree → Except Defect Json
  | .leaf field condition => leafQuery field condition
  | .group connective children =>
    if children.isEmpty then .error (.childless connective)
    else
      (renderChildren children).map fun queries => single (clauseKey connective) (.list queries)

/-- The queries of the children of a group, first to last. -/
def renderChildren : List Tree → Except Defect (List Json)
  | [] => .ok []
  | tree :: rest =>
    match render tree with
    | .error defect => .error defect
    | .ok query => (renderChildren rest).map (wrap tree query :: ·)

end

/-- Renders a filter that is no deeper than a limit; a group is not wrapped. -/
def compile (limit : Nat) (tree : Tree) : Except Defect Json :=
  match tree.checkDepth limit with
  | .error defect => .error defect
  | .ok () => render tree

/-- Renders a filter that is no deeper than a limit as a whole query. -/
def compileQuery (limit : Nat) (tree : Tree) : Except Defect Json :=
  (compile limit tree).map (wrap tree)

end Sieve.Elastic
