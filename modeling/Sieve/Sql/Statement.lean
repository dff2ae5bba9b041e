/-
Filters as SQL. A filter becomes the condition of a query and the parameters that
the condition refers to. Leaves are met from left to right and each takes the next
numbers for its parameters, so the text mentions the numbers in their order.
-/

import Sieve.Filter.Defect
import Sieve.Sql.Clause
import Sieve.Sql.Parameter

namespace Sieve.Sql

open Sieve.Filter (Comparison Condition Connective Defect Tree)

structure Statement where
  clause : Clause
  parameters : Parameters

/-- The relation that a comparison asks for, but for being unequal. -/
def relation : Comparison → Relation
  | .eq => .equal
  | .ne => .equal
  | .gt => .greater
  | .gte => .greaterOrEqual
  | .lt => .less
  | .lte => .lessOrEqual

/-- The parameters of a condition. -/
def parametersOf (dialect : Dialect) (field : String) :
    Condition → Except Defect (List Parameter)
  | .compare comparison (.list items) =>
    if comparison.isRange then .error (.listInRange field) else Parameter.ofValues items
  | .compare _ operand => (Parameter.ofValue operand).map fun parameter => [parameter]
  | .present _ => .ok []
  | .matching pattern => .ok [.string (dialect.pattern pattern)]

/-- The clause that a field compares with a list, whose items have the given numbers. -/
def listClause (field : String) (comparison : Comparison) (slots : List Nat) : Clause :=
  match comparison with
  | .ne => if slots.isEmpty then .constant true else .notAmong field slots
  | _ => if slots.isEmpty then .constant false else .among field slots

/-- The clause of a condition, given the parameters before it. -/
def clauseOf (field : String) (bound : Parameters) : Condition → Clause
  | .compare comparison (.list items) =>
    listClause field comparison (bound.slots items.length)
  | .compare .ne _ => .differs field (bound.size + 1)
  | .compare comparison _ => .relates field (relation comparison) (bound.size + 1)
  | .present wanted => .present field wanted
  | .matching _ => .matching field (bound.size + 1)

mutual

/-- The clause of a filter and the parameters up to its end, from the parameters before it. -/
def lower (dialect : Dialect) (bound : Parameters) : Tree → Except Defect (Clause × Parameters)
  | .leaf field condition =>
    (parametersOf dialect field condition).map fun parameters =>
      (clauseOf field bound condition, (bound.pushAll parameters).2)
  | .group connective children =>
    if children.isEmpty then .error (.childless connective)
    else
      (lowerAll dialect bound children).map fun (parts, bound) =>
        (.joined connective parts, bound)

/-- The clauses of several filters, first to last. -/
def lowerAll (dialect : Dialect) (bound : Parameters) :
    List Tree → Except Defect (List Clause × Parameters)
  | [] => .ok ([], bound)
  | tree :: rest =>
    match lower dialect bound tree with
    | .error defect => .error defect
    | .ok (clause, bound) =>
      (lowerAll dialect bound rest).map fun (clauses, bound) => (clause :: clauses, bound)

end

namespace Statement

/-- The statement of a filter that is no deeper than a limit. -/
def ofTree (dialect : Dialect) (limit : Nat) (tree : Tree) : Except Defect Statement :=
  match tree.checkDepth limit with
  | .error defect => .error defect
  | .ok () =>
    (lower dialect .empty tree).map fun (clause, parameters) => ⟨clause, parameters⟩

/-- The text of the condition. -/
def whereText (dialect : Dialect) (statement : Statement) : String :=
  String.ofList (statement.clause.text dialect)

/-- The statement as a document: the text of the condition and the parameters. -/
def toJson (dialect : Dialect) (statement : Statement) : Json :=
  .mapping
    [("where", .string (statement.whereText dialect)), ("params", statement.parameters.toJson)]

end Statement

end Sieve.Sql
