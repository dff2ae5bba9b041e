/-
The condition of a query, as a tree of what it asks for, and its text. An unequal
value and a value outside a list also let a missing value pass; the negation of a
group takes what is neither true nor false for false.
-/

import Sieve.Filter.Tree
import Sieve.Sql.Dialect

namespace Sieve.Sql

open Sieve.Filter (Connective)

/-- The comparisons that are false where a value is missing. -/
inductive Relation where
  | equal
  | greater
  | greaterOrEqual
  | less
  | lessOrEqual
deriving DecidableEq, Repr

def Relation.sign : Relation → String
  | .equal => "="
  | .greater => ">"
  | .greaterOrEqual => ">="
  | .less => "<"
  | .lessOrEqual => "<="

inductive Clause where
  | constant (holds : Bool)
  | relates (column : String) (relation : Relation) (slot : Nat)
  | differs (column : String) (slot : Nat)
  | among (column : String) (slots : List Nat)
  | notAmong (column : String) (slots : List Nat)
  | present (column : String) (wanted : Bool)
  | matching (column : String) (slot : Nat)
  | joined (connective : Connective) (parts : List Clause)

/-! ### Text -/

/-- The references to several parameters, with commas between. -/
def slotPieces : List Nat → List Piece
  | [] => []
  | [slot] => [.slot slot]
  | slot :: rest => .slot slot :: .verbatim ", " :: slotPieces rest

/-- What stands before the parts of a joined clause. -/
def opening : Connective → String
  | .and => "("
  | .or => "("
  | .nor => "NOT COALESCE("

/-- What stands between the parts of a joined clause. -/
def separator : Connective → String
  | .and => " AND "
  | .or => " OR "
  | .nor => " OR "

/-- What stands after the parts of a joined clause. -/
def closing : Connective → String
  | .and => ")"
  | .or => ")"
  | .nor => ", FALSE)"

mutual

/-- The pieces of a clause. -/
def Clause.pieces (dialect : Dialect) : Clause → List Piece
  | .constant holds => [.verbatim (if holds then "1=1" else "1=0")]
  | .relates column relation slot =>
    [.column column, .verbatim (" " ++ relation.sign ++ " "), .slot slot]
  | .differs column slot =>
    [.verbatim "(", .column column, .verbatim " <> ", .slot slot, .verbatim " OR ",
      .column column, .verbatim " IS NULL)"]
  | .among column slots =>
    .column column :: .verbatim " IN (" :: slotPieces slots ++ [.verbatim ")"]
  | .notAmong column slots =>
    .verbatim "(" :: .column column :: .verbatim " NOT IN (" :: slotPieces slots ++
      [.verbatim ") OR ", .column column, .verbatim " IS NULL)"]
  | .present column wanted =>
    [.column column, .verbatim (if wanted then " IS NOT NULL" else " IS NULL")]
  | .matching column slot => dialect.matching column slot
  | .joined connective parts =>
    .verbatim (opening connective) :: joinedPieces dialect connective parts ++
      [.verbatim (closing connective)]

/-- The pieces of several clauses, with the separator of a connective between. -/
def joinedPieces (dialect : Dialect) (connective : Connective) : List Clause → List Piece
  | [] => []
  | [clause] => Clause.pieces dialect clause
  | clause :: rest =>
    Clause.pieces dialect clause ++
      .verbatim (separator connective) :: joinedPieces dialect connective rest

end

/-- The text of a clause. -/
def Clause.text (dialect : Dialect) (clause : Clause) : List Char :=
  textOf dialect (clause.pieces dialect)

end Sieve.Sql
