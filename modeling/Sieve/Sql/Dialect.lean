/-
The dialects of SQL. They differ in how a name is quoted, how a parameter is
referred to and how a pattern is matched. Matching never minds the case of letters:
where a dialect has no way to say so, the pattern itself says it.

The text of a query is kept in pieces, so that what comes from a filter, the names
of columns and the numbers of parameters, stays apart from what does not.
-/

import Sieve.Decimal.Numeral
import Sieve.Text.Doubled

namespace Sieve.Sql

inductive Dialect where
  | sqlite
  | postgres
  | duckdb
  | clickhouse
deriving DecidableEq, Repr

/-- A piece of the text of a query. -/
inductive Piece where
  | verbatim (text : String)
  | column (name : String)
  | slot (number : Nat)
deriving DecidableEq, Repr

namespace Dialect

def name : Dialect → String
  | .sqlite => "sqlite"
  | .postgres => "postgres"
  | .duckdb => "duckdb"
  | .clickhouse => "clickhouse"

/-- The character around the name of a column. -/
def quote : Dialect → Char
  | .sqlite => '"'
  | .postgres => '"'
  | .duckdb => '"'
  | .clickhouse => '\x60'

/-- The name of a column in quotes, with the quotes inside doubled. A name with points is one
name. -/
def quoted (dialect : Dialect) (name : String) : List Char :=
  Text.enclose dialect.quote name.toList

/-- How the query refers to a parameter. -/
def placeholder (dialect : Dialect) (number : Nat) : List Char :=
  match dialect with
  | .postgres => '$' :: Decimal.digits number
  | _ => ['?']

/-- The condition that a column matches a pattern. -/
def matching (dialect : Dialect) (column : String) (slot : Nat) : List Piece :=
  match dialect with
  | .sqlite => [.column column, .verbatim " REGEXP ", .slot slot]
  | .postgres => [.column column, .verbatim " ~* ", .slot slot]
  | .duckdb => [.verbatim "regexp_matches(", .column column, .verbatim ", ", .slot slot,
      .verbatim ", 'i')"]
  | .clickhouse => [.verbatim "match(", .column column, .verbatim ", ", .slot slot, .verbatim ")"]

/-- The pattern as it is bound. -/
def pattern (dialect : Dialect) (pattern : String) : String :=
  match dialect with
  | .sqlite => "(?i)" ++ pattern
  | .postgres => pattern
  | .duckdb => pattern
  | .clickhouse => "(?i)" ++ pattern

end Dialect

/-- The text of a piece. -/
def Piece.text (dialect : Dialect) : Piece → List Char
  | .verbatim text => text.toList
  | .column name => dialect.quoted name
  | .slot number => dialect.placeholder number

/-- The text of a query. -/
def textOf (dialect : Dialect) (pieces : List Piece) : List Char :=
  pieces.flatMap (Piece.text dialect)

end Sieve.Sql
