/-
The backends that filters are compiled for: a search engine, and databases in four
dialects. Settings name a backend by its exact name; on the command line the case
of letters does not count, and two backends have a second name.
-/

import Sieve.Sql.Dialect

namespace Sieve

inductive Backend where
  | elasticsearch
  | sql (dialect : Sql.Dialect)
deriving DecidableEq, Repr

namespace Backend

def name : Backend → String
  | .elasticsearch => "elasticsearch"
  | .sql dialect => dialect.name

def all : List Backend :=
  [.elasticsearch, .sql .sqlite, .sql .postgres, .sql .duckdb, .sql .clickhouse]

/-- The backends by their names. -/
def named : List (String × Backend) :=
  all.map fun backend => (backend.name, backend)

def dialect? : Backend → Option Sql.Dialect
  | .elasticsearch => none
  | .sql dialect => some dialect

/-- A letter in lower case, as far as the names of backends can tell: the Kelvin sign is a
capital `k`. -/
def lower (character : Char) : Char :=
  if character = '\u212a' then 'k' else character.toLower

/-- The backend that a word on the command line names. -/
def ofWord? (word : String) : Option Backend :=
  let name := String.ofList (word.toList.map lower)
  if name = "es" then some .elasticsearch
  else if name = "postgresql" then some (.sql .postgres)
  else named.lookup name

end Backend

end Sieve
