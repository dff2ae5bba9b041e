/-
Compiling filters. A text is read as a filter with the depth and the schema of the
settings, and rendered for their backend. A search request can be asked for where
the backend is the search engine; its page is the first and its size the one of
the settings, unless others are given.
-/

import Sieve.Elastic.Request
import Sieve.Settings.Basic
import Sieve.Sql.Statement

namespace Sieve.Compiler

open Sieve.Filter (Tree)

/-- What is asked for beside the query. -/
structure Options where
  request : Bool
  page : Option Nat
  limit : Option Nat

/-- Nothing beside the query. -/
def Options.plain : Options :=
  ⟨false, none, none⟩

inductive Fault where
  | filter (fault : Filter.Fault)
  | requestForDatabase (dialect : Sql.Dialect)
  | pagination (fault : Elastic.PaginationFault)
  | defect (reason : Filter.Defect)

def Fault.message : Fault → String
  | .filter fault => s!"Invalid filter: {fault.message}"
  | .requestForDatabase dialect =>
    s!"--request is only supported by the elasticsearch backend, not {dialect.name}"
  | .pagination fault => fault.message
  | .defect reason => reason.message

/-- The page where nothing else is said. -/
def firstPage : Nat := 1

/-- The reader of filters with some settings. -/
def reader (settings : Settings) : Filter.Reader :=
  ⟨.standard, settings.maxDepth, settings.schema⟩

/-- The search request for a filter. -/
def request (settings : Settings) (options : Options) (tree : Tree) : Except Fault Json :=
  match
    Elastic.Request.of (some tree) (options.page.getD firstPage)
      (options.limit.getD settings.defaultLimit) with
  | .error fault => .error (.pagination fault)
  | .ok request => (request.body settings.maxDepth).mapError .defect

/-- The document that a filter is rendered to. -/
def render (settings : Settings) (options : Options) (tree : Tree) : Except Fault Json :=
  match settings.backend with
  | .sql dialect =>
    if options.request then .error (.requestForDatabase dialect)
    else
      ((Sql.Statement.ofTree dialect settings.maxDepth tree).map
        (Sql.Statement.toJson dialect)).mapError .defect
  | .elasticsearch =>
    if options.request then request settings options tree
    else (Elastic.compile settings.maxDepth tree).mapError .defect

/-- Compiles the text of a filter. -/
def compile (settings : Settings) (options : Options) (text : String) : Except Fault Json :=
  match (reader settings).readText text with
  | .error fault => .error (.filter fault)
  | .ok tree => render settings options tree

end Sieve.Compiler
