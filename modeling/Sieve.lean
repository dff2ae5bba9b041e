/-
A compiler for search filters: it reads filters that clients write as documents,
brings their operands to the kinds of a schema, and renders them for a search
engine or for a database.
-/

import Sieve.Files.Folder
import Sieve.Main
import Sieve.Proofs.Compiler.Acceptance
import Sieve.Proofs.Compiler.Operands
import Sieve.Proofs.Compiler.Outcome
import Sieve.Proofs.Elastic.Spelling
import Sieve.Proofs.Sql.Outline
import Sieve.Proofs.Sql.Expression
import Sieve.Proofs.Sql.Reading
import Sieve.Proofs.Files.Path
import Sieve.Proofs.Filter.Meaning
import Sieve.Proofs.Filter.Shorthand
import Sieve.Proofs.Filter.Integers
import Sieve.Proofs.Filter.Location
import Sieve.Proofs.Filter.Recast
import Sieve.Proofs.Filter.Registration
import Sieve.Proofs.Filter.Text
import Sieve.Proofs.Filter.Written
import Sieve.Proofs.Sql.Escapes
import Sieve.Proofs.Sql.Placeholders
import Sieve.Proofs.Sql.Meaning
import Sieve.Proofs.Sql.Range
import Sieve.Proofs.Settings.Layer
import Sieve.Proofs.Value.Formula
import Sieve.Proofs.Value.ListText
import Sieve.Proofs.Value.Numeric
import Sieve.Proofs.Value.Scalar
import Sieve.Proofs.Value.Stability
import Sieve.Proofs.Value.Temporal
