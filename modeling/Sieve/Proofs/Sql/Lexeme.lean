/-
How the text of a query falls into quoted names and other characters. A name begins at a
quote and ends at the first quote that is not doubled; a doubled quote inside stands for
one quote. The scan below reads a text in this way and fails on a name that never ends.

Read so, the text of settled pieces falls into the lexemes of the pieces one after another.
For a name to end where its piece ends, only the character after it matters, and that is
the first one of a text that starts with a mark: whatever the name itself begins or ends
with, all the quotes in it are doubled.
-/

import Sieve.Proofs.Decimal.Numeral
import Sieve.Proofs.Sql.Pieces

namespace Sieve.Sql

inductive Lexeme where
  | name (contents : List Char)
  | symbol (character : Char)
deriving DecidableEq, Repr

namespace Lexeme

/-- The contents of a quoted name. -/
def name? : Lexeme → Option (List Char)
  | .name contents => some contents
  | .symbol _ => none

/-- A lexeme with the contents of its name left out. -/
def erased : Lexeme → Option Char
  | .name _ => none
  | .symbol character => some character

end Lexeme

/-- Where the scan of a text stands: outside of names, inside of a name of which some contents
have been read, or after a quote that ends the name unless it is the first one of two. -/
inductive Standing where
  | outside
  | inside (read : List Char)
  | afterQuote (read : List Char)

/-- Takes a text apart into lexemes, unless a quoted name in it does not end. -/
def scan (quote : Char) : Standing → List Char → Option (List Lexeme)
  | .outside, [] => some []
  | .outside, character :: rest =>
    if character = quote then scan quote (.inside []) rest
    else (scan quote .outside rest).map (.symbol character :: ·)
  | .inside _, [] => none
  | .inside read, character :: rest =>
    if character = quote then scan quote (.afterQuote read) rest
    else scan quote (.inside (read ++ [character])) rest
  | .afterQuote read, [] => some [.name read]
  | .afterQuote read, character :: rest =>
    if character = quote then scan quote (.inside (read ++ [quote])) rest
    else
      (scan quote .outside rest).map fun lexemes => .name read :: .symbol character :: lexemes

/-! ### Scanning names -/

/-- The scan comes out of a name with its contents, however the name begins. -/
theorem scan_inside (quote : Char) (read contents rest : List Char) :
    scan quote (.inside read) (Text.double quote contents ++ quote :: rest) =
      scan quote (.afterQuote (read ++ contents)) rest := by
  induction contents generalizing read with
  | nil =>
    rw [Text.double, List.nil_append, scan, if_pos rfl, List.append_nil]
  | cons character contents inductionHypothesis =>
    have next := inductionHypothesis (read ++ [character])
    rw [List.append_assoc, List.singleton_append] at next
    rw [Text.double]
    by_cases same : character = quote
    · subst same
      rw [if_pos rfl, List.cons_append, List.cons_append, scan, if_pos rfl, scan, if_pos rfl]
      exact next
    · rw [if_neg same, List.cons_append, scan, if_neg same]
      exact next

/-- A quote ends a name where no second quote follows. -/
theorem scan_afterQuote {quote : Char} {rest : List Char} (read : List Char)
    (ended : rest.head? ≠ some quote) :
    scan quote (.afterQuote read) rest = (scan quote .outside rest).map (.name read :: ·) := by
  cases rest with
  | nil => rfl
  | cons character rest =>
    have other : character ≠ quote := fun same => ended (congrArg some same)
    rw [scan, if_neg other, scan, if_neg other, Option.map_map]
    rfl

theorem scan_enclose {quote : Char} {rest : List Char} (contents : List Char)
    (ended : rest.head? ≠ some quote) :
    scan quote .outside (Text.enclose quote contents ++ rest) =
      (scan quote .outside rest).map (.name contents :: ·) := by
  rw [Text.enclose, List.cons_append, List.cons_append, scan, if_pos rfl, List.append_assoc,
    List.singleton_append, scan_inside, List.nil_append]
  exact scan_afterQuote contents ended

/-- Without quotes, every character is a lexeme of its own. -/
theorem scan_plain {quote : Char} {text : List Char} (rest : List Char) (plain : quote ∉ text) :
    scan quote .outside (text ++ rest) =
      (scan quote .outside rest).map (text.map Lexeme.symbol ++ ·) := by
  induction text with
  | nil =>
    show scan quote .outside rest = (scan quote .outside rest).map id
    rw [Option.map_id, id]
  | cons character text inductionHypothesis =>
    rw [List.mem_cons, not_or] at plain
    rw [List.cons_append, scan, if_neg (Ne.symm plain.1), inductionHypothesis plain.2,
      Option.map_map]
    rfl

/-! ### Scanning pieces -/

/-- The lexemes of a piece. -/
def Piece.lexemes (dialect : Dialect) : Piece → List Lexeme
  | .verbatim text => text.toList.map .symbol
  | .column name => [.name name.toList]
  | .slot number => (dialect.placeholder number).map .symbol

theorem quote_not_mem_of_isPlain (dialect : Dialect) {text : String}
    (plain : (Piece.verbatim text).isPlain = true) : dialect.quote ∉ text.toList := by
  intro member
  have excluded := List.all_eq_true.mp plain _ member
  cases dialect <;> cases excluded

theorem quote_not_mem_placeholder (dialect : Dialect) (number : Nat) :
    dialect.quote ∉ dialect.placeholder number := by
  intro member
  cases dialect with
  | postgres =>
    rcases List.mem_cons.mp member with dollar | digit
    · cases dollar
    · cases Decimal.isDigit_of_mem_digits digit
  | _ => cases List.mem_singleton.mp member

/-- A text that starts with a mark does not start with a quote. -/
theorem head_textOf_ne_quote (dialect : Dialect) {piece : Piece} (rest : List Piece)
    (mark : piece.startsWithMark = true) :
    (textOf dialect (piece :: rest)).head? ≠ some dialect.quote := by
  cases piece with
  | column name => cases mark
  | slot number => cases mark
  | verbatim text =>
    intro quoted
    have first : text.toList.head?.any isMark = true := mark
    cases shape : text.toList with
    | nil =>
      rw [shape] at first
      cases first
    | cons character others =>
      have same : character = dialect.quote := by
        have whole : (text.toList ++ textOf dialect rest).head? = some dialect.quote := quoted
        rw [shape] at whole
        exact Option.some.inj whole
      rw [shape, same] at first
      cases dialect <;> cases first

/-- The text of settled pieces falls into the lexemes of its pieces. -/
theorem scan_textOf (dialect : Dialect) {pieces : List Piece}
    (settled : Piece.settled pieces = true) :
    scan dialect.quote .outside (textOf dialect pieces) =
      some (pieces.flatMap (Piece.lexemes dialect)) := by
  induction pieces with
  | nil => rfl
  | cons piece rest inductionHypothesis =>
    have tail := inductionHypothesis (Piece.settled_of_cons settled)
    show scan dialect.quote .outside (piece.text dialect ++ textOf dialect rest) = _
    cases piece with
    | verbatim text =>
      have plain := quote_not_mem_of_isPlain dialect (Piece.isPlain_of_cons settled)
      rw [Piece.text, scan_plain _ plain, tail]
      rfl
    | slot number =>
      rw [Piece.text, scan_plain _ (quote_not_mem_placeholder dialect number), tail]
      rfl
    | column name =>
      have ended : (textOf dialect rest).head? ≠ some dialect.quote := by
        cases rest with
        | nil => exact fun absent => by cases absent
        | cons next rest =>
          rcases Piece.mark_of_cons_cons settled with none | mark
          · cases none
          · exact head_textOf_ne_quote dialect rest mark
      rw [Piece.text, Dialect.quoted, scan_enclose _ ended, tail]
      rfl

end Sieve.Sql
