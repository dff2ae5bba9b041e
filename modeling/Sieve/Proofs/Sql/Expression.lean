/-
How a database understands the text of a condition. The text is lexed, its lexemes are put
together to words, names and parameters, and these are read by precedence: predicates bind
tighter than `NOT`, `NOT` tighter than `AND`, and `AND` tighter than `OR`. A parameter that
is written as a question mark has the number of its place among them; one with a dollar
sign says its number itself.

What is read is an expression, and an expression has one of three truths on a row. Where a
value is missing, a comparison is neither true nor false, and so may be what is made of it.
-/

import Mathlib.Data.List.SplitBy
import Sieve.Proofs.Sql.Lexeme

namespace Sieve.Sql

/-! ### Truth -/

inductive Truth where
  | holds
  | fails
  | unknown
deriving DecidableEq, Repr

namespace Truth

def ofBool : Bool → Truth
  | true => .holds
  | false => .fails

def negate : Truth → Truth
  | .holds => .fails
  | .fails => .holds
  | .unknown => .unknown

def both : Truth → Truth → Truth
  | .fails, _ => .fails
  | _, .fails => .fails
  | .holds, .holds => .holds
  | _, _ => .unknown

def either : Truth → Truth → Truth
  | .holds, _ => .holds
  | _, .holds => .holds
  | .fails, .fails => .fails
  | _, _ => .unknown

/-- The first truth that is known. -/
def coalesce : Truth → Truth → Truth
  | .unknown, second => second
  | first, _ => first

end Truth

/-! ### Expressions -/

inductive Expression where
  | constant (truth : Bool)
  | relates (column : String) (relation : Relation) (slot : Nat)
  | among (column : String) (slots : List Nat)
  | matching (column : String) (slot : Nat)
  | missing (column : String)
  | not (inner : Expression)
  | and (left right : Expression)
  | or (left right : Expression)
  | coalesce (first second : Expression)
deriving DecidableEq, Repr

/-- What relates the values of rows to parameters. Nothing is assumed about it. -/
structure World (Datum : Type) where
  equal : Datum → Parameter → Bool
  greater : Datum → Parameter → Bool
  greaterOrEqual : Datum → Parameter → Bool
  less : Datum → Parameter → Bool
  lessOrEqual : Datum → Parameter → Bool
  matching : Datum → Parameter → Bool

namespace World

variable {Datum : Type}

def relates (world : World Datum) : Relation → Datum → Parameter → Bool
  | .equal => world.equal
  | .greater => world.greater
  | .greaterOrEqual => world.greaterOrEqual
  | .less => world.less
  | .lessOrEqual => world.lessOrEqual

end World

/-- The parameter with a number; they are numbered from one. -/
def parameterAt (parameters : List Parameter) : Nat → Option Parameter
  | 0 => none
  | number + 1 => parameters[number]?

/-- Whether a relation holds between a value and a parameter, if both are there. -/
def tested {Datum : Type} (relation : Datum → Parameter → Bool) :
    Option Datum → Option Parameter → Truth
  | some datum, some parameter => .ofBool (relation datum parameter)
  | _, _ => .unknown

/-- The truth of an expression on a row, which may have a value in each column. -/
def Expression.truth {Datum : Type} (world : World Datum) (row : String → Option Datum)
    (parameters : List Parameter) : Expression → Truth
  | .constant truth => .ofBool truth
  | .relates column relation slot =>
    tested (world.relates relation) (row column) (parameterAt parameters slot)
  | .among column slots =>
    slots.foldr
      (fun slot others =>
        (tested world.equal (row column) (parameterAt parameters slot)).either others)
      .fails
  | .matching column slot => tested world.matching (row column) (parameterAt parameters slot)
  | .missing column => .ofBool (row column).isNone
  | .not inner => (inner.truth world row parameters).negate
  | .and left right =>
    (left.truth world row parameters).both (right.truth world row parameters)
  | .or left right =>
    (left.truth world row parameters).either (right.truth world row parameters)
  | .coalesce first second =>
    (first.truth world row parameters).coalesce (second.truth world row parameters)

/-! ### Words -/

/-- The words, signs and marks that conditions are written with. -/
inductive Word where
  | and
  | or
  | not
  | within
  | is
  | null
  | coalesce
  | true
  | false
  | regexp
  | regexpMatches
  | matching
  | ignoringCase
  | zero
  | one
  | sign (relation : Relation)
  | unequal
  | similar
  | opening
  | closing
  | comma
  | apostrophe
deriving DecidableEq, Repr

namespace Word

def spelling : Word → String
  | .and => "AND"
  | .or => "OR"
  | .not => "NOT"
  | .within => "IN"
  | .is => "IS"
  | .null => "NULL"
  | .coalesce => "COALESCE"
  | .true => "TRUE"
  | .false => "FALSE"
  | .regexp => "REGEXP"
  | .regexpMatches => "regexp_matches"
  | .matching => "match"
  | .ignoringCase => "i"
  | .zero => "0"
  | .one => "1"
  | .sign relation => relation.sign
  | .unequal => "<>"
  | .similar => "~*"
  | .opening => "("
  | .closing => ")"
  | .comma => ","
  | .apostrophe => "'"

def all : List Word :=
  [.and, .or, .not, .within, .is, .null, .coalesce, .true, .false, .regexp, .regexpMatches,
    .matching, .ignoringCase, .zero, .one, .sign .equal, .sign .greater, .sign .greaterOrEqual,
    .sign .less, .sign .lessOrEqual, .unequal, .similar, .opening, .closing, .comma, .apostrophe]

end Word

inductive Token where
  | name (column : String)
  | placeholder (number : Option Nat)
  | word (word : Word)
  | unknown (spelling : String)
deriving DecidableEq, Repr

/-- The characters of words and of numbered parameters. -/
def isWordCharacter (character : Char) : Bool :=
  character.isAlphanum || character = '_' || character = '$'

/-- The characters of signs. -/
def isSignCharacter (character : Char) : Bool :=
  character = '<' || character = '>' || character = '=' || character = '~' || character = '*'

namespace Lexeme

/-- Whether two lexemes side by side belong to one token. -/
def joins : Lexeme → Lexeme → Bool
  | .symbol left, .symbol right =>
    (isWordCharacter left && isWordCharacter right) ||
      (isSignCharacter left && isSignCharacter right)
  | _, _ => false

def symbol? : Lexeme → Option Char
  | .name _ => none
  | .symbol character => some character

end Lexeme

namespace Token

/-- The token with a spelling; blanks are none. -/
def ofSpelling? : List Char → Option Token
  | [' '] => none
  | ['?'] => some (.placeholder none)
  | '$' :: digits => some (.placeholder (some (Decimal.value digits)))
  | spelling =>
    match Word.all.find? fun word => word.spelling = String.ofList spelling with
    | some found => some (.word found)
    | none => some (.unknown (String.ofList spelling))

/-- The token that a run of lexemes is. -/
def ofRun? : List Lexeme → Option Token
  | [.name contents] => some (.name (String.ofList contents))
  | run => ofSpelling? (run.filterMap Lexeme.symbol?)

/-- The tokens of a text that has been taken apart into lexemes. -/
def ofLexemes (lexemes : List Lexeme) : List Token :=
  (lexemes.splitBy Lexeme.joins).filterMap ofRun?

/-- Counts the placeholders, and gives those without a number the one of their place. -/
def numberFrom : Nat → List Token → List Token
  | _, [] => []
  | next, .placeholder number :: rest =>
    .placeholder (some (number.getD next)) :: numberFrom (next + 1) rest
  | next, token :: rest => token :: numberFrom next rest

end Token

/-! ### Reading by precedence -/

/-- Reads an expression from the front of some tokens, and leaves the others. -/
abbrev Reading := List Token → Option (Expression × List Token)

/-- Reads parameters with commas between, up to a closing bracket. -/
def readSlots : List Token → Option (List Nat × List Token)
  | .placeholder (some slot) :: .word .closing :: rest => some ([slot], rest)
  | .placeholder (some slot) :: .word .comma :: rest =>
    (readSlots rest).map fun (slots, rest) => (slot :: slots, rest)
  | _ => none

/-- Reads what is said about a column after its name. -/
def readAfterName (column : String) : Reading
  | .word (.sign relation) :: .placeholder (some slot) :: rest =>
    some (.relates column relation slot, rest)
  | .word .unequal :: .placeholder (some slot) :: rest =>
    some (.not (.relates column .equal slot), rest)
  | .word .within :: .word .opening :: rest =>
    (readSlots rest).map fun (slots, rest) => (.among column slots, rest)
  | .word .not :: .word .within :: .word .opening :: rest =>
    (readSlots rest).map fun (slots, rest) => (.not (.among column slots), rest)
  | .word .is :: .word .null :: rest => some (.missing column, rest)
  | .word .is :: .word .not :: .word .null :: rest => some (.not (.missing column), rest)
  | .word .regexp :: .placeholder (some slot) :: rest => some (.matching column slot, rest)
  | .word .similar :: .placeholder (some slot) :: rest => some (.matching column slot, rest)
  | _ => none

/-- Reads a predicate, with a reading of what stands in brackets. -/
def readPredicate (whole : Reading) : Reading
  | .name column :: rest => readAfterName column rest
  | .word .opening :: rest =>
    match whole rest with
    | some (inner, .word .closing :: rest) => some (inner, rest)
    | _ => none
  | .word .coalesce :: .word .opening :: rest =>
    match whole rest with
    | some (first, .word .comma :: rest) =>
      match whole rest with
      | some (second, .word .closing :: rest) => some (.coalesce first second, rest)
      | _ => none
    | _ => none
  | .word .regexpMatches :: .word .opening :: .name column :: .word .comma ::
      .placeholder (some slot) :: .word .comma :: .word .apostrophe :: .word .ignoringCase ::
      .word .apostrophe :: .word .closing :: rest => some (.matching column slot, rest)
  | .word .matching :: .word .opening :: .name column :: .word .comma ::
      .placeholder (some slot) :: .word .closing :: rest => some (.matching column slot, rest)
  | .word .one :: .word (.sign .equal) :: .word .one :: rest => some (.constant true, rest)
  | .word .one :: .word (.sign .equal) :: .word .zero :: rest => some (.constant false, rest)
  | .word .true :: rest => some (.constant true, rest)
  | .word .false :: rest => some (.constant false, rest)
  | _ => none

/-- Reads a predicate after any number of negations. -/
def readNegation (predicate : Reading) : Reading
  | .word .not :: rest =>
    (readNegation predicate rest).map fun (inner, rest) => (.not inner, rest)
  | tokens => predicate tokens

/-- Reads operands for as long as a word stands between them, but not more than some rounds. -/
def readChain (word : Word) (join : Expression → Expression → Expression) (operand : Reading) :
    Nat → Reading
  | 0, _ => none
  | rounds + 1, tokens =>
    match operand tokens with
    | none => none
    | some (first, rest) =>
      if rest.head? = some (.word word) then
        (readChain word join operand rounds rest.tail).map fun (others, rest) =>
          (join first others, rest)
      else some (first, rest)

def readConjunction (negation : Reading) : Reading := fun tokens =>
  readChain .and .and negation (tokens.length + 1) tokens

/-- Reads an expression with brackets in it up to some depth. -/
def readDisjunction : Nat → Reading
  | 0, _ => none
  | depth + 1, tokens =>
    readChain .or .or (readConjunction (readNegation (readPredicate (readDisjunction depth))))
      (tokens.length + 1) tokens

/-- Reads a whole list of tokens. Brackets cannot be deeper than there are tokens. -/
def readTokens (tokens : List Token) : Option Expression :=
  match readDisjunction (tokens.length + 1) tokens with
  | some (expression, []) => some expression
  | _ => none

/-- Reads the text of a condition. -/
def Expression.read (dialect : Dialect) (text : List Char) : Option Expression :=
  (scan dialect.quote .outside text).bind fun lexemes =>
    readTokens (Token.numberFrom 1 (Token.ofLexemes lexemes))

example : Expression.read .clickhouse
    "NOT COALESCE(\x60a\x60 = ? OR \x60b\x60 IN (?, ?) AND NOT match(\x60c\x60, ?), FALSE)".toList =
      some (.not (.coalesce
        (.or (.relates "a" .equal 1) (.and (.among "b" [2, 3]) (.not (.matching "c" 4))))
        (.constant false))) := by decide +kernel

end Sieve.Sql
