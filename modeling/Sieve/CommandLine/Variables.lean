/-
Files of variables. Such a file has a variable in a line: a name, an equals sign
and a value, with `export` in front or without. A value may be quoted, and a
quoted value may go on in the next line; in double quotes and outside of quotes a
dollar sign puts in the value of another variable. What comes after a number sign
is no part of the line, if it stands at its start or after a blank.

A file is read up to the first line that makes no sense; the lines before it count.
A variable that is set already keeps its value.
-/

import Sieve.Text.Alphanumeric

namespace Sieve.CommandLine

open Sieve.Text (isAlphanumeric isBlank trimStart trimEnd)

/-! ### Lines -/

/-- Where in a line a character stands, as far as quotes and comments go. -/
inductive LineState where
  | plain
  | afterBlank
  | escape
  | single
  | singleEscape
  | double
  | doubleEscape
deriving DecidableEq, Repr

/-- The state after a character that stands in no quotes. -/
def LineState.open? (character : Char) : Option LineState :=
  if character = '\\' then some .escape
  else if character = '"' then some .double
  else if character = '\'' then some .single
  else none

/-- The state after a character. -/
def LineState.next (state : LineState) (character : Char) : LineState :=
  match state with
  | .plain =>
    if isBlank character && decide (character ≠ '\n') && decide (character ≠ '\r') then .afterBlank
    else (LineState.open? character).getD .plain
  | .afterBlank => (LineState.open? character).getD .plain
  | .escape => .plain
  | .single =>
    if character = '\\' then .singleEscape else if character = '\'' then .plain else .single
  | .singleEscape => .single
  | .double =>
    if character = '\\' then .doubleEscape else if character = '"' then .plain else .double
  | .doubleEscape => .double

/-- Whether the blanks before a text are followed by a number sign. -/
def startsWithComment (text : List Char) : Bool :=
  decide ((trimStart text).head? = some '#')

/-- The text without a line break at its end. -/
def withoutBreak (line : List Char) : List Char :=
  match line.reverse with
  | '\n' :: '\r' :: rest => rest.reverse
  | '\n' :: rest => rest.reverse
  | _ => line

/-- Cuts the next logical line off a text; the characters so far are kept in reverse. Gives
nothing for a line that is not finished at the end of the text, and an empty line for a comment. -/
def cutLine (state : LineState) (taken : List Char) : List Char → Option (List Char × List Char)
  | [] =>
    if startsWithComment taken.reverse then some ([], [])
    else if state = .plain then some (taken.reverse, [])
    else none
  | '\n' :: rest =>
    let line := ('\n' :: taken).reverse
    if startsWithComment line then some ([], rest)
    else if state.next '\n' = .plain then some (withoutBreak line, rest)
    else cutLine (state.next '\n') ('\n' :: taken) rest
  | character :: rest =>
    if character = '#' ∧ state = .afterBlank then
      some (if startsWithComment taken.reverse then [] else taken.reverse,
        (rest.dropWhile (· ≠ '\n')).drop 1)
    else cutLine (state.next character) (character :: taken) rest

/-! ### Values -/

/-- How far a value has been read. -/
inductive ValueState where
  | plain
  | ended
  | escape (quoted : Bool)
  | single
  | double
  | name (quoted braced : Bool) (letters : List Char)
deriving DecidableEq, Repr

/-- The character that an escape stands for. -/
def unescape? (character : Char) : Option Char :=
  if character = 'n' then some '\n'
  else if character ∈ ['\\', '\'', '"', '$', ' '] then some character
  else none

/-- The value of the variable with a name whose letters are kept in reverse. -/
def substitute (known : List (String × String)) (letters : List Char) : List Char :=
  ((known.lookup (String.ofList letters.reverse)).getD "").toList

/-- The state outside of names, in double quotes or in none. -/
def ValueState.outside (quoted : Bool) : ValueState :=
  if quoted then .double else .plain

/-- Reads a value. What has been written is kept in reverse. -/
def readValue (known : List (String × String)) :
    ValueState → (written : List Char) → List Char → Option (List Char)
  | .plain, written, [] => some written.reverse
  | .ended, written, [] => some written.reverse
  | .escape quoted, written, [] => if quoted then none else some written.reverse
  | .single, _, [] => none
  | .double, _, [] => none
  | .name quoted braced letters, written, [] =>
    if quoted || braced then none else some (written.reverse ++ substitute known letters)
  | .ended, written, character :: rest =>
    if character = ' ' ∨ character = '\t' then readValue known .ended written rest
    else if character = '#' then some written.reverse
    else none
  | .escape quoted, written, character :: rest =>
    match unescape? character with
    | some plain => readValue known (.outside quoted) (plain :: written) rest
    | none => none
  | .single, written, character :: rest =>
    if character = '\'' then readValue known .plain written rest
    else readValue known .single (character :: written) rest
  | .name quoted braced letters, written, character :: rest =>
    if isAlphanumeric character then
      readValue known (.name quoted braced (character :: letters)) written rest
    else if braced then
      if character = '\x7d' then
        readValue known (.outside quoted) ((substitute known letters).reverse ++ written) rest
      else readValue known (.name quoted braced (character :: letters)) written rest
    else if character = '\x7b' ∧ letters = [] then
      readValue known (.name quoted true []) written rest
    else
      let written := (substitute known letters).reverse ++ written
      if character = '$' then readValue known (.name quoted false []) written rest
      else readValue known (.outside quoted) (character :: written) rest
  | .double, written, character :: rest =>
    if character = '$' then readValue known (.name true false []) written rest
    else if character = '"' then readValue known .plain written rest
    else if character = '\\' then readValue known (.escape true) written rest
    else readValue known .double (character :: written) rest
  | .plain, written, character :: rest =>
    if character = '$' then readValue known (.name false false []) written rest
    else if character = '\'' then readValue known .single written rest
    else if character = '"' then readValue known .double written rest
    else if character = '\\' then readValue known (.escape false) written rest
    else if character = ' ' ∨ character = '\t' then readValue known .ended written rest
    else readValue known .plain (character :: written) rest

/-! ### Assignments -/

/-- The name of a variable at the start of a text, and the text after it. -/
def readName (text : List Char) : Option (List Char × List Char) :=
  match text with
  | [] => none
  | first :: rest =>
    if first.isAlpha || decide (first = '_') then
      let isPart (character : Char) := character.isAlphanum || character = '_' || character = '.'
      some (first :: rest.takeWhile isPart, rest.dropWhile isPart)
    else none

/-- The name and the text after the equals sign, with the word `export` in front or without. -/
def readAssigned (text : List Char) : Option (List Char × List Char) :=
  match readName text with
  | none => none
  | some (name, rest) =>
    match trimStart rest with
    | '=' :: rest => some (name, rest)
    | rest =>
      if name = "export".toList then
        match readName rest with
        | none => none
        | some (name, rest) =>
          match trimStart rest with
          | '=' :: rest => some (name, rest)
          | _ => none
      else none

/-- The outcome of a line: nothing, an assignment, or no sense. -/
inductive LineOutcome where
  | nothing
  | assignment (name value : String)
  | senseless

/-- Reads a line, given the variables that can be put in. -/
def readLine (known : List (String × String)) (line : List Char) : LineOutcome :=
  let line := trimStart (trimEnd line)
  if line.isEmpty || startsWithComment line then .nothing
  else
    match readAssigned line with
    | none => .senseless
    | some (name, rest) =>
      let rest := trimStart rest
      if rest.isEmpty || startsWithComment rest then .assignment (String.ofList name) ""
      else
        match readValue known .plain [] rest with
        | some value => .assignment (String.ofList name) (String.ofList value)
        | none => .senseless

/-- The variables after the lines of a text. The variables that were set before and in earlier
lines come first; each round takes a line. -/
def readLines : (rounds : Nat) → (set written : List (String × String)) → List Char →
    List (String × String)
  | 0, set, _, _ => set
  | _ + 1, set, _, [] => set
  | rounds + 1, set, written, text =>
    match cutLine .plain [] text with
    | none => set
    | some (line, rest) =>
      match readLine (set ++ written) line with
      | .senseless => set
      | .nothing => readLines rounds set written rest
      | .assignment name value =>
        readLines rounds (if (set.lookup name).isSome then set else set ++ [(name, value)])
          ((name, value) :: written) rest

/-- The variables of an environment with those of a file added. A mark of the byte order at the
start of the file is dropped. -/
def withFile (environment : List (String × String)) (file : String) : List (String × String) :=
  let text := match file.toList with
    | '\ufeff' :: rest => rest
    | text => text
  readLines (text.length + 1) environment [] text

end Sieve.CommandLine
