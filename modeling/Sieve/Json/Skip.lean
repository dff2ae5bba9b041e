/-
Passing over a value that nobody asked for. A member with an unknown name is not
turned into a document: its text is only followed to its end. That takes no
number too large and no container too deep, and a comma before the closing
bracket is found out one step later than where documents are read.
-/

import Sieve.Json.Reader

namespace Sieve.Json

/-! ### Numbers and strings -/

/-- Follows an exponent after its mark. -/
def skipExponent (text : List Char) : Except Stop (List Char) :=
  let run := match text with
    | '+' :: rest => rest
    | '-' :: rest => rest
    | rest => rest
  if startsWithDigit run then .ok (run.dropWhile Char.isDigit)
  else stopBefore .invalidNumber run

/-- Follows what may come after the integer part of a number. -/
def skipAfterInteger (text : List Char) : Except Stop (List Char) :=
  match text with
  | '.' :: rest =>
    if startsWithDigit rest then
      let after := rest.dropWhile Char.isDigit
      if startsWithExponent after then skipExponent (after.drop 1) else .ok after
    else stopBefore .invalidNumber rest
  | rest => if startsWithExponent rest then skipExponent (rest.drop 1) else .ok rest

/-- Follows a number after its sign. -/
def skipNumber (text : List Char) : Except Stop (List Char) :=
  match text with
  | [] => stopAt .invalidNumber []
  | first :: rest =>
    if first = '0' then
      if startsWithDigit rest then stopBefore .invalidNumber rest else skipAfterInteger rest
    else if first.isDigit then skipAfterInteger (rest.dropWhile Char.isDigit)
    else stopBefore .invalidNumber (first :: rest)

/-- Follows a string after its opening quote. The units of escapes are followed without asking
what they stand for. -/
def skipString (state : EscapeState) : List Char → Except Stop (List Char)
  | [] => stopAt .endInString []
  | character :: rest =>
    match state with
    | .backslash =>
      if character = 'u' then skipString (.unit .none 0 0) rest
      else if (unescape? character).isSome then skipString .none rest
      else stopBefore .invalidEscape (character :: rest)
    | .unit _ count _ =>
      match hexValue? character with
      | .none => stopInUnit (4 - count) (character :: rest)
      | some _ => skipString (if count < 3 then .unit .none (count + 1) 0 else .none) rest
    | _ =>
      if character = '"' then .ok rest
      else if character = '\\' then skipString .backslash rest
      else if character.toNat < 0x20 then stopAt .controlCharacter (character :: rest)
      else skipString .none rest

/-! ### Containers -/

/-- A container that is open. -/
inductive Bracket where
  | list
  | mapping
deriving DecidableEq

/-- Where a value is being followed: at its start, after a value inside the innermost container,
or after the opening of that container. -/
inductive SkipStage where
  | value
  | afterValue
  | opened

/-- What comes after a comma, or in place of one after an opening: in a mapping a key. -/
def skipKey (innermost : Bracket) (text : List Char) : Except Stop (List Char) :=
  match innermost with
  | .list => .ok text
  | .mapping =>
    match skipSpaces text with
    | [] => stopAt .endInMapping []
    | '"' :: rest => (skipString .none rest).bind readColon
    | rest => stopBefore .keyIsNoString rest

/-- The character that closes a container. -/
def Bracket.closing : Bracket → Char
  | .list => ']'
  | .mapping => '\x7d'

/-- Follows a value to its end, with the containers that are open around it. -/
def skipNested : (rounds : Nat) → SkipStage → List Bracket → List Char → Except Stop (List Char)
  | 0, _, _, text => stopAt .endInValue text
  | _ + 1, .afterValue, [], text => .ok text
  | _ + 1, .opened, [], text => .ok text
  | rounds + 1, .value, brackets, text =>
    match skipSpaces text with
    | [] => stopAt .endInValue []
    | character :: rest =>
      if character = 'n' then
        (readWord ['u', 'l', 'l'] rest).bind (skipNested rounds .afterValue brackets)
      else if character = 't' then
        (readWord ['r', 'u', 'e'] rest).bind (skipNested rounds .afterValue brackets)
      else if character = 'f' then
        (readWord ['a', 'l', 's', 'e'] rest).bind (skipNested rounds .afterValue brackets)
      else if character = '-' then
        (skipNumber rest).bind (skipNested rounds .afterValue brackets)
      else if character.isDigit then
        (skipNumber (character :: rest)).bind (skipNested rounds .afterValue brackets)
      else if character = '"' then
        (skipString .none rest).bind (skipNested rounds .afterValue brackets)
      else if character = '[' then skipNested rounds .opened (.list :: brackets) rest
      else if character = '\x7b' then skipNested rounds .opened (.mapping :: brackets) rest
      else stopBefore .noValue (character :: rest)
  | rounds + 1, .afterValue, innermost :: outer, text =>
    match skipSpaces text with
    | [] => stopAt (match innermost with | .list => .endInList | .mapping => .endInMapping) []
    | character :: rest =>
      if character = ',' then
        (skipKey innermost rest).bind (skipNested rounds .value (innermost :: outer))
      else if character = innermost.closing then skipNested rounds .afterValue outer rest
      else
        stopBefore (match innermost with | .list => .noListEnd | .mapping => .noMappingEnd)
          (character :: rest)
  | rounds + 1, .opened, innermost :: outer, text =>
    match skipSpaces text with
    | [] => stopAt (match innermost with | .list => .endInList | .mapping => .endInMapping) []
    | character :: rest =>
      if character = innermost.closing then skipNested rounds .afterValue outer rest
      else
        (skipKey innermost (character :: rest)).bind
          (skipNested rounds .value (innermost :: outer))

/-- The text after a value. -/
def skipValue (text : List Char) : Except Stop (List Char) :=
  skipNested (2 * roundsFor text) .value [] text

end Sieve.Json
