/-
Reading documents. A reader takes the text from where it stands and gives back a
document and the text after it; `read` wants nothing but blanks to be left.
Containers nest at most 127 deep, which `room` counts down. A key that is
repeated in a mapping keeps its first position and takes the last value.

The loops over items and members are bounded by the text: every round takes a
character at least, so twice the length of the text is more rounds than any
reading needs.
-/

import Sieve.Json.Lexeme
import Sieve.Table

namespace Sieve.Json

/-- One more than the number of containers that may be open at once. -/
def nestingRoom : Nat := 128

/-- The rounds that are enough for a text. -/
def roundsFor (text : List Char) : Nat :=
  2 * text.length + 2

/-- A number as a document. -/
def ofNumber : Number → Json
  | .integer number => .integer number
  | .float number => .float number

/-- The text after the colon between a key and its value. -/
def readColon (text : List Char) : Except Stop (List Char) :=
  match skipSpaces text with
  | [] => stopAt .endInMapping []
  | ':' :: rest => .ok rest
  | rest => stopBefore .noColon rest

/-- What follows an item, or the opening of a list: the end, or the text of the next item. -/
def nextItem (first : Bool) (text : List Char) : Except Stop (Bool × List Char) :=
  match skipSpaces text with
  | [] => stopAt .endInList []
  | ']' :: rest => .ok (false, rest)
  | ',' :: rest =>
    if first then .ok (true, ',' :: rest)
    else
      match skipSpaces rest with
      | [] => stopAt .endInValue []
      | ']' :: rest => stopBefore .trailingComma (']' :: rest)
      | rest => .ok (true, rest)
  | rest => if first then .ok (true, rest) else stopBefore .noListEnd rest

/-- What follows a member, or the opening of a mapping: the end, or the text of the next key
after its opening quote. -/
def nextKey (first : Bool) (text : List Char) : Except Stop (Bool × List Char) :=
  match skipSpaces text with
  | [] => stopAt .endInMapping []
  | '\x7d' :: rest => .ok (false, rest)
  | ',' :: rest =>
    if first then stopBefore .keyIsNoString (',' :: rest)
    else
      match skipSpaces rest with
      | [] => stopAt .endInValue []
      | '"' :: rest => .ok (true, rest)
      | '\x7d' :: rest => stopBefore .trailingComma ('\x7d' :: rest)
      | rest => stopBefore .keyIsNoString rest
  | '"' :: rest => if first then .ok (true, rest) else stopBefore .noMappingEnd ('"' :: rest)
  | rest => if first then stopBefore .keyIsNoString rest else stopBefore .noMappingEnd rest

mutual

/-- Reads a document of any kind. -/
def readValue : (rounds room : Nat) → List Char → Reading Json
  | 0, _, text => stopAt .endInValue text
  | rounds + 1, room, text =>
    match skipSpaces text with
    | [] => stopAt .endInValue []
    | character :: rest =>
      if character = 'n' then (readWord ['u', 'l', 'l'] rest).map fun rest => (.null, rest)
      else if character = 't' then
        (readWord ['r', 'u', 'e'] rest).map fun rest => (.bool true, rest)
      else if character = 'f' then
        (readWord ['a', 'l', 's', 'e'] rest).map fun rest => (.bool false, rest)
      else if character = '-' then
        (readNumber true rest).map fun (number, rest) => (ofNumber number, rest)
      else if character.isDigit then
        (readNumber false (character :: rest)).map fun (number, rest) => (ofNumber number, rest)
      else if character = '"' then
        (readString .none [] rest).map fun (text, rest) => (.string text, rest)
      else if character = '[' then
        if room ≤ 1 then stopBefore .tooDeep (character :: rest)
        else
          (readItems rounds (room - 1) true [] rest).map fun (items, rest) => (.list items, rest)
      else if character = '\x7b' then
        if room ≤ 1 then stopBefore .tooDeep (character :: rest)
        else
          (readMembers rounds (room - 1) true [] rest).map fun (members, rest) =>
            (.mapping members, rest)
      else stopBefore .noValue (character :: rest)

/-- Reads the items of a list up to its end. The items so far are kept in reverse. -/
def readItems : (rounds room : Nat) → (first : Bool) → (items : List Json) → List Char →
    Reading (List Json)
  | 0, _, _, _, text => stopAt .endInList text
  | rounds + 1, room, first, items, text =>
    match nextItem first text with
    | .error stop => .error stop
    | .ok (false, rest) => .ok (items.reverse, rest)
    | .ok (true, rest) =>
      match readValue rounds room rest with
      | .error stop => .error stop
      | .ok (item, rest) => readItems rounds room false (item :: items) rest

/-- Reads the members of a mapping up to its end. -/
def readMembers : (rounds room : Nat) → (first : Bool) → (members : List (String × Json)) →
    List Char → Reading (List (String × Json))
  | 0, _, _, _, text => stopAt .endInMapping text
  | rounds + 1, room, first, members, text =>
    match nextKey first text with
    | .error stop => .error stop
    | .ok (false, rest) => .ok (members, rest)
    | .ok (true, rest) =>
      match readString .none [] rest with
      | .error stop => .error stop
      | .ok (key, rest) =>
        match readColon rest with
        | .error stop => .error stop
        | .ok rest =>
          match readValue rounds room rest with
          | .error stop => .error stop
          | .ok (value, rest) => readMembers rounds room false (Table.insert key value members) rest

end

/-- Wants nothing but blanks to be left. -/
def finish {α : Type} : Reading α → Except Stop α
  | .error stop => .error stop
  | .ok (value, rest) =>
    match skipSpaces rest with
    | [] => .ok value
    | rest => stopBefore .trailingCharacters rest

/-- The outcome of reading a text, with the place of a fault in it. -/
def located {α : Type} (text : List Char) (outcome : Except Stop α) : Except Fault α :=
  outcome.mapError fun stop => stop.inText text

/-- Reads a text that is one document. -/
def read (text : String) : Except Fault Json :=
  let characters := text.toList
  located characters (finish (readValue (roundsFor characters) nestingRoom characters))

end Sieve.Json
