/-
The text of documents. The compact form has no blanks at all; the indented form
puts each item and member on a line of its own, two spaces deeper than its
container. In strings only the quote, the backslash and the controls below the
space are escaped; every other character stands for itself.
-/

import Sieve.Double.Text
import Sieve.Json.Basic

namespace Sieve.Json

/-- The letter after the backslash, for the controls that have one. -/
def controlLetter? (character : Char) : Option Char :=
  if character.toNat = 0x08 then some 'b'
  else if character.toNat = 0x09 then some 't'
  else if character.toNat = 0x0A then some 'n'
  else if character.toNat = 0x0C then some 'f'
  else if character.toNat = 0x0D then some 'r'
  else none

/-- One character inside a string. -/
def escape (character : Char) : List Char :=
  if character = '"' then ['\\', '"']
  else if character = '\\' then ['\\', '\\']
  else if character.toNat < 0x20 then
    match controlLetter? character with
    | some letter => ['\\', letter]
    | none =>
      ['\\', 'u', '0', '0', Nat.digitChar (character.toNat / 16), Nat.digitChar (character.toNat % 16)]
  else [character]

/-- A string in its quotes. -/
def stringText (text : String) : List Char :=
  '"' :: text.toList.flatMap escape ++ ['"']

def literalText (word : String) : List Char :=
  word.toList

/-! ### The compact form -/

mutual

/-- The compact text of a document. -/
def compactText : Json → List Char
  | .null => literalText "null"
  | .bool flag => literalText (if flag then "true" else "false")
  | .integer number => Decimal.signed number.value
  | .float number => number.val.text .document
  | .string text => stringText text
  | .list items => '[' :: compactItems items ++ [']']
  | .mapping members => '\x7b' :: compactMembers members ++ ['\x7d']

def compactItems : List Json → List Char
  | [] => []
  | item :: rest => compactText item ++ compactMoreItems rest

def compactMoreItems : List Json → List Char
  | [] => []
  | item :: rest => ',' :: compactText item ++ compactMoreItems rest

def compactMembers : List (String × Json) → List Char
  | [] => []
  | (key, value) :: rest => stringText key ++ ':' :: compactText value ++ compactMoreMembers rest

def compactMoreMembers : List (String × Json) → List Char
  | [] => []
  | (key, value) :: rest =>
    ',' :: stringText key ++ ':' :: compactText value ++ compactMoreMembers rest

end

/-- The compact text of a document, as a string. -/
def compact (document : Json) : String :=
  String.ofList document.compactText

/-! ### The indented form -/

/-- A line break and the blanks of a depth. -/
def lineBreak (depth : Nat) : List Char :=
  '\n' :: List.replicate (2 * depth) ' '

mutual

/-- The indented text of a document at a depth. -/
def indentedText (depth : Nat) : Json → List Char
  | .list (item :: rest) =>
    '[' :: lineBreak (depth + 1) ++ indentedText (depth + 1) item ++
      indentedMoreItems (depth + 1) rest ++ lineBreak depth ++ [']']
  | .mapping ((key, value) :: rest) =>
    '\x7b' :: lineBreak (depth + 1) ++ stringText key ++ ':' :: ' ' ::
      indentedText (depth + 1) value ++ indentedMoreMembers (depth + 1) rest ++ lineBreak depth ++
      ['\x7d']
  | .list [] => ['[', ']']
  | .mapping [] => ['\x7b', '\x7d']
  | .null => literalText "null"
  | .bool flag => literalText (if flag then "true" else "false")
  | .integer number => Decimal.signed number.value
  | .float number => number.val.text .document
  | .string text => stringText text

def indentedMoreItems (depth : Nat) : List Json → List Char
  | [] => []
  | item :: rest =>
    ',' :: lineBreak depth ++ indentedText depth item ++ indentedMoreItems depth rest

def indentedMoreMembers (depth : Nat) : List (String × Json) → List Char
  | [] => []
  | (key, value) :: rest =>
    ',' :: lineBreak depth ++ stringText key ++ ':' :: ' ' :: indentedText depth value ++
      indentedMoreMembers depth rest

end

/-- The indented text of a document, as a string. -/
def indented (document : Json) : String :=
  String.ofList (document.indentedText 0)

end Sieve.Json
