/-
Texts in quotes, as messages show them. A quote, a backslash and the usual
controls are written with a backslash and a letter, other characters that cannot
be shown by their number in braces, and all else as it is.
-/

import Sieve.Text.Printable

namespace Sieve.Text

/-- The letter after the backslash, for the characters that have one. -/
def escapeLetter? (character : Char) : Option Char :=
  if character = '"' then some '"'
  else if character = '\\' then some '\\'
  else if character = '\n' then some 'n'
  else if character = '\r' then some 'r'
  else if character = '\t' then some 't'
  else if character.toNat = 0 then some '0'
  else none

/-- One character inside quotes. -/
def escaped (character : Char) : List Char :=
  match escapeLetter? character with
  | some letter => ['\\', letter]
  | none =>
    if isPrintable character then [character]
    else '\\' :: 'u' :: '\x7b' :: (Nat.toDigits 16 character.toNat ++ ['\x7d'])

/-- The text in quotes. -/
def quoted (text : String) : String :=
  String.ofList ('"' :: text.toList.flatMap escaped ++ ['"'])

end Sieve.Text
