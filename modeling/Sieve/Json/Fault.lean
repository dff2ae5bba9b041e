/-
Why a text is not the document that was asked for, and where. A fault has a
cause and a place; the place is a line, counted from one, and a column, which is
the number of bytes of that line that were taken in. An error about a character
that was only looked at counts its first byte, an error at the end of the text
counts nothing more.
-/

import Sieve.Double.Text
import Sieve.Text.Quoted

namespace Sieve.Json

/-- What was found where something else was wanted. -/
inductive Found where
  | null
  | bool (flag : Bool)
  | integer (number : Int)
  | float (number : Double)
  | string (text : String)
  | list
  | mapping

def Found.description : Found → String
  | .null => "null"
  | .bool flag => s!"boolean `{flag}`"
  | .integer number => s!"integer `{number}`"
  | .float number => "floating point `" ++ String.ofList (number.text .document) ++ "`"
  | .string text => "string " ++ Text.quoted text
  | .list => "sequence"
  | .mapping => "map"

inductive Cause where
  | endInValue
  | endInList
  | endInMapping
  | endInString
  | unknownWord
  | noValue
  | noColon
  | noListEnd
  | noMappingEnd
  | keyIsNoString
  | trailingComma
  | trailingCharacters
  | invalidNumber
  | numberOutOfRange
  | invalidEscape
  | loneSurrogate
  | unfinishedPair
  | controlCharacter
  | tooDeep
  | wrongType (found : Found) (expected : String)
  | wrongInteger (number : Int) (expected : String)
  | wrongLength (count : Nat) (expected : String)
  | unknownName (name : String) (known : List String)
  | repeatedField (name : String)

/-- Names in a list, each between two grave accents. -/
def enumerateNames (names : List String) : String :=
  ", ".intercalate (names.map fun name => "`" ++ name ++ "`")

def Cause.message : Cause → String
  | .endInValue => "EOF while parsing a value"
  | .endInList => "EOF while parsing a list"
  | .endInMapping => "EOF while parsing an object"
  | .endInString => "EOF while parsing a string"
  | .unknownWord => "expected ident"
  | .noValue => "expected value"
  | .noColon => "expected `:`"
  | .noListEnd => "expected `,` or `]`"
  | .noMappingEnd => "expected `,` or `\x7d`"
  | .keyIsNoString => "key must be a string"
  | .trailingComma => "trailing comma"
  | .trailingCharacters => "trailing characters"
  | .invalidNumber => "invalid number"
  | .numberOutOfRange => "number out of range"
  | .invalidEscape => "invalid escape"
  | .loneSurrogate => "lone leading surrogate in hex escape"
  | .unfinishedPair => "unexpected end of hex escape"
  | .controlCharacter => "control character (\\u0000-\\u001F) found while parsing a string"
  | .tooDeep => "recursion limit exceeded"
  | .wrongType found expected => s!"invalid type: {found.description}, expected {expected}"
  | .wrongInteger number expected => s!"invalid value: integer `{number}`, expected {expected}"
  | .wrongLength count expected => s!"invalid length {count}, expected {expected}"
  | .unknownName name known =>
    s!"unknown variant `{name}`, expected one of {enumerateNames known}"
  | .repeatedField name => s!"duplicate field `{name}`"

/-- A fault as the reader meets it: the cause, the text that was left, and the bytes of that text
that were taken in all the same. -/
structure Stop where
  cause : Cause
  rest : List Char
  beyond : Nat

structure Fault where
  cause : Cause
  line : Nat
  column : Nat

def Fault.message (fault : Fault) : String :=
  s!"{fault.cause.message} at line {fault.line} column {fault.column}"

/-! ### Places -/

/-- The number of bytes of a text. -/
def byteCount (text : List Char) : Nat :=
  (text.map Char.utf8Size).foldl (· + ·) 0

/-- The line and the column after a number of bytes of a text, from the line and column of its
start. -/
def placeAfter (line column : Nat) : Nat → List Char → Nat × Nat
  | _, [] => (line, column)
  | bytes, character :: rest =>
    if bytes < character.utf8Size then (line, column + bytes)
    else if character = '\n' then placeAfter (line + 1) 0 (bytes - 1) rest
    else placeAfter line (column + character.utf8Size) (bytes - character.utf8Size) rest

/-- The fault of a stop, with the place in the whole text. -/
def Stop.inText (text : List Char) (stop : Stop) : Fault :=
  let place := placeAfter 1 0 (byteCount text - byteCount stop.rest + stop.beyond) text
  { cause := stop.cause, line := place.1, column := place.2 }

/-! ### Raising faults -/

/-- A value that was read and the text after it, or the stop. -/
abbrev Reading (α : Type) := Except Stop (α × List Char)

/-- Stops at the start of the text. -/
def stopAt {α : Type} (cause : Cause) (text : List Char) : Except Stop α :=
  .error ⟨cause, text, 0⟩

/-- Stops because of the next character, which is counted by its first byte. -/
def stopBefore {α : Type} (cause : Cause) (text : List Char) : Except Stop α :=
  .error ⟨cause, text, if text.isEmpty then 0 else 1⟩

end Sieve.Json
