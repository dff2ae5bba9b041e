/-
The parts of a document text that hold no other parts: blanks, words, numbers and
strings. Each reader takes the text from where it stands and gives back what it
read and the text after it.

An integer that fits 64 bits is kept exactly. Any other number becomes a double
in a fixed way: its digits are taken in while they fit 64 bits, further digits
before the point count only as factors of ten, further digits after it not at
all; then the rounded integer is multiplied or divided once by the double nearest
to the power of ten. The result may therefore miss the nearest double, and it is
the same for everyone who reads the text.
-/

import Sieve.Decimal.Numeral
import Sieve.Json.Basic
import Sieve.Json.Fault

namespace Sieve.Json

open Sieve.Decimal (digitValue)

/-! ### Blanks and words -/

def isSpace (character : Char) : Bool :=
  character = ' ' || character = '\n' || character = '\t' || character = '\r'

def skipSpaces (text : List Char) : List Char :=
  text.dropWhile isSpace

/-- Takes the letters of a word off the text. -/
def readWord : List Char → List Char → Except Stop (List Char)
  | [], text => .ok text
  | _ :: _, [] => stopAt .endInValue []
  | letter :: letters, character :: rest =>
    if character = letter then readWord letters rest
    else stopBefore .unknownWord (character :: rest)

/-! ### Numbers -/

/-- A number as it was read: exact, or rounded to a double. -/
inductive Number where
  | integer (number : Integer)
  | float (number : FiniteDouble)

/-- Takes digits in while the total stays below a bound. Gives the total, how many digits went
into it, and the text from the first character that did not. -/
def absorb (bound : Nat) : (total count : Nat) → List Char → Nat × Nat × List Char
  | total, count, [] => (total, count, [])
  | total, count, character :: rest =>
    if character.isDigit && decide (total * 10 + digitValue character < bound) then
      absorb bound (total * 10 + digitValue character) (count + 1) rest
    else (total, count, character :: rest)

/-- Whether the text goes on with a digit. -/
def startsWithDigit : List Char → Bool
  | [] => false
  | character :: _ => character.isDigit

/-- Whether the text goes on with an exponent. -/
def startsWithExponent : List Char → Bool
  | [] => false
  | character :: _ => character = 'e' || character = 'E'

/-- The magnitude of a power of ten up to the largest that is a double. -/
def powerOfTen (exponent : Nat) : Nat :=
  Double.nearest (10 ^ exponent) 1

/-- Divides a magnitude by a power of ten, in steps where the power is too large. -/
def divideByTen (magnitude exponent : Nat) : Nat :=
  if exponent ≤ 308 then
    Double.scale magnitude (Double.denominatorOf (powerOfTen exponent))
      (Double.numeratorOf (powerOfTen exponent))
  else if magnitude = 0 then 0
  else
    divideByTen
      (Double.scale magnitude (Double.denominatorOf (powerOfTen 308))
        (Double.numeratorOf (powerOfTen 308)))
      (exponent - 308)
termination_by exponent

/-- The magnitude of `significand * 10 ^ exponent`, or nothing where it is no finite double. -/
def decimalMagnitude? (significand : Nat) (exponent : Int) : Option Nat :=
  let start := Double.nearest significand 1
  if exponent < 0 then some (divideByTen start exponent.natAbs)
  else if exponent ≤ 308 then
    let power := powerOfTen exponent.toNat
    let product :=
      Double.scale start (Double.numeratorOf power) (Double.denominatorOf power)
    if product < Double.infiniteMagnitude then some product else none
  else if start = 0 then some 0
  else none

/-- A double read from its sign and magnitude, where it is finite. -/
def finishFloat (negative : Bool) (magnitude? : Option Nat) (rest : List Char) : Reading Number :=
  match magnitude? with
  | none => stopAt .numberOutOfRange rest
  | some magnitude =>
    let number := Double.ofMagnitude negative magnitude
    if finite : number.isFinite = true then .ok (.float ⟨number, finite⟩, rest)
    else stopAt .numberOutOfRange rest

/-- Reads the exponent after its mark. An exponent that does not fit 31 bits is out of range,
unless it only makes a zero or a number too small to tell from zero. -/
def readExponent (negative : Bool) (significand : Nat) (scale : Int) (text : List Char) :
    Reading Number :=
  let (down, run) := match text with
    | '+' :: rest => (false, rest)
    | '-' :: rest => (true, rest)
    | rest => (false, rest)
  if startsWithDigit run then
    let (exponent, _, rest) := absorb (2 ^ 31) 0 0 run
    if startsWithDigit rest then
      if significand ≠ 0 ∧ ¬down then stopAt .numberOutOfRange (rest.drop 1)
      else finishFloat negative (some 0) (rest.dropWhile Char.isDigit)
    else
      finishFloat negative
        (decimalMagnitude? significand (if down then scale - exponent else scale + exponent)) rest
  else if run.isEmpty then stopAt .endInValue run
  else stopBefore .invalidNumber run

/-- Finishes a number whose digits are all taken in: an exponent may follow. -/
def readScaled (negative : Bool) (significand : Nat) (scale : Int) (text : List Char) :
    Reading Number :=
  if startsWithExponent text then readExponent negative significand scale (text.drop 1)
  else finishFloat negative (decimalMagnitude? significand scale) text

/-- Reads the digits after the point. -/
def readFraction (negative : Bool) (significand : Nat) (scale : Int) (text : List Char) :
    Reading Number :=
  let (total, count, rest) := absorb (2 ^ 64) significand 0 text
  if startsWithDigit rest then
    readScaled negative total (scale - count) (rest.dropWhile Char.isDigit)
  else if count = 0 then
    if rest.isEmpty then stopAt .endInValue rest else stopBefore .invalidNumber rest
  else readScaled negative total (scale - count) rest

/-- Finishes a number whose integer part is taken in, with a count of digits that did not fit. -/
def readPointed (negative : Bool) (significand : Nat) (scale : Nat) (text : List Char) :
    Reading Number :=
  match text with
  | '.' :: rest => readFraction negative significand scale rest
  | rest => readScaled negative significand scale rest

/-- An integer literal as a number. A negative one below the range and the negative zero become
doubles. -/
def finishInteger (negative : Bool) (significand : Nat) (rest : List Char) : Reading Number :=
  let value : Int := if negative then -(significand : Int) else significand
  if negative ∧ significand = 0 then finishFloat true (some 0) rest
  else
    match Integer.of? value with
    | some number => .ok (.integer number, rest)
    | none => finishFloat negative (some (Double.nearest significand 1)) rest

/-- Reads a number after its sign. -/
def readNumber (negative : Bool) (text : List Char) : Reading Number :=
  match text with
  | [] => stopAt .endInValue []
  | first :: rest =>
    if first.isDigit then
      if first = '0' ∧ startsWithDigit rest then stopBefore .invalidNumber rest
      else
        let (significand, _, left) := absorb (2 ^ 64) (digitValue first) 1 rest
        let further := left.takeWhile Char.isDigit
        let after := left.dropWhile Char.isDigit
        match after with
        | mark :: _ =>
          if further.isEmpty ∧ mark ≠ '.' ∧ ¬startsWithExponent after then
            finishInteger negative significand after
          else readPointed negative significand further.length after
        | [] =>
          if further.isEmpty then finishInteger negative significand after
          else readPointed negative significand further.length after
    else stopBefore .invalidNumber (first :: rest)

/-! ### Strings -/

def hexValue? (character : Char) : Option Nat :=
  if character.isDigit then some (digitValue character)
  else if 'a' ≤ character ∧ character ≤ 'f' then some (character.toNat - 'a'.toNat + 10)
  else if 'A' ≤ character ∧ character ≤ 'F' then some (character.toNat - 'A'.toNat + 10)
  else none

/-- The character that a letter after a backslash stands for. -/
def unescape? (letter : Char) : Option Char :=
  if letter = '"' then some '"'
  else if letter = '\\' then some '\\'
  else if letter = '/' then some '/'
  else if letter = 'b' then some '\x08'
  else if letter = 'f' then some '\x0c'
  else if letter = 'n' then some '\n'
  else if letter = 'r' then some '\r'
  else if letter = 't' then some '\t'
  else none

/-- How far an escape has been taken in: `unit` holds the digits seen of a unit of four and
their value. The unit after a leading surrogate has to be a trailing one. -/
inductive EscapeState where
  | none
  | backslash
  | unit (leading : Option Nat) (count value : Nat)
  | pairBackslash (leading : Nat)
  | pairMark (leading : Nat)

/-- A digit was wanted in a unit. The unit is taken in as a whole, so its missing bytes count,
and a text that is too short for them ends in the string. -/
def stopInUnit {α : Type} (missing : Nat) (text : List Char) : Except Stop α :=
  if byteCount (text.take missing) < missing then stopAt .endInString []
  else .error ⟨.invalidEscape, text, missing⟩

/-- Reads a string after its opening quote. The characters so far are kept in reverse. -/
def readString (state : EscapeState) (written : List Char) : List Char → Reading String
  | [] => stopAt .endInString []
  | character :: rest =>
    match state with
    | .none =>
      if character = '"' then .ok (String.ofList written.reverse, rest)
      else if character = '\\' then readString .backslash written rest
      else if character.toNat < 0x20 then stopBefore .controlCharacter (character :: rest)
      else readString .none (character :: written) rest
    | .backslash =>
      if character = 'u' then readString (.unit .none 0 0) written rest
      else
        match unescape? character with
        | some plain => readString .none (plain :: written) rest
        | .none => stopBefore .invalidEscape (character :: rest)
    | .unit leading count value =>
      match hexValue? character with
      | .none => stopInUnit (4 - count) (character :: rest)
      | some digit =>
        let total := value * 16 + digit
        if count < 3 then readString (.unit leading (count + 1) total) written rest
        else
          let trailing := decide (0xDC00 ≤ total) && decide (total ≤ 0xDFFF)
          match leading with
          | some first =>
            if trailing then
              readString .none
                (Char.ofNat (0x10000 + (first - 0xD800) * 0x400 + (total - 0xDC00)) :: written) rest
            else stopAt .loneSurrogate rest
          | .none =>
            if trailing then stopAt .loneSurrogate rest
            else if 0xD800 ≤ total ∧ total ≤ 0xDBFF then readString (.pairBackslash total) written rest
            else readString .none (Char.ofNat total :: written) rest
    | .pairBackslash leading =>
      if character = '\\' then readString (.pairMark leading) written rest
      else stopBefore .unfinishedPair (character :: rest)
    | .pairMark leading =>
      if character = 'u' then readString (.unit (some leading) 0 0) written rest
      else stopBefore .unfinishedPair (character :: rest)

end Sieve.Json
