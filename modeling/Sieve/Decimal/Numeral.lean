/-
Decimal numerals: how naturals and integers are written and read. A numeral is
an optional sign and one or more digits; leading zeros are allowed when reading
and never written, except where a field has a fixed width.
-/

import Sieve.Power

namespace Sieve.Decimal

/-- The digits of a natural number, without leading zeros. -/
def digits (number : Nat) : List Char :=
  Nat.toDigits 10 number

/-- The value of a run of digits. -/
def value (run : List Char) : Nat :=
  Nat.ofDigitChars 10 run 0

/-- The value of one digit. -/
def digitValue (digit : Char) : Nat :=
  digit.toNat - '0'.toNat

/-- The digits of a number, filled up with zeros on the left to a width. -/
def padded (width number : Nat) : List Char :=
  List.replicate (width - (digits number).length) '0' ++ digits number

/-- An integer with a minus sign where it is negative. -/
def signed (number : Int) : List Char :=
  if number < 0 then '-' :: digits number.natAbs else digits number.natAbs

/-- Why a text is no numeral of the wanted range. -/
inductive NumeralFault where
  | empty
  | invalidDigit
  | tooLarge
  | tooSmall
deriving DecidableEq, Repr

def NumeralFault.message : NumeralFault → String
  | .empty => "cannot parse integer from empty string"
  | .invalidDigit => "invalid digit found in string"
  | .tooLarge => "number too large to fit in target type"
  | .tooSmall => "number too small to fit in target type"

/-- Takes the digits in from the left. The first character that is no digit and the first digit
that carries the total past the bound are both faults, whichever comes first. -/
def readDigits (limit : Nat) (overflow : NumeralFault) : Nat → List Char → Except NumeralFault Nat
  | total, [] => .ok total
  | total, character :: rest =>
    if character.isDigit then
      if total * 10 + digitValue character ≤ limit then
        readDigits limit overflow (total * 10 + digitValue character) rest
      else .error overflow
    else .error .invalidDigit

/-- Reads a natural number up to a bound; a plus sign in front of a digit is allowed. -/
def readNatural (limit : Nat) : List Char → Except NumeralFault Nat
  | [] => .error .empty
  | '+' :: first :: rest => readDigits limit .tooLarge 0 (first :: rest)
  | text => readDigits limit .tooLarge 0 text

/-- Reads an integer of 64 bits, with an optional sign in front of a digit. -/
def readInteger : List Char → Except NumeralFault Int
  | [] => .error .empty
  | '-' :: first :: rest =>
    (readDigits (2 ^ 63) .tooSmall 0 (first :: rest)).map fun total => -(total : Int)
  | '+' :: first :: rest =>
    (readDigits (2 ^ 63 - 1) .tooLarge 0 (first :: rest)).map fun total => (total : Int)
  | text => (readDigits (2 ^ 63 - 1) .tooLarge 0 text).map fun total => (total : Int)

end Sieve.Decimal
