/-
How dates and instants are written and read.

A date is its year, month and day with hyphens between. Years from zero to 9999
have four digits; all others have a sign and at least four. Reading is more
liberal: blanks may stand before each number, months and days may have one
digit, and a year with a sign any number of digits.

An instant is a date, the letter `T`, the time of day and the letter `Z`. The
fraction of the second has no digits, three, six or nine, the fewest that are
exact. Reading accepts any offset from universal time and any number of fraction
digits, of which it keeps nine, but only years of four digits.
-/

import Sieve.Calendar.Instant
import Sieve.Decimal.Numeral
import Sieve.Text.Blank

namespace Sieve.Calendar

open Sieve.Decimal (digits padded value)
open Sieve.Text (trimStart)

/-! ### Writing -/

def yearText (year : Int) : List Char :=
  if 0 ≤ year ∧ year ≤ 9999 then padded 4 year.toNat
  else (if year < 0 then '-' else '+') :: padded 4 year.natAbs

def Date.text (date : Date) : List Char :=
  yearText date.year ++ '-' :: padded 2 date.month ++ '-' :: padded 2 date.day

/-- The fraction of a second, from nanoseconds below a second. -/
def fractionText (nanosecond : Nat) : List Char :=
  if nanosecond = 0 then []
  else if nanosecond % 1000000 = 0 then '.' :: padded 3 (nanosecond / 1000000)
  else if nanosecond % 1000 = 0 then '.' :: padded 6 (nanosecond / 1000)
  else '.' :: padded 9 nanosecond

/-- The time of day. A leap second is written as the second after the one that it belongs to, at the
end of a minute as the sixtieth of it. -/
def Instant.timeText (instant : Instant) : List Char :=
  let second := instant.secondOfDay
  let shown := if instant.isLeapSecond then second % 60 + 1 else second % 60
  padded 2 (second / 3600) ++ ':' :: padded 2 (second / 60 % 60) ++ ':' :: padded 2 shown ++
    fractionText (instant.nanosecond % 10 ^ 9)

def Instant.text (instant : Instant) : List Char :=
  match instant.date? with
  | some date => date.text ++ 'T' :: instant.timeText ++ ['Z']
  | none => []

/-! ### Reading dates -/

/-- A number of one digit at least and of at most the given count, and the text after it. -/
def readDigits? (most : Nat) (text : List Char) : Option (Nat × List Char) :=
  let run := (text.take most).takeWhile Char.isDigit
  if run.isEmpty then none else some (value run, text.drop run.length)

/-- A year: four digits at most, or a sign and any number of digits. -/
def readYear? (text : List Char) : Option (Int × List Char) :=
  match text with
  | '-' :: rest => (readDigits? rest.length rest).map fun (year, rest) => (-(year : Int), rest)
  | '+' :: rest => (readDigits? rest.length rest).map fun (year, rest) => ((year : Int), rest)
  | text => (readDigits? 4 text).map fun (year, rest) => ((year : Int), rest)

/-- The text after a character that has to stand at its start. -/
def expect? (character : Char) : List Char → Option (List Char)
  | [] => none
  | first :: rest => if first = character then some rest else none

def Date.read? (text : List Char) : Option Date := do
  let (year, rest) ← readYear? (trimStart text)
  let (month, rest) ← readDigits? 2 (trimStart (← expect? '-' rest))
  let (day, rest) ← readDigits? 2 (trimStart (← expect? '-' rest))
  if rest.isEmpty then Date.ofParts? year month day else none

/-! ### Reading instants -/

/-- A number of exactly the given count of digits, and the text after it. -/
def readFixed? (count : Nat) (text : List Char) : Option (Nat × List Char) :=
  let run := text.take count
  if run.length = count ∧ run.all Char.isDigit then some (value run, text.drop count) else none

/-- The fraction of a second in nanoseconds: none, or a point and digits, of which nine count. -/
def readFraction? : List Char → Option (Nat × List Char)
  | '.' :: rest =>
    let run := rest.takeWhile Char.isDigit
    if run.isEmpty then none
    else
      let kept := run.take 9
      some (value (kept ++ List.replicate (9 - kept.length) '0'), rest.dropWhile Char.isDigit)
  | rest => some (0, rest)

/-- An offset from universal time in seconds: a letter for none, or a sign, hours and minutes. -/
def readOffset? : List Char → Option (Int × List Char)
  | [] => none
  | mark :: rest =>
    if mark = 'Z' ∨ mark = 'z' then some (0, rest)
    else if mark = '+' ∨ mark = '-' ∨ mark = '\u2212' then do
      let (hours, rest) ← readFixed? 2 rest
      let (minutes, rest) ← readFixed? 2 (← expect? ':' rest)
      if hours < 24 ∧ minutes < 60 then
        let offset : Int := hours * 3600 + minutes * 60
        some (if mark = '+' then offset else -offset, rest)
      else none
    else none

def Instant.read? (text : List Char) : Option Instant := do
  let (year, rest) ← readFixed? 4 text
  let (month, rest) ← readFixed? 2 (← expect? '-' rest)
  let (day, rest) ← readFixed? 2 (← expect? '-' rest)
  let rest ← match rest with
    | mark :: rest => if mark = 'T' ∨ mark = 't' ∨ mark = ' ' then some rest else none
    | [] => none
  let (hour, rest) ← readFixed? 2 rest
  let (minute, rest) ← readFixed? 2 (← expect? ':' rest)
  let (second, rest) ← readFixed? 2 (← expect? ':' rest)
  let (fraction, rest) ← readFraction? rest
  let (offset, rest) ← readOffset? rest
  let date ← Date.ofParts? year month day
  if rest.isEmpty ∧ hour < 24 ∧ minute < 60 ∧ second ≤ 60 then
    let shown := if second = 60 then 59 else second
    Instant.of? (date.dayNumber * 86400 + (hour * 3600 + minute * 60 + shown : Nat) - offset)
      (if second = 60 then 10 ^ 9 + fraction else fraction)
  else none

end Sieve.Calendar
