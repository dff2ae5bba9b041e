/-
How doubles are written and read as decimal text. Writing has two stages: the
shortest digits that read back, and their layout. A layout says where plain
positional notation ends, whether a whole number keeps its point, and how an
exponent is spelled. Reading takes any number of digits and rounds once.
-/

import Sieve.Decimal.Numeral
import Sieve.Double.Shortest

namespace Sieve.Double

open Sieve.Decimal (Tie Scaled digits value)

/-! ### Writing -/

/-- The decisions of one written form of doubles. -/
structure Layout where
  /-- which of two equally near shortest decimals is written -/
  tie : Tie
  /-- the exponents of the leading digit that are written without an exponent; `none` for all -/
  positional : Option (Int × Int)
  /-- whether a whole number is written with a point and a zero -/
  pointZero : Bool
  /-- whether a positive exponent has a plus sign -/
  plusSign : Bool

/-- Numbers as text: never an exponent, and no point where there is no fraction. -/
def Layout.plain : Layout where
  tie := .upward
  positional := none
  pointZero := false
  plusSign := false

/-- Numbers in documents: an exponent below `1e-5` and from `1e16` on, signed either way. -/
def Layout.document : Layout where
  tie := .toEven
  positional := some (-5, 15)
  pointZero := true
  plusSign := true

/-- Numbers in descriptions of values: an exponent below `1e-4` and from `1e16` on. -/
def Layout.description : Layout where
  tie := .upward
  positional := some (-4, 15)
  pointZero := true
  plusSign := false

/-- A decimal written out in full. -/
def positionalText (layout : Layout) (number : Scaled) : List Char :=
  let run := digits number.digits
  if 0 ≤ number.exponent then
    run ++ List.replicate number.exponent.toNat '0' ++ (if layout.pointZero then ['.', '0'] else [])
  else
    let places := (-number.exponent).toNat
    if places < run.length then
      run.take (run.length - places) ++ '.' :: run.drop (run.length - places)
    else '0' :: '.' :: List.replicate (places - run.length) '0' ++ run

/-- A decimal written with one digit before the point and an exponent. -/
def exponentText (layout : Layout) (number : Scaled) : List Char :=
  let run := digits number.digits
  let exponent := number.exponent + run.length - 1
  let fraction := if run.length ≤ 1 then [] else '.' :: run.drop 1
  let sign := if layout.plusSign && decide (0 ≤ exponent) then ['+'] else []
  run.take 1 ++ fraction ++ 'e' :: sign ++ Decimal.signed exponent

/-- A finite magnitude in a layout. -/
def magnitudeText (layout : Layout) (magnitude : Nat) : List Char :=
  if magnitude = 0 then if layout.pointZero then ['0', '.', '0'] else ['0']
  else
    let number := shortest layout.tie magnitude
    let leading := number.exponent + (digits number.digits).length - 1
    match layout.positional with
    | none => positionalText layout number
    | some (lowest, highest) =>
      if lowest ≤ leading ∧ leading ≤ highest then positionalText layout number
      else exponentText layout number

/-- A double in a layout. The zeros keep their signs. -/
def text (layout : Layout) (number : Double) : List Char :=
  if number.isNaN then ['N', 'a', 'N']
  else
    (if number.negative then ['-'] else []) ++
      (if number.isFinite then magnitudeText layout number.magnitude else ['i', 'n', 'f'])

/-! ### Reading -/

/-- The magnitude nearest to `significand * 10 ^ exponent`. Exponents beyond the range of doubles
are answered without raising ten to them. -/
def ofDecimal (significand : Nat) (exponent : Int) : Nat :=
  let leading := exponent + (digits significand).length
  if significand = 0 ∨ leading < -400 then 0
  else if 400 < leading then infiniteMagnitude
  else nearest (significand * 10 ^ exponent.toNat) (10 ^ (-exponent).toNat)

/-- The exponent part of a decimal: nothing, or a mark, an optional sign and digits. -/
def readExponent : List Char → Option Int
  | [] => some 0
  | mark :: rest =>
    if mark = 'e' ∨ mark = 'E' then
      let (negative, run) := match rest with
        | '-' :: run => (true, run)
        | '+' :: run => (false, run)
        | run => (false, run)
      if run.isEmpty || !run.all Char.isDigit then none
      else some (if negative then -(value run : Int) else value run)
    else none

/-- The magnitude of an unsigned decimal: digits with a point anywhere among them or none, at
least one digit, and an optional exponent. -/
def readMagnitude (text : List Char) : Option Nat :=
  let whole := text.takeWhile Char.isDigit
  let afterWhole := text.dropWhile Char.isDigit
  let (fraction, afterFraction) := match afterWhole with
    | '.' :: rest => (rest.takeWhile Char.isDigit, rest.dropWhile Char.isDigit)
    | rest => ([], rest)
  if whole.isEmpty && fraction.isEmpty then none
  else (readExponent afterFraction).map fun exponent =>
    ofDecimal (value (whole ++ fraction)) (exponent - fraction.length)

/-- The number that a text denotes, if it denotes a finite one. The words for infinity and for an
undefined number are numbers too, but not finite ones. -/
def read? (text : List Char) : Option Double :=
  let (negative, rest) := match text with
    | '-' :: rest => (true, rest)
    | '+' :: rest => (false, rest)
    | rest => (false, rest)
  match readMagnitude rest with
  | some magnitude =>
    if magnitude < infiniteMagnitude then some (ofMagnitude negative magnitude) else none
  | none => none

end Sieve.Double
