/-
The shortest decimal that reads back. Every double stands for an interval of
reals, those that round to it: from halfway to its lower neighbour to halfway to
its upper one, the ends included exactly when its significand is even. A
magnitude is written with the fewest digits that name a point of this interval,
and of two such points with the one nearer to the double.

The search is the definition turned into a loop. For one digit, two digits and so
on, the two decimals around the value are tested; the first number of digits
with a hit wins. Seventeen digits always suffice; should they ever not, the
exact value is written, which reads back for a simpler reason.
-/

import Sieve.Double.Basic

namespace Sieve.Decimal

/-- Which of two equally near decimals is written. -/
inductive Tie where
  | toEven
  | upward
deriving DecidableEq, Repr

/-- The number `digits * 10 ^ exponent`. -/
structure Scaled where
  digits : Nat
  exponent : Int
deriving DecidableEq, Repr

end Sieve.Decimal

namespace Sieve.Double

open Sieve.Decimal (Tie Scaled)

/-- A magnitude and its interval on a decimal grid. The value is `value / unit` grid steps, and
the interval reaches from `low / unit` to `high / unit`. -/
structure OnGrid where
  unit : Nat
  low : Nat
  value : Nat
  high : Nat
  closed : Bool

/-- Measures a magnitude on the grid of the multiples of `10 ^ exponent`, in quarters of its
quantum. Just above a power of two the lower neighbour is half as far away as the upper one. -/
def onGrid (magnitude : Nat) (exponent : Int) : OnGrid :=
  let quanta := significandOf magnitude
  let quarter := exponentOf magnitude - 2
  let step := 2 ^ quarter.toNat * 10 ^ (-exponent).toNat
  let narrow := decide (quanta = 2 ^ 52) && decide (2 ≤ magnitude / 2 ^ 52)
  { unit := 10 ^ exponent.toNat * 2 ^ (-quarter).toNat
    low := (if narrow then 4 * quanta - 1 else 4 * quanta - 2) * step
    value := 4 * quanta * step
    high := (4 * quanta + 2) * step
    closed := decide (quanta % 2 = 0) }

/-- Whether a multiple of the grid step reads back to the magnitude. -/
def OnGrid.contains (grid : OnGrid) (multiple : Nat) : Bool :=
  let point := multiple * grid.unit
  (decide (grid.low < point) || grid.closed && decide (grid.low = point)) &&
    (decide (point < grid.high) || grid.closed && decide (point = grid.high))

/-- The better of the two multiples around the value, if one of them reads back. -/
def OnGrid.nearest? (grid : OnGrid) (tie : Tie) : Option Nat :=
  let below := grid.value / grid.unit
  let above := below + 1
  match grid.contains below, grid.contains above with
  | false, false => none
  | true, false => some below
  | false, true => some above
  | true, true =>
    match compare (2 * grid.value) ((below + above) * grid.unit) with
    | .lt => some below
    | .gt => some above
    | .eq =>
      match tie with
      | .upward => some above
      | .toEven => some (if below % 2 = 0 then below else above)

/-- The least exponent of ten above a positive finite magnitude. -/
def decimalScale (magnitude : Nat) : Int :=
  let binary := (significandOf magnitude).log2 + exponentOf magnitude
  let estimate := Int.fdiv (binary * 30103) 100000
  let below (exponent : Int) : Bool :=
    decide (numeratorOf magnitude * 10 ^ (-exponent).toNat <
      denominatorOf magnitude * 10 ^ exponent.toNat)
  if below estimate then estimate
  else if below (estimate + 1) then estimate + 1
  else estimate + 2

/-- Moves the trailing zeros of the digits into the exponent. -/
def dropZeros : Nat → Scaled → Scaled
  | 0, number => number
  | fuel + 1, number =>
    if number.digits % 10 = 0 then dropZeros fuel ⟨number.digits / 10, number.exponent + 1⟩
    else number

/-- The exact value of a finite magnitude as a decimal. -/
def exactDecimal (magnitude : Nat) : Scaled :=
  let exponent := exponentOf magnitude
  ⟨numeratorOf magnitude * 5 ^ (-exponent).toNat, min 0 exponent⟩

/-- The fewest digits that read back to a positive finite magnitude, and of those the nearest. -/
def shortest (tie : Tie) (magnitude : Nat) : Scaled :=
  let scale := decimalScale magnitude
  let attempt (count : Nat) : Option Scaled :=
    let exponent := scale - (count + 1 : Nat)
    ((onGrid magnitude exponent).nearest? tie).map fun digits => ⟨digits, exponent⟩
  match (List.range 17).findSome? attempt with
  | some number => dropZeros 20 number
  | none => exactDecimal magnitude

end Sieve.Double
