/-
Documents in JavaScript object notation. Numbers keep the two forms that a reader
tells apart: integers of 64 bits, signed or unsigned, and finite doubles. A
mapping remembers the order in which its keys first arrived; writing to a key
that is present replaces its value and moves nothing.
-/

import Sieve.Double.Basic

namespace Sieve

/-- An integer that fits 64 bits: signed where it is negative, unsigned otherwise. -/
structure Json.Integer where
  value : Int
  atLeast : -(2 ^ 63) ≤ value
  below : value < 2 ^ 64
deriving DecidableEq

inductive Json where
  | null
  | bool (flag : Bool)
  | integer (number : Json.Integer)
  | float (number : FiniteDouble)
  | string (text : String)
  | list (items : List Json)
  | mapping (members : List (String × Json))

namespace Json

/-- The integer as a document number, if it fits. -/
def Integer.of? (value : Int) : Option Integer :=
  if atLeast : -(2 ^ 63) ≤ value then
    if below : value < 2 ^ 64 then some ⟨value, atLeast, below⟩ else none
  else none

/-- A natural number of 64 bits as a document. -/
def ofNatural (number : UInt64) : Json :=
  .integer ⟨number.toNat, by omega, by have := number.toNat_lt; omega⟩

def isMapping : Json → Bool
  | .mapping _ => true
  | _ => false

end Json

end Sieve
