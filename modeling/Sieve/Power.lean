/-
Powers with natural exponents are the ones of the core library. A larger library that is in
scope may bring powers of its own, with the same values but in another form; with this
preference a definition has one form wherever it is read.
-/

namespace Sieve

@[default_instance 20000]
instance (priority := 20000) corePower {α : Type} [NatPow α] : Pow α Nat :=
  instPowNat

end Sieve
