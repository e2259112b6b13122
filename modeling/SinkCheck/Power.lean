/-
  Powers of numbers.

  The bounds of machine integers and the scales of decimals are powers.  A power of a natural number or
  of an integer is the one of the core language throughout, also where an algebraic library has another
  reading of the same sign.
-/

namespace SinkCheck

@[default_instance 20000]
instance (priority := 2000) powNat : Pow Nat Nat := instPowNat

@[default_instance 20000]
instance (priority := 2000) powInt : Pow Int Nat := instPowNat

end SinkCheck
