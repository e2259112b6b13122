import SinkCheck.Power
/-
  Finite binary floating-point numbers of 64 bits, in exact arithmetic.

  A magnitude is `digits * 2 ^ exponent` with natural `digits`.  Rounding takes a quotient of two
  naturals to the nearest magnitude of 53 binary digits, a tie to the even neighbour, with the
  exponent never below -1074; a result from `2 ^ 1024` upwards has no magnitude.  Product and quotient
  of two magnitudes are the exact ones, rounded once.

  Nothing here uses the machine's floating-point unit, so every step is open to proof.
-/

namespace SinkCheck.Decimal

/-- The number `digits * 2 ^ exponent`. -/
structure Magnitude where
  digits : Nat
  exponent : Int
  deriving Repr, DecidableEq

/-- A signed number; zero has two signs. -/
structure Binary64 where
  negative : Bool
  magnitude : Magnitude
  deriving Repr, DecidableEq

namespace Magnitude

/-- Zero, at the smallest exponent. -/
def zero : Magnitude := ⟨0, -1074⟩

/-- The quotient rounded to the nearest natural, a tie to the even one. -/
def roundQuotient (num den : Nat) : Nat :=
  let q := num / den
  let r := num % den
  if den < 2 * r ∨ (2 * r = den ∧ q % 2 = 1) then q + 1 else q

/-- Numerator and denominator of `num / den / 2 ^ e`. -/
def scaled (num den : Nat) (e : Int) : Nat × Nat :=
  if 0 ≤ e then (num, den * 2 ^ e.toNat) else (num * 2 ^ (-e).toNat, den)

/-- The exponent at which `num / den` has 53 binary digits, but at least -1074. -/
def unitExponent (num den : Nat) : Int :=
  let k : Int := (num.log2 : Int) - (den.log2 : Int)
  let (n, d) := scaled num den k
  let top := if d ≤ n then k else k - 1
  max (top - 52) (-1074)

/-- The nearest magnitude to `num / den`; none when it is too large. -/
def ofQuotient (num den : Nat) : Option Magnitude :=
  if num = 0 then some zero
  else
    let e := unitExponent num den
    let (n, d) := scaled num den e
    let m := roundQuotient n d
    let (m, e) := if m = 2 ^ 53 then (2 ^ 52, e + 1) else (m, e)
    if 971 < e then none else some ⟨m, e⟩

/-- The nearest magnitude to `m * 2 ^ e`. -/
def ofScaled (m : Nat) (e : Int) : Option Magnitude :=
  if 0 ≤ e then ofQuotient (m * 2 ^ e.toNat) 1 else ofQuotient m (2 ^ (-e).toNat)

/-- The nearest magnitude to a natural number. -/
def ofNat (n : Nat) : Option Magnitude := ofQuotient n 1

/-- The exact product, rounded. -/
def mul (a b : Magnitude) : Option Magnitude := ofScaled (a.digits * b.digits) (a.exponent + b.exponent)

/-- The exact quotient, rounded; `b` is not zero. -/
def div (a b : Magnitude) : Option Magnitude :=
  let e := a.exponent - b.exponent
  if 0 ≤ e then ofQuotient (a.digits * 2 ^ e.toNat) b.digits
  else ofQuotient a.digits (b.digits * 2 ^ (-e).toNat)

/-- Is the number zero? -/
def isZero (a : Magnitude) : Bool := a.digits == 0

example : ofNat (2 ^ 53 + 1) = some ⟨2 ^ 52, 1⟩ := by decide +kernel

example : ofQuotient 1 10 = some ⟨7205759403792794, -56⟩ := by decide +kernel

example : ofNat (2 ^ 1024) = none := by decide +kernel

end Magnitude

end SinkCheck.Decimal
