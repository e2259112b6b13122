import SinkCheck.Decimal.Binary64
/-
  The shortest decimal that reads back.

  Every magnitude is the rounding of a whole interval of reals, its ends included exactly when its
  digits are even.  A decimal of `n` digits that reads back is a point of a decimal grid inside that
  interval, and if the grid has one, one of the two grid neighbours of the number itself is such a
  point.  So the grids of 1, 2, …, 17 digits are tried in turn; on the first grid with a hit the
  nearer neighbour is taken, the even one when both are equally near.

  A decimal is `digits * 10 ^ exponent`.
-/

namespace SinkCheck.Decimal

/-- The number `digits * 10 ^ exponent`. -/
structure Tenfold where
  digits : Nat
  exponent : Int
  deriving Repr, DecidableEq

/-- A positive number as a quotient of naturals. -/
structure Quotient where
  num : Nat
  den : Nat

namespace Quotient

/-- The quotient `m * 2 ^ e`. -/
def ofScaled (m : Nat) (e : Int) : Quotient :=
  if 0 ≤ e then ⟨m * 2 ^ e.toNat, 1⟩ else ⟨m, 2 ^ (-e).toNat⟩

/-- Is `a` below `b`? -/
def lt (a b : Quotient) : Bool := a.num * b.den < b.num * a.den

/-- Is `a` at most `b`? -/
def le (a b : Quotient) : Bool := a.num * b.den ≤ b.num * a.den

/-- The quotient `a / 10 ^ e`. -/
def perTen (a : Quotient) (e : Int) : Quotient :=
  if 0 ≤ e then ⟨a.num, a.den * 10 ^ e.toNat⟩ else ⟨a.num * 10 ^ (-e).toNat, a.den⟩

end Quotient

/-- The reals that round to a magnitude: four times the number, and the ends of its interval on the
same scale. -/
structure Interval where
  low : Quotient
  value : Quotient
  high : Quotient
  closed : Bool

/-- The interval of a magnitude.  Below a power of two the lower neighbour is only half as far. -/
def Magnitude.interval (a : Magnitude) : Interval :=
  let narrow := a.digits == 2 ^ 52 && decide (-1074 < a.exponent)
  let at_ (m : Nat) : Quotient := Quotient.ofScaled m (a.exponent - 2)
  { low := at_ (4 * a.digits - (if narrow then 1 else 2))
    value := at_ (4 * a.digits)
    high := at_ (4 * a.digits + 2)
    closed := a.digits % 2 == 0 }

/-- Does a point of the grid of step `10 ^ e` lie in the interval? -/
def Interval.holds (i : Interval) (e : Int) (point : Nat) : Bool :=
  let p : Quotient := ⟨point, 1⟩
  let low := i.low.perTen e
  let high := i.high.perTen e
  if i.closed then low.le p && p.le high else low.lt p && p.lt high

/-- The point of the grid of step `10 ^ e` that lies in the interval and is nearest to its number, the
even one of two. -/
def Interval.onGrid? (i : Interval) (e : Int) : Option Nat :=
  let v := i.value.perTen e
  let below := v.num / v.den
  let above := below + 1
  let twice := 2 * (v.num % v.den)
  let nearBelow := twice < v.den || (twice == v.den && below % 2 == 0)
  match i.holds e below && decide (0 < below), i.holds e above with
  | true, true => some (if nearBelow then below else above)
  | true, false => some below
  | false, true => some above
  | false, false => none

/-- Finer and finer grids, as many as `tries`, from the step `10 ^ e` downwards. -/
def Interval.search (i : Interval) : (tries : Nat) → (e : Int) → Tenfold
  | 0, e => ⟨0, e⟩
  | tries + 1, e =>
    match i.onGrid? e with
    | some d => ⟨d, e⟩
    | none => i.search tries (e - 1)

/-- The least `p` from `p` upwards, in at most `tries` steps, with `v < 10 ^ p`. -/
def topExponent (v : Quotient) : (tries : Nat) → (p : Int) → Int
  | 0, p => p
  | tries + 1, p =>
    let s := v.perTen p
    if s.num < s.den then p else topExponent v tries (p + 1)

/-- Remove the zeros at the end of the digits. -/
def Tenfold.stripped : (tries : Nat) → Tenfold → Tenfold
  | 0, t => t
  | tries + 1, t =>
    if t.digits ≠ 0 ∧ t.digits % 10 = 0 then Tenfold.stripped tries ⟨t.digits / 10, t.exponent + 1⟩
    else t

/-- The shortest decimal that rounds to a positive magnitude, and the nearest of those. -/
def Magnitude.shortest (a : Magnitude) : Tenfold :=
  let i := a.interval
  let v := i.value
  let bits : Int := (v.num.log2 : Int) - (v.den.log2 : Int)
  let p := topExponent v 8 (bits * 30103 / 100000 - 1)
  Tenfold.stripped 20 (i.search 20 (p - 1))

example : (Magnitude.mk 1 (-1074)).shortest = ⟨5, -324⟩ := by decide +kernel

example : (Magnitude.mk 7205759403792794 (-56)).shortest = ⟨1, -1⟩ := by decide +kernel

end SinkCheck.Decimal
