import SinkCheck.Decimal.Shortest
/-
  Writing a decimal.

  The digits and the exponent of a decimal say which number it is; a layout says how it is spelled: up
  to which sizes it is written out plainly, and how the scientific form looks beyond them.
-/

namespace SinkCheck.Decimal

/-- How decimals are spelled. -/
structure Layout where
  /-- The least exponent of the first digit that is still written plainly. -/
  plainFrom : Int
  /-- The greatest exponent of the first digit that is still written plainly. -/
  plainTo : Int
  /-- The mark between the digits and the exponent. -/
  mark : String
  /-- The sign of an exponent that is not negative. -/
  plus : String

namespace Layout

/-- The digits with a point after the first `whole` of them, zeros filled in on either side; at least
one digit stands after the point. -/
def plain (digits : List Char) (whole : Int) : List Char :=
  if whole ≤ 0 then '0' :: '.' :: List.replicate (-whole).toNat '0' ++ digits
  else
    let w := whole.toNat
    let front := digits.take w ++ List.replicate (w - digits.length) '0'
    let back := digits.drop w
    front ++ '.' :: (if back.isEmpty then ['0'] else back)

/-- One digit, a point if more digits follow, and the exponent of the first digit. -/
def scientific (l : Layout) (digits : List Char) (exponent : Int) : List Char :=
  let body := match digits with
    | [] => ['0']
    | [d] => [d]
    | d :: rest => d :: '.' :: rest
  let sign := if exponent < 0 then "-" else l.plus
  body ++ l.mark.toList ++ sign.toList ++ exponent.natAbs.repr.toList

/-- The spelling of a decimal that is not zero. -/
def write (l : Layout) (t : Tenfold) : List Char :=
  let digits := t.digits.repr.toList
  let first : Int := t.exponent + digits.length - 1
  if l.plainFrom ≤ first ∧ first ≤ l.plainTo then plain digits (first + 1)
  else l.scientific digits first

/-- The spelling of a binary number by its shortest decimal; zero is `0.0`. -/
def writeBinary (l : Layout) (b : Binary64) : String :=
  let body := if b.magnitude.isZero then ['0', '.', '0'] else l.write b.magnitude.shortest
  String.ofList (if b.negative then '-' :: body else body)

end Layout

end SinkCheck.Decimal
