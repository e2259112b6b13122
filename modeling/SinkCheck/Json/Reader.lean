import SinkCheck.Json.Basic
import SinkCheck.Json.Written
import SinkCheck.Keyed
import SinkCheck.Text.Numeral
/-
  Understanding written JSON.

  Strings: a unit of the high surrogates must be followed at once by one of the low surrogates, and
  the two make one character; any other surrogate spoils the string.  All bytes together, those of the
  characters of units among them, must be UTF-8.

  Numbers: without point and exponent, a numeral that fits 64 bits is an integer, except `-0`.  Every
  other numeral is binary, and reading it rounds twice: its leading digits, as far as they stay below
  `2 ^ 64`, make the first binary number, which is then multiplied or divided by the binary number
  nearest to a power of ten.  A result that is too large spoils the number.

  Values: arrays and objects nest at most 127 deep; of two members with one key the later counts.
-/

namespace SinkCheck.Json

/-! ## Strings -/

/-- The character of two surrogates. -/
def paired (high low : Nat) : Char := Char.ofNat (0x10000 + (high - 0xD800) * 0x400 + (low - 0xDC00))

/-- The bytes of the parts of a string. -/
def bytes? : List Part → Option (List UInt8)
  | [] => some []
  | .byte b :: ps => (bytes? ps).map (b :: ·)
  | .unit high :: .unit low :: ps =>
    if 0xD800 ≤ high ∧ high < 0xDC00 then
      if 0xDC00 ≤ low ∧ low < 0xE000 then
        (bytes? ps).map (String.utf8EncodeChar (paired high low) ++ ·)
      else none
    else if 0xDC00 ≤ high ∧ high < 0xE000 then none
    else (bytes? (.unit low :: ps)).map (String.utf8EncodeChar (Char.ofNat high) ++ ·)
  | .unit n :: ps =>
    if 0xD800 ≤ n ∧ n < 0xE000 then none
    else (bytes? ps).map (String.utf8EncodeChar (Char.ofNat n) ++ ·)

/-- The text of the parts of a string. -/
def text? (parts : List Part) : Option String :=
  (bytes? parts).bind fun bytes => String.fromUTF8? ⟨bytes.toArray⟩

/-! ## Numbers -/

/-- Append digits to a number while it stays below `2 ^ 64`; the digits from the first misfit on are
left over. -/
def gather (n : Nat) : List Char → Nat × List Char
  | [] => (n, [])
  | c :: ds =>
    let m := 10 * n + Text.digitValue c
    if m < 2 ^ 64 then gather m ds else (n, c :: ds)

/-- The binary number nearest to `10 ^ k`. -/
def tenPower (k : Nat) : Decimal.Magnitude := (Decimal.Magnitude.ofNat (10 ^ k)).getD .zero

/-- Divide by `10 ^ k`, by `10 ^ 308` at a time. -/
def divideByTen (a : Decimal.Magnitude) (k : Nat) : Option Decimal.Magnitude :=
  if k ≤ 308 then a.div (tenPower k)
  else if a.isZero then some a
  else
    match a.div (tenPower 308) with
    | none => none
    | some b => divideByTen b (k - 308)
termination_by k

/-- The magnitude of `m` times ten to `e`: `m` is rounded first, then the product or quotient. -/
def scaleByTen (m : Nat) (e : Int) : Option Decimal.Magnitude :=
  match Decimal.Magnitude.ofNat m with
  | none => none
  | some a =>
    if e < 0 then divideByTen a e.natAbs
    else if 308 < e then (if a.isZero then some a else none)
    else a.mul (tenPower e.toNat)

/-- The magnitude of a numeral with a point, an exponent, or too many digits. -/
def Spelling.magnitude? (s : Spelling) : Option Decimal.Magnitude :=
  let (m, excess) := gather 0 s.whole
  let (m, e) : Nat × Int := match s.fraction with
    | none => (m, excess.length)
    | some ds =>
      let (m, rest) := gather m ds
      (m, (excess.length : Int) - (ds.length - rest.length : Nat))
  let shift : Int := match s.exponent with
    | none => 0
    | some (negative, ds) => if negative then -(Text.digitsValue ds : Int) else Text.digitsValue ds
  if m = 0 then some .zero else scaleByTen m (e + shift)

/-- The number of a numeral. -/
def Spelling.number? (s : Spelling) : Option Number :=
  let n := Text.digitsValue s.whole
  let plain := s.fraction.isNone && s.exponent.isNone
  if plain ∧ ¬s.negative ∧ n < 2 ^ 64 then some (.integer n)
  else if plain ∧ s.negative ∧ 0 < n ∧ n ≤ 2 ^ 63 then some (.integer (-n))
  else s.magnitude?.map fun m => .binary ⟨s.negative, m⟩

/-! ## Values -/

mutual

/-- The value of a written JSON text, if it nests at most `levels` deep. -/
def Written.read? (levels : Nat) : Written → Option Json
  | .null => some .null
  | .bool b => some (.bool b)
  | .number s => s.number?.map .number
  | .string ps => (text? ps).map .string
  | .array items =>
    match levels with
    | 0 => none
    | below + 1 => (Written.readItems? below items).map .array
  | .object members =>
    match levels with
    | 0 => none
    | below + 1 => (Written.readMembers? below members).map fun ms => .object (Keyed.ofList ms)

/-- The values of the items of an array. -/
def Written.readItems? (levels : Nat) : List Written → Option (List Json)
  | [] => some []
  | w :: ws => do
    let v ← Written.read? levels w
    let vs ← Written.readItems? levels ws
    some (v :: vs)

/-- The members of an object, in the order in which they are written. -/
def Written.readMembers? (levels : Nat) : List (List Part × Written) → Option (List (String × Json))
  | [] => some []
  | (key, w) :: ws => do
    let key ← text? key
    let v ← Written.read? levels w
    let vs ← Written.readMembers? levels ws
    some ((key, v) :: vs)

end

/-- How deep values may nest. -/
def maxDepth : Nat := 127

/-- The value of a JSON text. -/
def parse? (text : String) : Option Json := (Written.ofText? text).bind (Written.read? maxDepth)

end SinkCheck.Json
