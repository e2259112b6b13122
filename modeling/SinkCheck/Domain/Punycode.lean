/-
  Punycode.

  The code points of a label beyond ASCII are written, in increasing order, as the numbers of
  insertion steps between one and the next; each number is spelled in base 36 with the least digit
  first, and a digit below the current threshold ends it.  The thresholds follow a bias that adapts
  to the numbers met so far.

  Every loop has a measure: a spelled number shrinks because thresholds lie between 1 and 26, and
  reading shortens the text.
-/

namespace SinkCheck.Domain.Punycode

/-! ## Digits, thresholds and the bias -/

/-- The character of a digit: `a` to `z`, then `0` to `9`. -/
def digitChar (d : Nat) : Char := if d < 26 then Char.ofNat (97 + d) else Char.ofNat (22 + d)

/-- The digit of a character. -/
def digit? (c : Char) : Option Nat :=
  if 'a' ≤ c ∧ c ≤ 'z' then some (c.toNat - 97)
  else if 'A' ≤ c ∧ c ≤ 'Z' then some (c.toNat - 65)
  else if '0' ≤ c ∧ c ≤ '9' then some (c.toNat - 22)
  else none

/-- The threshold of the digit at position `k` (counted in steps of 36). -/
def threshold (k bias : Nat) : Nat := if k ≤ bias then 1 else min 26 (k - bias)

theorem one_le_threshold (k bias : Nat) : 1 ≤ threshold k bias := by
  unfold threshold
  split <;> omega

/-- Divide a delta by 35 until it is at most 455, counting positions. -/
def settle (delta k : Nat) : Nat × Nat := if 455 < delta then settle (delta / 35) (k + 36) else (delta, k)
termination_by delta
decreasing_by exact Nat.div_lt_self (by omega) (by omega)

/-- The bias after a delta, once `count` code points are placed. -/
def adapt (delta count : Nat) (first : Bool) : Nat :=
  let d := if first then delta / 700 else delta / 2
  let (d, k) := settle (d + d / count) 0
  k + 36 * d / (d + 38)

/-! ## Writing -/

/-- The spelling of a number from position `k` on. -/
def numberChars (bias k n : Nat) : List Char :=
  let t := threshold k bias
  if n < t then [digitChar n]
  else digitChar (t + (n - t) % (36 - t)) :: numberChars bias (k + 36) ((n - t) / (36 - t))
termination_by n
decreasing_by
  have h1 := one_le_threshold k bias
  have h2 := Nat.div_le_self (n - threshold k bias) (36 - threshold k bias)
  omega

/-- What writing goes through: the delta since the last number, the bias, and the code points placed. -/
structure Writing where
  delta : Nat
  bias : Nat
  placed : Nat

/-- Pass over the label while the code point `m` is being placed. -/
def place (basic m : Nat) : List Nat → Writing → List Char × Writing
  | [], w => ([], w)
  | c :: rest, w =>
    if c < m then place basic m rest { w with delta := w.delta + 1 }
    else if c = m then
      let spelled := numberChars w.bias 36 w.delta
      let (more, w) := place basic m rest
        ⟨0, adapt w.delta (w.placed + 1) (w.placed == basic), w.placed + 1⟩
      (spelled ++ more, w)
    else place basic m rest w

/-- Place the code points of the list, which is increasing, one after the other. -/
def placeAll (label : List Nat) (basic : Nat) : List Nat → (next : Nat) → Writing → List Char
  | [], _, _ => []
  | m :: more, next, w =>
    let (spelled, w) := place basic m label { w with delta := w.delta + (m - next) * (w.placed + 1) }
    spelled ++ placeAll label basic more (m + 1) { w with delta := w.delta + 1 }

/-- The Punycode of a label. -/
def encode (label : List Nat) : List Char :=
  let basic := label.filter (· < 128)
  let others := (label.filter (128 ≤ ·)).mergeSort.eraseReps
  let front := basic.map Char.ofNat ++ (if basic.isEmpty then [] else ['-'])
  front ++ placeAll label basic.length others 128 ⟨0, 72, basic.length⟩

/-! ## Reading -/

/-- A number spelled at the front of the text, added to `sum` with the given weight, and the rest. -/
def number? (bias : Nat) : (s : List Char) → (k weight sum : Nat) →
    Option (Nat × { r : List Char // r.length < s.length })
  | [], _, _, _ => none
  | c :: s, k, weight, sum =>
    (digit? c).bind fun d =>
      let t := threshold k bias
      if d < t then some (sum + d * weight, ⟨s, Nat.lt_add_one _⟩)
      else (number? bias s (k + 36) (weight * (36 - t)) (sum + d * weight)).map
        fun (n, r) => (n, ⟨r.1, Nat.lt_succ_of_lt r.2⟩)

/-- Insert the code points spelled in the text; no surrogate and nothing beyond Unicode. -/
def insertAll (s : List Char) (next position bias : Nat) (label : List Nat) : Option (List Nat) :=
  if s.isEmpty then some label
  else
    match number? bias s 36 1 position with
    | none => none
    | some (i, r) =>
      let count := label.length + 1
      let c := next + i / count
      if c < 0xD800 ∨ (0xDFFF < c ∧ c ≤ 0x10FFFF) then
        insertAll r.1 c (i % count + 1) (adapt (i - position) count (position == 0))
          (label.insertIdx (i % count) c)
      else none
termination_by s.length
decreasing_by exact r.2

/-- The label of a Punycode text: what stands before the last hyphen is taken as it is, and has to be
something. -/
def decode? (s : List Char) : Option (List Nat) :=
  let tail := (s.reverse.takeWhile (· ≠ '-')).reverse
  let front := s.take (s.length - tail.length - 1)
  if front.isEmpty && tail.length < s.length then none
  else if front.all (·.toNat < 128) then insertAll tail 128 0 72 (front.map Char.toNat)
  else none

example : encode ("bücher".toList.map Char.toNat) = "bcher-kva".toList := by decide +kernel

example : decode? "bcher-kva".toList = some ("bücher".toList.map Char.toNat) := by decide +kernel

example : decode? "-kva".toList = none := by decide +kernel

end SinkCheck.Domain.Punycode
