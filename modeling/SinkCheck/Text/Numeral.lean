import SinkCheck.Power
/-
  Decimal numerals.

  A natural numeral is one or more ASCII digits, leading zeros included; a signed numeral has one
  optional `+` or `-` in front of it.  Nothing else is a numeral: no blank, no separator, no digit of
  another script.  Numerals are read into unbounded numbers, so a range is a question asked
  afterwards.
-/

namespace SinkCheck.Text

/-- An ASCII digit. -/
def isDigit (c : Char) : Bool := '0' ≤ c && c ≤ '9'

/-- The number that a digit stands for. -/
def digitValue (c : Char) : Nat := c.toNat - '0'.toNat

/-- The number that a row of digits denotes, the first digit counting most. -/
def digitsValue (s : List Char) : Nat := s.foldl (fun n c => 10 * n + digitValue c) 0

/-- The number of a natural numeral. -/
def natural? (s : List Char) : Option Nat :=
  if s ≠ [] ∧ s.all isDigit then some (digitsValue s) else none

/-- The number of a natural numeral with an optional `+`. -/
def unsigned? : List Char → Option Nat
  | '+' :: s => natural? s
  | s => natural? s

/-- The number of a signed numeral. -/
def integer? : List Char → Option Int
  | '-' :: s => (natural? s).map fun n => -(n : Int)
  | '+' :: s => (natural? s).map fun n => (n : Int)
  | s => (natural? s).map fun n => (n : Int)

/-- A natural numeral is a non-empty row of digits and denotes their value. -/
theorem natural?_eq_some_iff {s : List Char} {n : Nat} :
    natural? s = some n ↔ s ≠ [] ∧ (∀ c ∈ s, isDigit c = true) ∧ digitsValue s = n := by
  simp only [natural?, List.all_eq_true]
  split
  · next h => exact ⟨fun e => ⟨h.1, h.2, Option.some.inj e⟩, fun g => congrArg some g.2.2⟩
  · next h => simp only [reduceCtorEq, false_iff]; exact fun g => h ⟨g.1, g.2.1⟩

/-- A numeral without a minus sign is a natural numeral with a plus sign or none in front of it. -/
theorem unsigned?_eq_some_iff {s : List Char} {n : Nat} :
    unsigned? s = some n ↔
      ∃ sign digits, s = sign ++ digits ∧ (sign = [] ∨ sign = ['+']) ∧ natural? digits = some n := by
  unfold unsigned?
  split
  · next t =>
    refine ⟨fun h => ⟨['+'], t, rfl, Or.inr rfl, h⟩, ?_⟩
    rintro ⟨sign, digits, hs, rfl | rfl, h⟩
    · -- a plus sign is no digit
      subst hs
      cases (natural?_eq_some_iff.mp h).2.1 '+' List.mem_cons_self
    · cases hs
      exact h
  · next hplus =>
    refine ⟨fun h => ⟨[], s, rfl, Or.inl rfl, h⟩, ?_⟩
    rintro ⟨sign, digits, rfl, rfl | rfl, h⟩
    · exact h
    · exact absurd rfl (hplus digits)

/-- The text of an integer: no leading zeros, a sign only below zero. -/
def integerText (n : Int) : String := if n < 0 then "-" ++ n.natAbs.repr else n.natAbs.repr

example : integerText (-70) = "-70" := by decide +kernel

example : integer? "-0".toList = some 0 := by decide

example : integer? "+007".toList = some 7 := by decide

example : integer? "+-1".toList = none := by decide

example : unsigned? "-1".toList = none := by decide

end SinkCheck.Text
