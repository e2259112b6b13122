import SinkCheck.Power
import SinkCheck.Unicode.Decomposition
/-
  Canonical composition (normalization form C).

  A text is decomposed canonically, the marks between two starters are put in the order of their
  combining classes, and then each starter takes up the marks and starters that compose with it.
  The syllables of Hangul decompose and compose by arithmetic on their code points.
-/

namespace SinkCheck.Unicode

/-! ## Decomposing -/

/-- The full canonical decomposition of a code point. -/
def decompose (c : Nat) : List Nat :=
  if 0xAC00 ≤ c ∧ c ≤ 0xD7A3 then
    let s := c - 0xAC00
    let lead := 0x1100 + s / 588
    let vowel := 0x1161 + s % 588 / 28
    if s % 28 = 0 then [lead, vowel] else [lead, vowel, 0x11A7 + s % 28]
  else match decompositions.at? c with
    | some row => row.toList.drop 1
    | none => [c]

/-- The canonical combining class; 0 for a starter. -/
def combiningClass (c : Nat) : Nat :=
  match combiningClasses.run? c with
  | some row => row.getD 2 0
  | none => 0

/-! ## Ordering the marks -/

/-- Put a mark in front of marks that are in order, behind those of a smaller class.  The marks come
from right to left, so equal classes keep their order. -/
def insertMark (c : Nat) : List Nat → List Nat
  | [] => [c]
  | d :: rest =>
    if 0 < combiningClass d ∧ combiningClass d < combiningClass c then d :: insertMark c rest
    else c :: d :: rest

/-- Every run of marks in the order of the combining classes. -/
def orderMarks : List Nat → List Nat
  | [] => []
  | c :: rest => if combiningClass c = 0 then c :: orderMarks rest else insertMark c (orderMarks rest)

/-! ## Composing -/

/-- What two code points compose to. -/
def compose? (a b : Nat) : Option Nat :=
  if 0x1100 ≤ a ∧ a < 0x1113 ∧ 0x1161 ≤ b ∧ b < 0x1176 then
    some (0xAC00 + ((a - 0x1100) * 21 + (b - 0x1161)) * 28)
  else if 0xAC00 ≤ a ∧ a ≤ 0xD7A3 ∧ (a - 0xAC00) % 28 = 0 ∧ 0x11A7 < b ∧ b < 0x11C3 then
    some (a + (b - 0x11A7))
  else (compositions.at? (2 ^ 21 * a + b)).map fun row => row.getD 1 0

/-- Compose what follows a starter.  `kept` are the marks, last first, that stay between the starter
and the code point at hand, and `last` is the class of the latest of them; a kept mark blocks what is not
of a greater class. -/
def composeFrom (starter : Nat) (kept : List Nat) (last : Nat) : List Nat → List Nat
  | [] => starter :: kept.reverse
  | c :: rest =>
    let k := combiningClass c
    let blocked := !kept.isEmpty && decide (k ≤ last)
    match if blocked then none else compose? starter c with
    | some d => composeFrom d kept last rest
    | none =>
      if k = 0 then starter :: kept.reverse ++ composeFrom c [] 0 rest
      else composeFrom starter (c :: kept) k rest

/-- Compose a text; marks before the first starter stay as they are. -/
def composeAll : List Nat → List Nat
  | [] => []
  | c :: rest => if combiningClass c = 0 then composeFrom c [] 0 rest else c :: composeAll rest

/-- The canonical composition of a text. -/
def composed (s : List Nat) : List Nat := composeAll (orderMarks (s.flatMap decompose))

end SinkCheck.Unicode
