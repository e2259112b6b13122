import SinkCheck.Domain.MappingTable
import SinkCheck.Unicode.Categories
import SinkCheck.Unicode.Composed
/-
  Labels of domain names.

  A label in Unicode is in order when each of its code points is valid, it is canonically composed, it
  does not start with a mark, and every joiner in it has the surroundings that its script asks for.
  If any label of a name runs from right to left, all labels have to obey the bidi rule.
-/

namespace SinkCheck.Domain

open SinkCheck.Unicode

/-! ## Single code points -/

/-- What the mapping table does with a code point. -/
inductive Status where
  | valid
  | ignored
  | mapped (image : List Nat)
  | disallowed
  deriving Repr, DecidableEq

/-- The status of a code point. -/
def status (c : Nat) : Status :=
  if (disallowedRuns.run? c).isSome then .disallowed
  else if (ignoredRuns.run? c).isSome then .ignored
  else match mappedRuns.run? c with
    | some row =>
      let first := row.getD 0 0
      if (c - first) % row.getD 2 1 = 0 then .mapped [row.getD 3 0 + (c - first)] else single
    | none => single
where
  /-- The status by the table of single code points. -/
  single : Status :=
    match mappedSingles.at? c with
    | some row => .mapped (row.toList.drop 1)
    | none => .valid

/-- The ASCII characters that no host can hold: blanks, controls, and the delimiters of an address. -/
def isForbidden (c : Nat) : Bool :=
  c ≤ 0x20 || c == 0x7F || ("%#/:<>?@[\\]^|".toList.map Char.toNat).contains c

/-- Is the code point beyond ASCII? -/
def isWide (c : Nat) : Bool := 128 ≤ c

/-! ## Joiners -/

/-- The joining type: 1 dual, 2 left, 3 right, 4 transparent, 0 none. -/
def joiningType (c : Nat) : Nat := match joiningRuns.run? c with
  | some row => row.getD 2 0
  | none => 0

/-- The joining type of the first code point that is not transparent. -/
def firstJoining (s : List Nat) : Nat :=
  match s.dropWhile fun c => joiningType c == 4 with
  | [] => 0
  | c :: _ => joiningType c

/-- Is the code point in front, the first of `before`, a virama? -/
def afterVirama (before : List Nat) : Bool := before.head?.any fun c => combiningClass c == 9

/-- Every joiner of `rest` has its surroundings, `before` being what precedes `rest` from right to
left.  A joiner follows a virama; a non-joiner may also stand between letters that would join. -/
def joinersFit (before : List Nat) : List Nat → Bool
  | [] => true
  | c :: rest =>
    let fits :=
      if c = 0x200C then
        afterVirama before ||
          ((firstJoining before == 1 || firstJoining before == 2) &&
            (firstJoining rest == 1 || firstJoining rest == 3))
      else if c = 0x200D then afterVirama before
      else true
    fits && joinersFit (c :: before) rest

/-! ## Direction -/

/-- The bidirectional classes that the rule for labels names. -/
inductive BidiClass where
  | L | R | AL | AN | EN | ES | CS | ET | ON | BN | NSM | other
  deriving Repr, DecidableEq

/-- The bidirectional class of a code point. -/
def bidiClass (c : Nat) : BidiClass :=
  match bidiRuns.run? c with
  | none => .L
  | some row => match row.getD 2 0 with
    | 1 => .R | 2 => .AL | 3 => .AN | 4 => .EN | 5 => .ES | 6 => .CS | 7 => .ET | 8 => .ON
    | 9 => .BN | 10 => .NSM | _ => .other

/-- Does a label hold anything that runs from right to left? -/
def runsLeft (label : List Nat) : Bool :=
  label.any fun c => bidiClass c ∈ [.R, .AL, .AN]

/-- The bidi rule for one label. -/
def bidiRule (label : List Nat) : Bool :=
  let classes := label.map bidiClass
  let last := (classes.reverse.dropWhile (· == .NSM)).head?
  match classes with
  | [] => true
  | .L :: _ =>
    classes.all (· ∈ [.L, .EN, .ES, .CS, .ET, .ON, .BN, .NSM]) && last.any (· ∈ [.L, .EN])
  | first :: _ =>
    first ∈ [.R, .AL] &&
    classes.all (· ∈ [.R, .AL, .AN, .EN, .ES, .CS, .ET, .ON, .BN, .NSM]) &&
    last.any (· ∈ [.R, .AL, .EN, .AN]) && !(classes.contains .EN && classes.contains .AN)

/-! ## Labels -/

/-- Is the code point a mark? -/
def isMark (c : Nat) : Bool := (markRuns.run? c).isSome

/-- The conditions on a label that hold whichever way it was written. -/
def isSound (label : List Nat) : Bool :=
  !(label.head?.any isMark) && joinersFit [] label && !(label.any isForbidden)

/-- The conditions on a label that was written in Punycode: it needed to be, and mapping it would
change nothing. -/
def isSettled (label : List Nat) : Bool :=
  label.any isWide && !(label.contains 0x2E) && label.all (status · == .valid) &&
    composed label == label

end SinkCheck.Domain
