import SinkCheck.Text.Numeral
import SinkCheck.Text.Pieces
/-
  Versions.

  A version is read as segments between dots, dots at its end not counting.  The number of a segment
  stands in front of its first hyphen.  Two versions are compared segment by segment until two numbers
  differ; where one version runs out first, the longer one is the newer.

  Numbers are only asked for as far as the comparison goes, so a segment that has none matters only if
  it is reached.
-/

namespace SinkCheck.Version

/-- A segment without a number, and the version in which it stands. -/
structure InvalidSegment where
  version : String
  segment : String
  deriving Repr, DecidableEq

/-- The wording of the fault. -/
def InvalidSegment.message (e : InvalidSegment) : String :=
  "Invalid version segment '" ++ e.segment ++ "' in '" ++ e.version ++ "'"

/-! ## Segments -/

/-- The version without the dots at its end. -/
def withoutTrailingDots (s : List Char) : List Char := (s.reverse.dropWhile (· = '.')).reverse

/-- The segments of a version. -/
def segments (version : String) : List (List Char) :=
  Text.pieces '.' (withoutTrailingDots version.toList)

/-- The number of a segment; it fits 64 bits. -/
def segmentNumber? (segment : List Char) : Option Nat :=
  (Text.unsigned? (segment.takeWhile (· ≠ '-'))).filter (· < 2 ^ 64)

/-! ## Comparison -/

/-- The number of a segment of the given version. -/
def segmentNumber (version : String) (segment : List Char) : Except InvalidSegment Nat :=
  match segmentNumber? segment with
  | some n => .ok n
  | none => .error ⟨version, String.ofList segment⟩

/-- Compare segments of the versions `a` and `b`. -/
def compareSegments (a b : String) : List (List Char) → List (List Char) →
    Except InvalidSegment Ordering
  | [], [] => .ok .eq
  | [], _ :: _ => .ok .lt
  | _ :: _, [] => .ok .gt
  | l :: ls, r :: rs =>
    match segmentNumber a l, segmentNumber b r with
    | .error e, _ => .error e
    | .ok _, .error e => .error e
    | .ok m, .ok n => match Ord.compare m n with
      | .eq => compareSegments a b ls rs
      | o => .ok o

/-- Compare two versions. -/
def compare (a b : String) : Except InvalidSegment Ordering :=
  compareSegments a b (segments a) (segments b)

/-- Is a version older than another? -/
def isOlder (version minimum : String) : Except InvalidSegment Bool :=
  match compare version minimum with
  | .ok o => .ok (o == .lt)
  | .error e => .error e

example : (compare "1.2.3-rc.1" "1.2.3.").toOption = some .gt := by decide +kernel

example : (compare "7.x" "8.y").toOption = some .lt := by decide +kernel

example : compare "7.x" "7.1" = .error ⟨"7.x", "x"⟩ := by cbv

/-! ## The versions that matter -/

/-- The oldest service that knows data streams. -/
def dataStreamMinimum : String := "1.2.0"

/-- The oldest service that the connector can write to. -/
def connectorMinimum : String := "1.2.0"

/-- The version of the connector. -/
def connector : String := "0.1.0"

/-- The version of this library. -/
def library : String := "0.1.0"

end SinkCheck.Version
