import SinkCheck.Domain.Label
import SinkCheck.Domain.Punycode
import SinkCheck.Text.Pieces
/-
  Domain names and their ASCII form.

  A name is mapped code point by code point (capitals become small, compatibility characters become
  ordinary ones, some disappear, some are not allowed) and composed; labels written in Punycode are
  read; every label is checked; and each label with a character beyond ASCII is written in Punycode.
  Empty labels are allowed, and no length is checked except that overlong labels are neither read nor
  written.
-/

namespace SinkCheck.Domain

/-- Map a name code point by code point. -/
def mapped? : List Nat → Option (List Nat)
  | [] => some []
  | c :: rest => do
    let image ← match status c with
      | .valid => some [c]
      | .ignored => some []
      | .mapped image => some image
      | .disallowed => none
    let images ← mapped? rest
    some (image ++ images)

/-- The longest text that is read as Punycode. -/
def maxEncoded : Nat := 2000

/-- The longest label that is written in Punycode. -/
def maxDecoded : Nat := 1000

/-- The Unicode form of a mapped label, if it is in order. -/
def label? (label : List Char) : Option (List Nat) :=
  match label with
  | 'x' :: 'n' :: '-' :: '-' :: encoded =>
    if maxEncoded < encoded.length then none
    else (Punycode.decode? encoded).filter fun l => isSettled l && isSound l
  | _ => (some (label.map Char.toNat)).filter isSound

/-- The Unicode forms of the labels of a name. -/
def labels? (name : List Char) : Option (List (List Nat)) := do
  let mapped ← mapped? (name.map Char.toNat)
  let composed := (Unicode.composed mapped).map Char.ofNat
  let labels ← (Text.pieces '.' composed).mapM label?
  if labels.any runsLeft && !labels.all bidiRule then none else some labels

/-- The ASCII form of a label. -/
def asciiLabel? (label : List Nat) : Option (List Char) :=
  if label.any isWide then
    if maxDecoded < label.length then none else some ("xn--".toList ++ Punycode.encode label)
  else some (label.map Char.ofNat)

/-- The ASCII form of a name. -/
def ascii? (name : List Char) : Option (List Char) := do
  let labels ← labels? name
  let written ← labels.mapM asciiLabel?
  some (Text.joinPieces '.' written)

end SinkCheck.Domain
