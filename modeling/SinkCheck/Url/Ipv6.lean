import SinkCheck.Text.Pieces
/-
  IPv6 addresses as hosts.

  An address is eight groups of up to four hexadecimal digits between colons.  A double colon stands
  for one group of zeros or more, and the last two groups may be given as four decimal bytes between
  dots.
-/

namespace SinkCheck.Url.Ipv6

/-- The value of a hexadecimal digit. -/
def hex? (c : Char) : Option Nat :=
  if '0' ≤ c ∧ c ≤ '9' then some (c.toNat - 48)
  else if 'a' ≤ c ∧ c ≤ 'f' then some (c.toNat - 87)
  else if 'A' ≤ c ∧ c ≤ 'F' then some (c.toNat - 55)
  else none

/-- Up to `most` hexadecimal digits at the front: their value, their number, and the rest. -/
def group : (most : Nat) → (value : Nat) → List Char → Nat × Nat × List Char
  | 0, v, s => (v, 0, s)
  | _, v, [] => (v, 0, [])
  | most + 1, v, c :: s =>
    match hex? c with
    | none => (v, 0, c :: s)
    | some d =>
      let g := group most (16 * v + d) s
      (g.1, g.2.1 + 1, g.2.2)

/-- A decimal byte: one digit or more, no leading zero, at most 255. -/
def byte? : List Char → Option Nat
  | [] => none
  | ['0'] => some 0
  | '0' :: _ => none
  | s => (s.foldlM (fun n c => if '0' ≤ c ∧ c ≤ '9' then some (10 * n + (c.toNat - 48)) else none) 0).filter
      (· < 256)

/-- The two groups of four decimal bytes. -/
def bytes? (s : List Char) : Option (List Nat) :=
  match (Text.pieces '.' s).mapM byte? with
  | some [a, b, c, d] => some [256 * a + b, 256 * c + d]
  | _ => none

/-- The groups of a text in which no double colon is left to come, at most `room` of them. -/
def groups? : (room : Nat) → (s : List Char) → Option (List Nat)
  | 0, _ => none
  | room + 1, s =>
    match group 4 0 s with
    | (_, 0, _) => none
    | (v, _ + 1, r) =>
      match r with
      | [] => some [v]
      | ':' :: t => (groups? room t).map (v :: ·)
      | '.' :: _ => if 1 ≤ room then bytes? s else none
      | _ => none

/-- The groups in front of a double colon and the text behind it; the whole text if there is none. -/
def splitDouble : List Char → List Char × Option (List Char)
  | ':' :: ':' :: s => ([], some s)
  | c :: s =>
    let (front, back) := splitDouble s
    (c :: front, back)
  | [] => ([], none)

/-- Groups, or none at all. -/
def someGroups? (room : Nat) (s : List Char) : Option (List Nat) :=
  if s.isEmpty then some [] else groups? room s

/-- The eight groups of an address. -/
def parse? (s : List Char) : Option (List Nat) :=
  match splitDouble s with
  | (front, none) => (groups? 8 front).filter (·.length == 8)
  | (front, some back) => do
    let before ← (someGroups? 7 front).filter fun _ => !front.contains '.'
    let after ← someGroups? (7 - before.length) back
    some (before ++ List.replicate (8 - before.length - after.length) 0 ++ after)

/-! ## Writing -/

/-- How many zeros stand at the front. -/
def zeros (s : List Nat) : Nat := (s.takeWhile (· == 0)).length

/-- Where the first longest run of two zeros or more begins, and its length; `at_` is the place of the
front. -/
def longestZeros : (at_ : Nat) → List Nat → Nat × Nat
  | _, [] => (0, 0)
  | at_, g :: rest =>
    let (place, n) := longestZeros (at_ + 1) rest
    let here := zeros (g :: rest)
    if 2 ≤ here ∧ n ≤ here then (at_, here) else (place, n)

/-- Groups between colons. -/
def colons (s : List Nat) : List Char := [':'].intercalate (s.map fun g => Nat.toDigits 16 g)

/-- The text of an address. -/
def text (groups : List Nat) : List Char :=
  match longestZeros 0 groups with
  | (_, 0) => colons groups
  | (place, n) => colons (groups.take place) ++ ':' :: ':' :: colons (groups.drop (place + n))

end SinkCheck.Url.Ipv6
