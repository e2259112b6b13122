import SinkCheck.Text.Numeral
/-
  JSON as it is written.

  `Written` is what the grammar of JSON alone says of a text: numerals and strings are kept in their
  spelling.  Whether a numeral is in range, whether the bytes and the escapes of a string make
  characters and how deep values nest is asked only of the parts that somebody reads, so a member that
  nobody wants may hold anything that is spelled correctly.

  JSON is read byte by byte, each byte as the character of its number, for the grammar has no sign
  beyond ASCII: other bytes stand inside strings only.

  Each reader answers with the rest of the text together with a proof that the rest is shorter; that
  is the measure by which reading ends.
-/

namespace SinkCheck.Json

/-- The spelling of a number: sign, digits, digits after the point, sign and digits of the exponent. -/
structure Spelling where
  negative : Bool
  whole : List Char
  fraction : Option (List Char)
  exponent : Option (Bool × List Char)
  deriving Repr

/-- A part of a string: a byte, or a 16-bit unit given by a `\u` escape. -/
inductive Part where
  | byte (b : UInt8)
  | unit (n : Nat)
  deriving Repr, DecidableEq

/-- A JSON text, not yet understood. -/
inductive Written where
  | null
  | bool (value : Bool)
  | number (spelling : Spelling)
  | string (parts : List Part)
  | array (items : List Written)
  | object (members : List (List Part × Written))
  deriving Repr

namespace Written

open SinkCheck.Text (isDigit)

/-- What is left of `s` once something was read from it. -/
abbrev Rest (s : List Char) := { r : List Char // r.length < s.length }

/-- What is left of `s` once something, or nothing, was read from it. -/
abbrev Left (s : List Char) := { r : List Char // r.length ≤ s.length }

/-! ## Blanks and words -/

/-- The four characters that may stand between tokens. -/
def isGap (c : Char) : Bool := c == ' ' || c == '\t' || c == '\n' || c == '\r'

/-- The text after its leading gap. -/
def skipGap : (s : List Char) → Left s
  | [] => ⟨[], Nat.le_refl _⟩
  | c :: s =>
    if isGap c then
      let r := skipGap s
      ⟨r.1, Nat.le_succ_of_le r.2⟩
    else ⟨c :: s, Nat.le_refl _⟩

/-- The text after the given word. -/
def skipWord : (word s : List Char) → Option (Left s)
  | [], s => some ⟨s, Nat.le_refl _⟩
  | w :: ws, c :: s =>
    if w = c then (skipWord ws s).map fun r => ⟨r.1, Nat.le_succ_of_le r.2⟩ else none
  | _ :: _, [] => none

/-! ## Numbers -/

/-- The longest row of digits at the front, and what follows it. -/
def digits : (s : List Char) → List Char × Left s
  | [] => ([], ⟨[], Nat.le_refl _⟩)
  | c :: s =>
    if isDigit c then
      let (ds, r) := digits s
      (c :: ds, ⟨r.1, Nat.le_succ_of_le r.2⟩)
    else ([], ⟨c :: s, Nat.le_refl _⟩)

/-- The digits after a point, if a point comes next; there must be one at least. -/
def fraction? (s : List Char) : Option (Option (List Char) × Left s) :=
  match s with
  | '.' :: t =>
    match digits t with
    | ([], _) => none
    | (ds, r) => some (some ds, ⟨r.1, Nat.le_succ_of_le r.2⟩)
  | s => some (none, ⟨s, Nat.le_refl _⟩)

/-- The digits of an exponent after its mark and sign; there must be one at least. -/
def exponentDigits? (negative : Bool) (s : List Char) :
    Option (Option (Bool × List Char) × Left s) :=
  match digits s with
  | ([], _) => none
  | (ds, r) => some (some (negative, ds), r)

/-- The exponent, if a mark comes next. -/
def exponent? (s : List Char) : Option (Option (Bool × List Char) × Left s) :=
  match s with
  | [] => some (none, ⟨[], Nat.le_refl _⟩)
  | c :: t =>
    if c = 'e' ∨ c = 'E' then
      match t with
      | '+' :: u => (exponentDigits? false u).map fun (e, r) => (e, ⟨r.1, by have := r.2; simp; omega⟩)
      | '-' :: u => (exponentDigits? true u).map fun (e, r) => (e, ⟨r.1, by have := r.2; simp; omega⟩)
      | u => (exponentDigits? false u).map fun (e, r) => (e, ⟨r.1, Nat.le_succ_of_le r.2⟩)
    else some (none, ⟨c :: t, Nat.le_refl _⟩)

/-- A number without its sign: no leading zero, then fraction and exponent. -/
def unsigned? (negative : Bool) (s : List Char) : Option (Spelling × Rest s) :=
  match s with
  | [] => none
  | c :: t =>
    if isDigit c then
      let (more, r) : List Char × Left t := if c = '0' then ([], ⟨t, Nat.le_refl _⟩) else digits t
      match r.1, r.2 with
      | r₁, h₁ =>
        match fraction? r₁ with
        | none => none
        | some (f, r₂) =>
          match exponent? r₂.1 with
          | none => none
          | some (e, r₃) =>
            if r₃.1.head?.any isDigit then none
            else some (⟨negative, c :: more, f, e⟩,
              ⟨r₃.1, by have h₂ := r₂.2; have h₃ := r₃.2; simp; omega⟩)
    else none

/-- A number. -/
def number? (s : List Char) : Option (Spelling × Rest s) :=
  match s with
  | '-' :: t => (unsigned? true t).map fun (n, r) => (n, ⟨r.1, Nat.lt_succ_of_lt r.2⟩)
  | s => unsigned? false s

/-! ## Strings -/

/-- The value of a hexadecimal digit. -/
def hex? (c : Char) : Option Nat :=
  if '0' ≤ c ∧ c ≤ '9' then some (c.toNat - 48)
  else if 'a' ≤ c ∧ c ≤ 'f' then some (c.toNat - 87)
  else if 'A' ≤ c ∧ c ≤ 'F' then some (c.toNat - 55)
  else none

/-- The character behind a one-letter escape. -/
def escape? : Char → Option Char
  | '"' => some '"'
  | '\\' => some '\\'
  | '/' => some '/'
  | 'b' => some '\x08'
  | 'f' => some '\x0c'
  | 'n' => some '\n'
  | 'r' => some '\r'
  | 't' => some '\t'
  | _ => none

/-- The 16-bit unit of four hexadecimal digits. -/
def unit? (a b c d : Char) : Option Nat := do
  let a ← hex? a
  let b ← hex? b
  let c ← hex? c
  let d ← hex? d
  some (((a * 16 + b) * 16 + c) * 16 + d)

/-- The parts of a string up to its closing quote; no control character stands in it unescaped. -/
def parts? : (s : List Char) → Option (List Part × Rest s)
  | [] => none
  | '"' :: s => some ([], ⟨s, Nat.lt_succ_self _⟩)
  | '\\' :: 'u' :: a :: b :: c :: d :: s =>
    match unit? a b c d with
    | none => none
    | some n => (parts? s).map fun (ps, r) => (.unit n :: ps, ⟨r.1, by have := r.2; simp; omega⟩)
  | '\\' :: e :: s =>
    match escape? e with
    | none => none
    | some c => (parts? s).map fun (ps, r) =>
      (.byte c.toUInt8 :: ps, ⟨r.1, by have := r.2; simp; omega⟩)
  | c :: s =>
    if c.toNat < 32 ∨ c = '\\' then none
    else (parts? s).map fun (ps, r) =>
      (.byte c.toUInt8 :: ps, ⟨r.1, by have := r.2; simp; omega⟩)

/-! ## Values -/

/-- The next character behind a gap, and what follows it. -/
def next? (s : List Char) : Option (Char × Rest s) :=
  match skipGap s with
  | ⟨[], _⟩ => none
  | ⟨c :: t, h⟩ => some (c, ⟨t, h⟩)

mutual

/-- A value at the front of the text, after its gap. -/
def value? (s : List Char) : Option (Written × Rest s) :=
  match next? s with
  | none => none
  | some (c, ⟨t, h⟩) =>
    match c with
    | '"' => (parts? t).map fun (ps, r) => (.string ps, ⟨r.1, by have := r.2; omega⟩)
    | '[' =>
      match next? t with
      | some (']', ⟨u, hu⟩) => some (.array [], ⟨u, by omega⟩)
      | _ => (items? t).map fun (vs, r) => (.array vs, ⟨r.1, by have := r.2; omega⟩)
    | '\x7b' =>
      match next? t with
      | some ('\x7d', ⟨u, hu⟩) => some (.object [], ⟨u, by omega⟩)
      | _ => (members? t).map fun (ms, r) => (.object ms, ⟨r.1, by have := r.2; omega⟩)
    | 'n' => (skipWord "ull".toList t).map fun r => (.null, ⟨r.1, by have := r.2; omega⟩)
    | 't' => (skipWord "rue".toList t).map fun r => (.bool true, ⟨r.1, by have := r.2; omega⟩)
    | 'f' => (skipWord "alse".toList t).map fun r => (.bool false, ⟨r.1, by have := r.2; omega⟩)
    | _ => (number? (c :: t)).map fun (n, r) => (.number n, ⟨r.1, by have := r.2; simp at this; omega⟩)
termination_by 2 * s.length

/-- One item or more, up to the closing bracket. -/
def items? (s : List Char) : Option (List Written × Rest s) :=
  match value? s with
  | none => none
  | some (v, ⟨r, h⟩) =>
    match next? r with
    | some (',', ⟨t, ht⟩) =>
      (items? t).map fun (vs, u) => (v :: vs, ⟨u.1, by have := u.2; omega⟩)
    | some (']', ⟨t, ht⟩) => some ([v], ⟨t, by omega⟩)
    | _ => none
termination_by 2 * s.length + 1

/-- One member or more, up to the closing brace. -/
def members? (s : List Char) : Option (List (List Part × Written) × Rest s) :=
  match next? s with
  | some ('"', ⟨t, ht⟩) =>
    match parts? t with
    | none => none
    | some (key, ⟨u, hu⟩) =>
      match next? u with
      | some (':', ⟨w, hw⟩) =>
        match value? w with
        | none => none
        | some (v, ⟨r, hr⟩) =>
          match next? r with
          | some (',', ⟨x, hx⟩) =>
            (members? x).map fun (ms, y) =>
              ((key, v) :: ms, ⟨y.1, by have := y.2; omega⟩)
          | some ('\x7d', ⟨x, hx⟩) => some ([(key, v)], ⟨x, by omega⟩)
          | _ => none
      | _ => none
  | _ => none
termination_by 2 * s.length + 1

end

/-- The one value of a row of bytes, with nothing but gaps around it. -/
def ofBytes? (bytes : List UInt8) : Option Written :=
  match value? (bytes.map fun b => Char.ofNat b.toNat) with
  | none => none
  | some (v, r) => if (skipGap r.1).1.isEmpty then some v else none

/-- The one value of a text. -/
def ofText? (text : String) : Option Written := ofBytes? text.toUTF8.data.toList

end Written

end SinkCheck.Json
