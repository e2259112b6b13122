/-
  Percent-encoding.

  A character that an address part cannot hold is written as `%` and two hexadecimal digits for each
  byte of its UTF-8 form.  Which ASCII characters those are depends on the part; characters beyond
  ASCII are always encoded.
-/

namespace SinkCheck.Url

/-! ## What each part encodes -/

/-- A control character of ASCII. -/
def isControl (c : Char) : Bool := c.toNat < 32 || c.toNat == 127

/-- Encoded in a fragment. -/
def inFragment (c : Char) : Bool := isControl c || [' ', '"', '<', '>', '\x60'].contains c

/-- Encoded in a path. -/
def inPath (c : Char) : Bool := inFragment c || ['#', '?', '\x7b', '\x7d'].contains c

/-- Encoded in a user name or a password. -/
def inUserinfo (c : Char) : Bool :=
  inPath c || ['/', ':', ';', '=', '@', '[', '\\', ']', '^', '|'].contains c

/-- Encoded in a query. -/
def inQuery (c : Char) : Bool := isControl c || [' ', '"', '#', '<', '>'].contains c

/-- Encoded in the query of a special scheme. -/
def inSpecialQuery (c : Char) : Bool := inQuery c || c == '\''

/-! ## Encoding -/

/-- A hexadecimal digit in capitals. -/
def hexDigit (n : Nat) : Char := if n < 10 then Char.ofNat (48 + n) else Char.ofNat (55 + n)

/-- An encoded byte. -/
def encodeByte (b : UInt8) : List Char := ['%', hexDigit (b.toNat / 16), hexDigit (b.toNat % 16)]

/-- A text with the characters of the set, and all beyond ASCII, encoded. -/
def encode (set : Char → Bool) (s : List Char) : List Char :=
  s.flatMap fun c =>
    if 128 ≤ c.toNat ∨ set c then (String.utf8EncodeChar c).flatMap encodeByte else [c]

/-! ## Decoding -/

/-- The value of a hexadecimal digit. -/
def hexValue? (c : UInt8) : Option UInt8 :=
  if 48 ≤ c ∧ c ≤ 57 then some (c - 48)
  else if 97 ≤ c ∧ c ≤ 102 then some (c - 87)
  else if 65 ≤ c ∧ c ≤ 70 then some (c - 55)
  else none

/-- The bytes of a text with its encoded bytes decoded; a `%` without two digits stays. -/
def decodeBytes : List UInt8 → List UInt8
  | 37 :: a :: b :: rest =>
    match hexValue? a, hexValue? b with
    | some x, some y => (16 * x + y) :: decodeBytes rest
    | _, _ => 37 :: decodeBytes (a :: b :: rest)
  | c :: rest => c :: decodeBytes rest
  | [] => []

/-- The decoded text, if its bytes are UTF-8. -/
def decode? (s : List Char) : Option (List Char) :=
  let bytes := decodeBytes (String.ofList s).toUTF8.data.toList
  (String.fromUTF8? ⟨bytes.toArray⟩).map String.toList

example : encode inPath "a é".toList = "a%20%C3%A9".toList := by decide +kernel

example : decode? "%C3%a9%zz".toList = some "é%zz".toList := by decide +kernel

end SinkCheck.Url
