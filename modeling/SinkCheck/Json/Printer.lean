import SinkCheck.Json.Basic
import SinkCheck.Text.Numeral
/-
  Writing JSON.

  Values are written without blanks, members in the order in which the object holds them.  In strings
  only the quote, the backslash and the control characters are escaped.
-/

namespace SinkCheck.Json

/-- Binary numbers from 0.00001 up to `10 ^ 16`, this one excluded, and their negatives are written
plainly, others with a signed exponent. -/
def numberLayout : Decimal.Layout := ⟨-5, 15, "e", "+"⟩

/-- The text of a number. -/
def Number.text : Number → String
  | .integer n => Text.integerText n
  | .binary b => numberLayout.writeBinary b

/-- The text of a truth value. -/
def boolText (b : Bool) : String := if b then "true" else "false"

/-- A hexadecimal digit. -/
def hexDigit (n : Nat) : Char := if n < 10 then Char.ofNat (48 + n) else Char.ofNat (87 + n)

/-- A character inside a string. -/
def escaped (c : Char) : List Char :=
  match c with
  | '"' => ['\\', '"']
  | '\\' => ['\\', '\\']
  | '\x08' => ['\\', 'b']
  | '\t' => ['\\', 't']
  | '\n' => ['\\', 'n']
  | '\x0c' => ['\\', 'f']
  | '\r' => ['\\', 'r']
  | c => if c.toNat < 32 then ['\\', 'u', '0', '0', hexDigit (c.toNat / 16), hexDigit (c.toNat % 16)] else [c]

/-- A string between quotes. -/
def quoted (s : String) : String := String.ofList ('"' :: s.toList.flatMap escaped ++ ['"'])

mutual

/-- The text of a value. -/
def text : Json → String
  | .null => "null"
  | .bool b => boolText b
  | .number n => n.text
  | .string s => quoted s
  | .array items => "[" ++ ",".intercalate (itemTexts items) ++ "]"
  | .object members => "\x7b" ++ ",".intercalate (memberTexts members) ++ "\x7d"

/-- The texts of the items of an array. -/
def itemTexts : List Json → List String
  | [] => []
  | v :: rest => text v :: itemTexts rest

/-- The texts of the members of an object. -/
def memberTexts : List (String × Json) → List String
  | [] => []
  | (k, v) :: rest => (quoted k ++ ":" ++ text v) :: memberTexts rest

end

example : text (.array [.number (.binary ⟨true, .zero⟩), .string "a\n\x01"]) =
    "[-0.0,\"a\\n\\u0001\"]" := by decide +kernel

end SinkCheck.Json
