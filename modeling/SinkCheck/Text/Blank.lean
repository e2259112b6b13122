/-
  Blank characters and trimming.

  A character is *blank* when it has the Unicode property White_Space: twenty-five code points, among
  them the no-break space and the ideographic space, but not the zero-width ones.  Every text setting
  is trimmed of blanks at both ends before it is read.
-/

namespace SinkCheck.Text

/-! ## The property -/

/-- The Unicode property White_Space. -/
def isBlank (c : Char) : Bool :=
  let n := c.toNat
  (0x9 ≤ n && n ≤ 0xD) || n == 0x20 || n == 0x85 || n == 0xA0 || n == 0x1680 ||
  (0x2000 ≤ n && n ≤ 0x200A) || n == 0x2028 || n == 0x2029 || n == 0x202F || n == 0x205F ||
  n == 0x3000

/-! ## Trimming -/

/-- Drop the blanks at the front. -/
def trimFront (s : List Char) : List Char := s.dropWhile isBlank

/-- Drop the blanks at both ends. -/
def trimChars (s : List Char) : List Char := (trimFront (trimFront s).reverse).reverse

/-- The text without the blanks at its ends. -/
def trim (s : String) : String := String.ofList (trimChars s.toList)

@[simp] theorem toList_trim (s : String) : (trim s).toList = trimChars s.toList := by
  simp [trim]

example : trim "\t a b\u00a0 " = "a b" := by decide +kernel

example : trim "\u200b" = "\u200b" := by decide +kernel

end SinkCheck.Text
