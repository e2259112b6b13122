/-
  Base 64.

  Three bytes make four characters; a last group of one or two bytes is filled up with `=`.
-/

namespace SinkCheck.Http.Base64

/-- The character of a number below 64. -/
def digit (n : Nat) : Char :=
  if n < 26 then Char.ofNat (65 + n)
  else if n < 52 then Char.ofNat (71 + n)
  else if n < 62 then Char.ofNat (n - 4)
  else if n = 62 then '+'
  else '/'

/-- The characters of a row of bytes. -/
def encode : List UInt8 → List Char
  | [] => []
  | [a] =>
    let n := a.toNat * 16
    [digit (n / 64), digit (n % 64), '=', '=']
  | [a, b] =>
    let n := (a.toNat * 256 + b.toNat) * 4
    [digit (n / 4096), digit (n / 64 % 64), digit (n % 64), '=']
  | a :: b :: c :: rest =>
    let n := (a.toNat * 256 + b.toNat) * 256 + c.toNat
    digit (n / 262144) :: digit (n / 4096 % 64) :: digit (n / 64 % 64) :: digit (n % 64) ::
      encode rest

/-- The text of a row of bytes in UTF-8. -/
def encodeText (s : String) : String := String.ofList (encode s.toUTF8.data.toList)

example : encodeText "elastic:secret" = "ZWxhc3RpYzpzZWNyZXQ=" := by decide +kernel

example : encodeText "ü:" = "w7w6" := by decide +kernel

end SinkCheck.Http.Base64
