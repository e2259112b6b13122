import SinkCheck.Text.Pieces
import SinkCheck.Text.Numeral
/-
  IPv4 addresses as hosts.

  A host is an IPv4 address when its last label is a number, and then it has to be one: up to four
  numbers between dots, decimal, octal with a leading zero, or hexadecimal behind `0x`.  Each number
  but the last fills one byte, and the last all bytes that are left.  One dot may follow.
-/

namespace SinkCheck.Url.Ipv4

/-- The value of a digit in the given base. -/
def digit? (base : Nat) (c : Char) : Option Nat :=
  let v? :=
    if '0' ≤ c ∧ c ≤ '9' then some (c.toNat - 48)
    else if 'a' ≤ c ∧ c ≤ 'f' then some (c.toNat - 87)
    else if 'A' ≤ c ∧ c ≤ 'F' then some (c.toNat - 55)
    else none
  v?.filter (· < base)

/-- The value of a row of digits. -/
def digits? (base : Nat) (s : List Char) : Option Nat :=
  s.foldlM (fun n c => (digit? base c).map (base * n + ·)) 0

/-- The number of a label; `0x` alone is zero. -/
def number? : List Char → Option Nat
  | [] => none
  | '0' :: 'x' :: s => digits? 16 s
  | '0' :: 'X' :: s => digits? 16 s
  | ['0'] => some 0
  | '0' :: s => digits? 8 s
  | s => digits? 10 s

/-- The labels of a host without the empty one behind a final dot. -/
def parts (host : List Char) : List (List Char) :=
  let all := Text.pieces '.' host
  if all.getLast? = some [] then all.dropLast else all

/-- Is the last label of the host a number, or a row of decimal digits? -/
def endsInNumber (host : List Char) : Bool :=
  match (parts host).getLast? with
  | none => false
  | some l => (!l.isEmpty && l.all Text.isDigit) || (number? l).isSome

/-- Put bytes in front of the rest of an address, which fills `left` bytes. -/
def assemble? : (left : Nat) → List Nat → Option Nat
  | _, [] => none
  | left, [n] => if n < 256 ^ left then some n else none
  | left, n :: rest => if n < 256 then (assemble? (left - 1) rest).map (n * 256 ^ (left - 1) + ·) else none

/-- The address of a host. -/
def parse? (host : List Char) : Option Nat := do
  let labels := parts host
  if 4 < labels.length then none
  else
    let numbers ← labels.mapM number?
    assemble? 4 numbers

/-- The four bytes between dots. -/
def text (a : Nat) : List Char :=
  let byte (k : Nat) : List Char := (a / 256 ^ k % 256).repr.toList
  byte 3 ++ '.' :: byte 2 ++ '.' :: byte 1 ++ '.' :: byte 0

example : (parse? "0x7f.1".toList).map text = some "127.0.0.1".toList := by decide +kernel

example : parse? "1.2.3.400".toList = none := by decide +kernel

end SinkCheck.Url.Ipv4
