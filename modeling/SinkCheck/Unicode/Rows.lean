/-
  Tables of code points.

  A table is written as one text: its rows are parted by blanks, the numbers of a row by commas, each
  number in hexadecimal.  Rows come in increasing order of their first number, and a code point is
  looked up by halving: the row that could speak of it is the last one that does not start beyond it.
-/

namespace SinkCheck.Unicode

/-- The rows of a table, in increasing order of their first number. -/
structure Rows where
  rows : Array (Array Nat)

namespace Rows

/-- What was read of a table so far: the rows, the numbers of the row begun, and the number begun, if
any. -/
structure Reading where
  rows : Array (Array Nat)
  row : Array Nat
  number : Option Nat

/-- The value of a hexadecimal digit in capitals. -/
def hexValue (c : Char) : Nat := if c.toNat < 65 then c.toNat - 48 else c.toNat - 55

/-- The reading when a number has ended. -/
def Reading.endNumber (r : Reading) : Reading :=
  match r.number with
  | some n => ⟨r.rows, r.row.push n, none⟩
  | none => r

/-- The reading when a row has ended; between two blanks there is no row. -/
def Reading.endRow (r : Reading) : Reading :=
  let r := r.endNumber
  if r.row.isEmpty then r else ⟨r.rows.push r.row, #[], none⟩

/-- Read one more character. -/
def Reading.next (r : Reading) (c : Char) : Reading :=
  if c = ' ' ∨ c = '\n' then r.endRow
  else if c = ',' then r.endNumber
  else ⟨r.rows, r.row, some (16 * r.number.getD 0 + hexValue c)⟩

/-- The table of a text. -/
def read (text : String) : Rows := ⟨(text.foldl Reading.next ⟨#[], #[], none⟩).endRow.rows⟩

/-- The number of rows between `lo` and `hi` onwards that start at most at `key`, by halving. -/
def countUpTo (rows : Array (Array Nat)) (key lo hi : Nat) : Nat :=
  if lo < hi then
    let mid := (lo + hi) / 2
    if (rows.getD mid #[]).getD 0 0 ≤ key then countUpTo rows key (mid + 1) hi
    else countUpTo rows key lo mid
  else lo
termination_by hi - lo

/-- The last row that starts at most at `key`. -/
def floor? (t : Rows) (key : Nat) : Option (Array Nat) :=
  match countUpTo t.rows key 0 t.rows.size with
  | 0 => none
  | n + 1 => t.rows[n]?

/-- The row of a run, first and last code point in front, that holds `key`. -/
def run? (t : Rows) (key : Nat) : Option (Array Nat) :=
  (t.floor? key).filter fun row => decide (key ≤ row.getD 1 0)

/-- The row that starts with `key`. -/
def at? (t : Rows) (key : Nat) : Option (Array Nat) :=
  (t.floor? key).filter fun row => row.getD 0 0 == key

end Rows

end SinkCheck.Unicode
