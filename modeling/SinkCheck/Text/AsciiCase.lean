/-
  Letter case of the ASCII alphabet.

  Keywords of the settings are matched up to the case of the twenty-six ASCII letters only: a dotless i
  or a long s is a different character from its ASCII relatives.
-/

namespace SinkCheck.Text

/-- The characters of a text with the ASCII capitals made small. -/
def folded (s : String) : List Char := s.toList.map Char.toLower

/-- Two texts are equal up to the case of ASCII letters. -/
def eqFolded (a b : String) : Bool := folded a == folded b

theorem eqFolded_iff (a b : String) : eqFolded a b = true ↔ folded a = folded b := by
  simp [eqFolded]

theorem eqFolded_comm (a b : String) : eqFolded a b = eqFolded b a := by
  rw [Bool.eq_iff_iff, eqFolded_iff, eqFolded_iff]
  exact eq_comm

example : eqFolded "uPsErT" "UPSERT" = true := by decide +kernel

example : eqFolded "uſert" "USERT" = false := by decide +kernel

end SinkCheck.Text
