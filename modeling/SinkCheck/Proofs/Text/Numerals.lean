import Mathlib.Data.Nat.Digits.Defs
import SinkCheck.Proofs.Text.Trimming
import SinkCheck.Text.Numeral
/-
  What numerals denote, and the numerals that integers are written with.

  A numeral is a sign or none and then digits, and what it denotes is said here by the positions of its
  digits, the last one counting once and each other ten times as much as the next.  The reader goes the
  other way, from the first digit on, and finds the same.

  An integer is written with the digits of its magnitude, without leading zeros, behind a minus sign if
  it is negative.  Such a text is a numeral, and it denotes the integer it was written for.  No blank is
  in it, so it may be trimmed.

  Main statements: `integer?_eq_some_iff`, the reader finds exactly what numerals denote;
  `denotes_integerText` and `trim_integerText`.
-/

namespace SinkCheck.Text

/-! ## Positions -/

/-- The number of a row of digits by their positions: the last one counts once, each other ten times as
much as the next. -/
def positional (digits : List Char) : Nat :=
  Nat.ofDigits 10 (digits.reverse.map fun c => c.toNat - '0'.toNat)

/-- The row is a numeral of the integer `n`: one sign may stand in front, one or more digits follow, and
these denote the magnitude of `n`. -/
def Denotes (s : List Char) (n : Int) : Prop :=
  ∃ sign digits, s = sign ++ digits ∧ digits ≠ [] ∧ (∀ c ∈ digits, isDigit c = true) ∧
    ((sign = [] ∨ sign = ['+']) ∧ n = positional digits ∨ sign = ['-'] ∧ n = -positional digits)

/-- **Reading digits from the first one on** gives their number by positions. -/
theorem digitsValue_eq_positional (digits : List Char) : digitsValue digits = positional digits := by
  have hcomm : (fun n c => 10 * n + digitValue c) = fun n c => digitValue c + 10 * n :=
    funext fun _ => funext fun _ => Nat.add_comm _ _
  calc
    digitsValue digits = digits.foldl (fun n c => digitValue c + 10 * n) 0 := by
      rw [digitsValue, hcomm]
    _ = digits.reverse.foldr (fun c n => digitValue c + 10 * n) 0 := List.foldr_reverse.symm
    _ = (digits.reverse.map digitValue).foldr (fun d n => d + 10 * n) 0 := by rw [List.foldr_map]
    _ = positional digits := (Nat.ofDigits_eq_foldr 10 _).symm

theorem positional_append (ds es : List Char) :
    positional (ds ++ es) = positional ds * 10 ^ es.length + positional es := by
  rw [positional, List.reverse_append, List.map_append, Nat.ofDigits_append, List.length_map,
    List.length_reverse, Nat.add_comm, Nat.mul_comm]
  rfl

theorem positional_zeros (n : Nat) : positional (List.replicate n '0') = 0 := by
  induction n with
  | zero => rfl
  | succ n ih => rw [List.replicate_succ', positional_append, ih]; rfl

/-! ## Digits -/

theorem isDigit_of_isDigit {c : Char} (h : c.isDigit = true) : isDigit c = true := by
  simp only [Char.isDigit, Bool.and_eq_true, decide_eq_true_eq] at h
  simp only [isDigit, Bool.and_eq_true, decide_eq_true_eq]
  exact h

theorem isBlank_of_isDigit {c : Char} (h : isDigit c = true) : isBlank c = false := by
  simp only [isDigit, Bool.and_eq_true, decide_eq_true_eq] at h
  have hlo : 48 ≤ c.toNat := h.1
  have hhi : c.toNat ≤ 57 := h.2
  exact isBlank_of_visible (by omega) (by omega)

/-! ## Natural numbers -/

theorem toList_repr (n : Nat) : n.repr.toList = Nat.toDigits 10 n := by
  rw [Nat.repr_eq_ofList_toDigits, String.toList_ofList]

theorem isDigit_of_mem_repr {n : Nat} {c : Char} (h : c ∈ n.repr.toList) : isDigit c = true := by
  rw [toList_repr] at h
  exact isDigit_of_isDigit (Nat.isDigit_of_mem_toDigits (by decide) (by decide) h)

/-- The digits of a natural number denote it. -/
theorem natural?_repr (n : Nat) : natural? n.repr.toList = some n := by
  refine natural?_eq_some_iff.mpr ⟨?_, fun c hc => isDigit_of_mem_repr hc, ?_⟩
  · rw [toList_repr]
    exact Nat.toDigits_ne_nil
  · rw [toList_repr]
    exact Nat.ofDigitChars_ten_toDigits

theorem positional_repr (n : Nat) : positional n.repr.toList = n := by
  rw [← digitsValue_eq_positional]
  exact (natural?_eq_some_iff.mp (natural?_repr n)).2.2

/-! ## Integers -/

/-- A natural numeral is an integer as it stands. -/
theorem integer?_of_natural? {s : List Char} {n : Nat} (h : natural? s = some n) :
    integer? s = some (n : Int) := by
  have hdigits := (natural?_eq_some_iff.mp h).2.1
  unfold integer?
  split
  · cases hdigits '-' List.mem_cons_self
  · cases hdigits '+' List.mem_cons_self
  · rw [h]
    rfl

/-- The digits of an integer are read behind its sign. -/
theorem exists_sign_of_integer? {s : List Char} {n : Int} (h : integer? s = some n) :
    ∃ sign digits m, s = sign ++ digits ∧ natural? digits = some m ∧
      ((sign = [] ∨ sign = ['+']) ∧ n = m ∨ sign = ['-'] ∧ n = -m) := by
  unfold integer? at h
  split at h
  · next digits =>
    cases hm : natural? digits with
    | none => rw [hm] at h; cases h
    | some m =>
      rw [hm] at h
      exact ⟨['-'], digits, m, rfl, hm, Or.inr ⟨rfl, (Option.some.inj h).symm⟩⟩
  · next digits =>
    cases hm : natural? digits with
    | none => rw [hm] at h; cases h
    | some m =>
      rw [hm] at h
      exact ⟨['+'], digits, m, rfl, hm, Or.inl ⟨Or.inr rfl, (Option.some.inj h).symm⟩⟩
  · cases hm : natural? s with
    | none => rw [hm] at h; cases h
    | some m =>
      rw [hm] at h
      exact ⟨[], s, m, rfl, hm, Or.inl ⟨Or.inl rfl, (Option.some.inj h).symm⟩⟩

/-- **The reader of integers** finds `n` exactly in the numerals of `n`. -/
theorem integer?_eq_some_iff {s : List Char} {n : Int} : integer? s = some n ↔ Denotes s n := by
  constructor
  · intro h
    obtain ⟨sign, digits, m, rfl, hm, hn⟩ := exists_sign_of_integer? h
    obtain ⟨hne, hdigits, rfl⟩ := natural?_eq_some_iff.mp hm
    rw [digitsValue_eq_positional] at hn
    exact ⟨sign, digits, rfl, hne, hdigits, hn⟩
  · rintro ⟨sign, digits, rfl, hne, hdigits, hn⟩
    have hm : natural? digits = some (positional digits) :=
      natural?_eq_some_iff.mpr ⟨hne, hdigits, digitsValue_eq_positional digits⟩
    rcases hn with ⟨rfl | rfl, rfl⟩ | ⟨rfl, rfl⟩
    · exact integer?_of_natural? hm
    · rw [List.singleton_append, integer?, hm]
      rfl
    · rw [List.singleton_append, integer?, hm]
      rfl

/-- A text is a numeral of one integer at most. -/
theorem Denotes.eq {s : List Char} {m n : Int} (hm : Denotes s m) (hn : Denotes s n) : m = n := by
  have hread := integer?_eq_some_iff.mpr hm
  rw [integer?_eq_some_iff.mpr hn] at hread
  exact (Option.some.inj hread).symm

/-- The text of an integer is read as the integer. -/
theorem integer?_integerText (n : Int) : integer? (integerText n).toList = some n := by
  unfold integerText
  split
  · next hneg =>
    have hcons : ("-" ++ n.natAbs.repr).toList = '-' :: n.natAbs.repr.toList := String.toList_append
    have hvalue : -(n.natAbs : Int) = n := by omega
    rw [hcons, integer?, natural?_repr]
    exact congrArg some hvalue
  · next hpos =>
    have hvalue : (n.natAbs : Int) = n := by omega
    rw [integer?_of_natural? (natural?_repr n.natAbs), hvalue]

/-- **The text of an integer** denotes it. -/
theorem denotes_integerText (n : Int) : Denotes (integerText n).toList n :=
  integer?_eq_some_iff.mp (integer?_integerText n)

/-- An integer is written in its usual decimal notation. -/
theorem integerText_eq_toString (n : Int) : integerText n = toString n := by
  cases n with
  | ofNat m => rfl
  | negSucc m =>
    rw [integerText, if_pos (Int.negSucc_lt_zero m), Int.natAbs_negSucc]
    rfl

theorem isBlank_of_mem_integerText {n : Int} {c : Char} (h : c ∈ (integerText n).toList) :
    isBlank c = false := by
  unfold integerText at h
  split at h
  · rw [String.toList_append, List.mem_append] at h
    rcases h with h | h
    · rw [List.mem_singleton.mp h]
      decide
    · exact isBlank_of_isDigit (isDigit_of_mem_repr h)
  · exact isBlank_of_isDigit (isDigit_of_mem_repr h)

/-- There is no blank in the text of an integer to be trimmed. -/
theorem trim_integerText (n : Int) : trim (integerText n) = integerText n := by
  rw [trim_eq_self_iff, trimChars_eq_self_iff]
  exact ⟨fun c hc => isBlank_of_mem_integerText (List.mem_of_mem_head? hc),
    fun c hc => isBlank_of_mem_integerText (List.mem_of_mem_getLast? hc)⟩

end SinkCheck.Text
