import SinkCheck.Decimal.Layout
import SinkCheck.Proofs.Decimal.Shortest
import SinkCheck.Proofs.Text.Numerals
/-
  What the text of a number says.

  A decimal text is read here by the positions of its digits, across the point, and by the power of ten
  behind an `e` (`Denotes`).  However a layout spells a decimal, plainly with zeros filled in or with an
  exponent, the text denotes the decimal.  So the text of a binary number denotes one that is read as this
  binary number again, no other being nearer.

  Main statements: `denotes_write` and `exists_denotes_writeBinary`.
-/

namespace SinkCheck.Decimal

/-! ## Reading -/

/-- The row is a decimal without sign that denotes `q`: digits, perhaps more of them behind a point, and
perhaps a numeral behind an `e`, which is the power of ten to scale by. -/
def DenotesMagnitude (s : List Char) (q : ℚ) : Prop :=
  ∃ whole fraction scale : List Char, ∃ k : Int,
    s = whole ++ (if fraction = [] then [] else '.' :: fraction) ++ scale ∧
    whole ≠ [] ∧ (∀ c ∈ whole ++ fraction, Text.isDigit c = true) ∧
    (scale = [] ∧ k = 0 ∨ ∃ t, scale = 'e' :: t ∧ Text.Denotes t k) ∧
    q = Text.positional (whole ++ fraction) * 10 ^ (k - fraction.length)

/-- The row is a decimal, with a minus sign or none in front, that denotes `q`. -/
def Denotes (s : List Char) (q : ℚ) : Prop :=
  DenotesMagnitude s q ∨ ∃ t, s = '-' :: t ∧ DenotesMagnitude t (-q)

theorem isDigit_of_mem_zeros {n : Nat} {c : Char} (h : c ∈ List.replicate n '0') :
    Text.isDigit c = true := by
  rw [List.eq_of_mem_replicate h]
  decide

/-! ## Writing -/

namespace Layout

variable {digits : List Char}

/-- **A decimal written plainly** denotes its digits, scaled to as many places before the point. -/
theorem denotes_plain (hne : digits ≠ []) (hdigits : ∀ c ∈ digits, Text.isDigit c = true) (whole : Int) :
    DenotesMagnitude (plain digits whole)
      (Text.positional digits * 10 ^ (whole - digits.length)) := by
  unfold plain
  split
  · next h =>
    -- zeros are filled in behind the point
    obtain ⟨n, hn⟩ := Int.eq_ofNat_of_zero_le (show 0 ≤ -whole by omega)
    refine ⟨['0'], List.replicate (-whole).toNat '0' ++ digits, [], 0, ?_, by decide, ?_,
      Or.inl ⟨rfl, rfl⟩, ?_⟩
    · rw [if_neg (by simp [hne]), List.append_nil]
      rfl
    · intro c hc
      simp only [List.mem_append, List.mem_singleton] at hc
      rcases hc with rfl | hc | hc
      · decide
      · exact isDigit_of_mem_zeros hc
      · exact hdigits c hc
    · have hvalue : Text.positional (['0'] ++ (List.replicate (-whole).toNat '0' ++ digits)) =
          Text.positional digits := by
        rw [← List.append_assoc, List.singleton_append, ← List.replicate_succ, Text.positional_append,
          Text.positional_zeros, Nat.zero_mul, Nat.zero_add]
      rw [hvalue, List.length_append, List.length_replicate]
      congr 2
      omega
  · next h =>
    obtain ⟨w, rfl⟩ := Int.eq_ofNat_of_zero_le (show 0 ≤ whole by omega)
    simp only [Int.toNat_natCast]
    by_cases hshort : digits.length ≤ w
    · -- all digits stand before the point, zeros behind them, and one zero behind the point
      rw [List.take_of_length_le hshort, List.drop_of_length_le hshort]
      refine ⟨digits ++ List.replicate (w - digits.length) '0', ['0'], [], 0, by simp, by simp [hne], ?_,
        Or.inl ⟨rfl, rfl⟩, ?_⟩
      · intro c hc
        simp only [List.mem_append, List.mem_singleton] at hc
        rcases hc with (hc | hc) | rfl
        · exact hdigits c hc
        · exact isDigit_of_mem_zeros hc
        · decide
      · have hvalue : Text.positional (digits ++ List.replicate (w - digits.length) '0' ++ ['0']) =
            Text.positional digits * 10 ^ (w - digits.length + 1) := by
          rw [List.append_assoc, ← List.replicate_succ', Text.positional_append, Text.positional_zeros,
            List.length_replicate, Nat.add_zero]
        have hexp : ((w : Int) - digits.length) = ((w - digits.length + 1 : Nat) : Int) + (0 - 1) := by
          omega
        rw [hvalue, hexp, zpow_add₀ (by norm_num), zpow_natCast, List.length_singleton]
        push_cast
        ring
    · -- the point stands among the digits
      have hback : digits.drop w ≠ [] := by
        rw [ne_eq, List.drop_eq_nil_iff]
        exact hshort
      have hfront : w - digits.length = 0 := by omega
      refine ⟨digits.take w, digits.drop w, [], 0, ?_, ?_, ?_, Or.inl ⟨rfl, rfl⟩, ?_⟩
      · simp [hfront, hback]
      · rw [ne_eq, List.take_eq_nil_iff, not_or]
        exact ⟨by omega, hne⟩
      · rw [List.take_append_drop]
        exact hdigits
      · rw [List.take_append_drop, List.length_drop]
        congr 2
        omega

/-- **A decimal written with an exponent** denotes its digits, scaled to one place before the point and by
the exponent. -/
theorem denotes_scientific {l : Layout} (hmark : l.mark = "e") (hplus : l.plus = "" ∨ l.plus = "+")
    (hne : digits ≠ []) (hdigits : ∀ c ∈ digits, Text.isDigit c = true) (exponent : Int) :
    DenotesMagnitude (l.scientific digits exponent)
      (Text.positional digits * 10 ^ (exponent + 1 - digits.length)) := by
  have hrepr := Text.positional_repr exponent.natAbs
  have hrow : exponent.natAbs.repr.toList ≠ [] := by
    rw [Text.toList_repr]
    exact Nat.toDigits_ne_nil
  have hexponent : Text.Denotes
      ((if exponent < 0 then "-" else l.plus).toList ++ exponent.natAbs.repr.toList) exponent := by
    refine ⟨_, _, rfl, hrow, fun c => Text.isDigit_of_mem_repr, ?_⟩
    rw [hrepr]
    split
    · exact Or.inr ⟨rfl, by omega⟩
    · refine Or.inl ⟨?_, by omega⟩
      rcases hplus with h | h <;> rw [h]
      · exact Or.inl rfl
      · exact Or.inr rfl
  obtain ⟨d, rest, rfl⟩ := List.exists_cons_of_ne_nil hne
  refine ⟨[d], rest, _, exponent, ?_, by simp, hdigits, Or.inr ⟨_, rfl, hexponent⟩, ?_⟩
  · unfold scientific
    rw [hmark]
    cases rest <;> simp
  · rw [List.singleton_append, List.length_cons]
    congr 2
    push_cast
    ring

/-- **However a decimal is written**, the text denotes it. -/
theorem denotes_write {l : Layout} (hmark : l.mark = "e") (hplus : l.plus = "" ∨ l.plus = "+")
    (t : Tenfold) : DenotesMagnitude (l.write t) t.toRat := by
  have hne : t.digits.repr.toList ≠ [] := by
    rw [Text.toList_repr]
    exact Nat.toDigits_ne_nil
  have hdigits : ∀ c ∈ t.digits.repr.toList, Text.isDigit c = true := fun c => Text.isDigit_of_mem_repr
  have hvalue : ∀ whole : Int, whole = t.exponent + t.digits.repr.toList.length →
      (Text.positional t.digits.repr.toList : ℚ) * 10 ^ (whole - t.digits.repr.toList.length) =
        t.toRat := by
    rintro whole rfl
    rw [Text.positional_repr, add_sub_cancel_right, Tenfold.toRat]
  unfold write
  simp only
  split
  · rw [← hvalue _ (sub_add_cancel _ _)]
    exact denotes_plain hne hdigits _
  · rw [← hvalue _ (sub_add_cancel _ _)]
    exact denotes_scientific hmark hplus hne hdigits _

/-- **The text of a binary number** denotes the shortest decimal that is read as this number again. -/
theorem exists_denotes_writeBinary {l : Layout} (hmark : l.mark = "e")
    (hplus : l.plus = "" ∨ l.plus = "+") {b : Binary64} (hb : b.magnitude.IsProper) :
    ∃ t, Denotes (l.writeBinary b).toList (signed b.negative t.toRat) ∧ b.IsShortest t := by
  have hbody : ∃ t : Tenfold, b.IsShortest t ∧ DenotesMagnitude
      (if b.magnitude.isZero then ['0', '.', '0'] else l.write b.magnitude.shortest) t.toRat := by
    by_cases hzero : b.magnitude.digits = 0
    · refine ⟨_, b.isShortest_zero hb hzero, ?_⟩
      rw [if_pos (by simpa [Magnitude.isZero] using hzero)]
      refine ⟨['0'], ['0'], [], 0, rfl, by decide, fun c => isDigit_of_mem_zeros (n := 2),
        Or.inl ⟨rfl, rfl⟩, ?_⟩
      show ((0 : Nat) : ℚ) * _ = ((0 : Nat) : ℚ) * _
      rw [Nat.cast_zero, zero_mul, zero_mul]
    · refine ⟨_, b.isShortest_shortest hb (Nat.pos_of_ne_zero hzero), ?_⟩
      rw [if_neg (by simpa [Magnitude.isZero] using hzero)]
      exact denotes_write hmark hplus _
  obtain ⟨t, hshortest, hread⟩ := hbody
  refine ⟨t, ?_, hshortest⟩
  rw [writeBinary, String.toList_ofList]
  cases b.negative with
  | false => exact Or.inl hread
  | true => exact Or.inr ⟨_, rfl, by rwa [signed, if_pos rfl, neg_neg]⟩

end Layout

end SinkCheck.Decimal
