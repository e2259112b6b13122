import SinkCheck.Proofs.Decimal.Values
/-
  What rounding gives.

  A quotient is scaled by the power of two that leaves 53 binary digits before the point, which the
  logarithms of numerator and denominator tell, but by no less than `2 ^ -1074`; then it is rounded to a
  natural number.  So the result has 53 digits unless the scale is the least one.  It has one digit more
  only where rounding leads up to the next power of two, and this one is written with the next exponent.

  Main statements: `isProper_of_ofQuotient`, and from it `isProper_of_mul` and `isProper_of_div`.
-/

namespace SinkCheck.Decimal.Magnitude

variable {num den : Nat} {a b c : Magnitude}

/-! ## Scaling -/

/-- Scaling by a power of two divides the value. -/
theorem toRat_scaled (num den : Nat) (e : Int) :
    ((scaled num den e).1 : ℚ) / (scaled num den e).2 = num / den / 2 ^ e := by
  unfold scaled
  split
  · next h =>
    obtain ⟨n, rfl⟩ := Int.eq_ofNat_of_zero_le h
    push_cast
    rw [Int.toNat_natCast, zpow_natCast, div_div]
  · next h =>
    obtain ⟨n, hn⟩ := Int.eq_ofNat_of_zero_le (show 0 ≤ -e by omega)
    have he : e = -(n : Int) := by omega
    subst he
    push_cast
    rw [neg_neg, Int.toNat_natCast, zpow_neg, zpow_natCast, div_inv_eq_mul]
    ring

theorem den_scaled_pos (hden : 0 < den) (e : Int) : 0 < (scaled num den e).2 := by
  unfold scaled
  split
  · exact Nat.mul_pos hden (Nat.two_pow_pos _)
  · exact hden

/-- **The unit** leaves at most 53 digits before the point, and exactly 53 unless it is the least one. -/
theorem unitExponent_spec (hnum : num ≠ 0) (hden : 0 < den) :
    -1074 ≤ unitExponent num den ∧ (num / den : ℚ) < 2 ^ (unitExponent num den + 53) ∧
      (unitExponent num den = -1074 ∨ (2 : ℚ) ^ (unitExponent num den + 52) ≤ num / den) := by
  have hlow : (2 : ℚ) ^ ((num.log2 : Int) - den.log2 - 1) < num / den :=
    Quotient.two_zpow_lt_toRat (q := ⟨num, den⟩) hnum hden.ne'
  have hhigh : (num / den : ℚ) < 2 ^ ((num.log2 : Int) - den.log2 + 1) :=
    Quotient.toRat_lt_two_zpow (q := ⟨num, den⟩) hden.ne'
  generalize hk : (num.log2 : Int) - den.log2 = k at hlow hhigh
  -- the exponent of the first digit
  have htop : ∃ top, unitExponent num den = max (top - 52) (-1074) ∧
      (2 : ℚ) ^ top ≤ num / den ∧ (num / den : ℚ) < 2 ^ (top + 1) := by
    have hbelow : (scaled num den k).2 ≤ (scaled num den k).1 ↔ (2 : ℚ) ^ k ≤ num / den := by
      have htwo : (0 : ℚ) < 2 ^ k := by positivity
      have hpos : (0 : ℚ) < (scaled num den k).2 := by exact_mod_cast den_scaled_pos hden k
      rw [← one_le_div htwo, ← toRat_scaled, one_le_div hpos]
      exact_mod_cast Iff.rfl
    refine ⟨if (scaled num den k).2 ≤ (scaled num den k).1 then k else k - 1, ?_, ?_⟩
    · simp only [unitExponent, hk]
    · split
      · next h => exact ⟨hbelow.mp h, hhigh⟩
      · next h =>
        rw [hbelow, not_le] at h
        exact ⟨hlow.le, by rwa [sub_add_cancel]⟩
  obtain ⟨top, hunit, hfirst, hnext⟩ := htop
  refine ⟨by omega, hnext.trans_le (zpow_le_zpow_right₀ (by norm_num) (by omega)), ?_⟩
  by_cases hleast : unitExponent num den = -1074
  · exact Or.inl hleast
  · have hexp : unitExponent num den + 52 = top := by omega
    rw [hexp]
    exact Or.inr hfirst

/-! ## Rounding -/

theorem div_le_roundQuotient (num den : Nat) : num / den ≤ roundQuotient num den := by
  simp only [roundQuotient]
  split
  · exact Nat.le_succ _
  · exact le_rfl

theorem roundQuotient_le (num den : Nat) : roundQuotient num den ≤ num / den + 1 := by
  simp only [roundQuotient]
  split
  · exact le_rfl
  · exact Nat.le_succ _

theorem isProper_zero : zero.IsProper :=
  ⟨by decide, le_rfl, by decide, Or.inl rfl⟩

/-- **What rounding gives** is a proper magnitude. -/
theorem isProper_of_ofQuotient (hden : 0 < den) (h : ofQuotient num den = some a) : a.IsProper := by
  unfold ofQuotient at h
  split at h
  · cases h
    exact isProper_zero
  · next hnum =>
    obtain ⟨hleast, hhigh, hlow⟩ := unitExponent_spec hnum hden
    simp only at h
    generalize unitExponent num den = e at h hleast hhigh hlow
    have hpos : 0 < (scaled num den e).2 := den_scaled_pos hden e
    have hvalue := toRat_scaled num den e
    generalize (scaled num den e).1 = n at h hvalue
    generalize (scaled num den e).2 = d at h hvalue hpos
    have hd : (0 : ℚ) < d := by exact_mod_cast hpos
    have htwo : (0 : ℚ) < 2 ^ e := by positivity
    -- 53 digits before the point at most
    have hdigits : n / d < 2 ^ 53 := by
      rw [Nat.div_lt_iff_lt_mul hpos]
      have hlt : (n : ℚ) / d < 2 ^ 53 := by
        rw [hvalue, div_lt_iff₀ htwo, ← zpow_natCast, ← zpow_add₀ (by norm_num), add_comm]
        exact_mod_cast hhigh
      rw [div_lt_iff₀ hd] at hlt
      exact_mod_cast hlt
    have hnormal : e = -1074 ∨ 2 ^ 52 ≤ n / d := by
      refine hlow.imp_right fun hle => ?_
      rw [Nat.le_div_iff_mul_le hpos]
      have hge : (2 : ℚ) ^ 52 ≤ n / d := by
        rw [hvalue, le_div_iff₀ htwo, ← zpow_natCast, ← zpow_add₀ (by norm_num), add_comm]
        exact_mod_cast hle
      rw [le_div_iff₀ hd] at hge
      exact_mod_cast hge
    have hdown := div_le_roundQuotient n d
    have hup := roundQuotient_le n d
    by_cases hnext : roundQuotient n d = 2 ^ 53
    · rw [if_pos hnext] at h
      split at h
      · cases h
      · next hbound =>
        cases h
        exact ⟨Nat.pow_lt_pow_right (by decide) (by decide), by show -1074 ≤ e + 1; omega,
          by simpa using hbound, Or.inr le_rfl⟩
    · rw [if_neg hnext] at h
      split at h
      · cases h
      · next hbound =>
        cases h
        exact ⟨by show roundQuotient n d < 2 ^ 53; omega, hleast, by simpa using hbound,
          hnormal.imp_right fun hle => hle.trans hdown⟩

/-- A product is proper. -/
theorem isProper_of_mul (h : a.mul b = some c) : c.IsProper := by
  unfold mul ofScaled at h
  split at h
  · exact isProper_of_ofQuotient Nat.one_pos h
  · exact isProper_of_ofQuotient (Nat.two_pow_pos _) h

/-- A quotient is proper. -/
theorem isProper_of_div (hb : 0 < b.digits) (h : a.div b = some c) : c.IsProper := by
  simp only [div] at h
  split at h
  · exact isProper_of_ofQuotient hb h
  · exact isProper_of_ofQuotient (Nat.mul_pos hb (Nat.two_pow_pos _)) h

end SinkCheck.Decimal.Magnitude
