import SinkCheck.Json.Reader
import SinkCheck.Proofs.Decimal.Rounding
/-
  The numbers that are read.

  A numeral is read by rounding its leading digits and then once more for each scaling by a power of ten.
  Whatever the numeral, the last rounding leaves a proper magnitude, or there was nothing to scale and the
  first one did.

  Main statements: `isProper_of_magnitude?` and `Spelling.isProper_of_number?`.
-/

namespace SinkCheck.Json

open Decimal (Magnitude)

variable {a b : Magnitude}

/-- No power of ten that is scaled by is rounded to zero. -/
theorem digits_tenPower_pos : ∀ k < 309, 0 < (tenPower k).digits := by
  decide +kernel

theorem isProper_of_divideByTen {k : Nat} (ha : a.IsProper) (h : divideByTen a k = some b) :
    b.IsProper := by
  induction a, k using divideByTen.induct with
  | case1 a k hk =>
    rw [divideByTen, if_pos hk] at h
    exact Magnitude.isProper_of_div (digits_tenPower_pos k (Nat.lt_succ_of_le hk)) h
  | case2 a k hk hzero =>
    rw [divideByTen, if_neg hk, if_pos hzero] at h
    cases h
    exact ha
  | case3 a k hk hzero hdiv =>
    rw [divideByTen, if_neg hk, if_neg hzero, hdiv] at h
    cases h
  | case4 a k hk hzero c hdiv ih =>
    rw [divideByTen, if_neg hk, if_neg hzero, hdiv] at h
    exact ih (Magnitude.isProper_of_div (digits_tenPower_pos 308 (by decide)) hdiv) h

theorem isProper_of_scaleByTen {m : Nat} {e : Int} (h : scaleByTen m e = some b) : b.IsProper := by
  unfold scaleByTen at h
  split at h
  · cases h
  · next a hm =>
    have ha : a.IsProper := Magnitude.isProper_of_ofQuotient Nat.one_pos hm
    split at h
    · exact isProper_of_divideByTen ha h
    · split at h
      · split at h
        · cases h
          exact ha
        · cases h
      · exact Magnitude.isProper_of_mul h

theorem Spelling.isProper_of_magnitude? {s : Spelling} (h : s.magnitude? = some b) : b.IsProper := by
  have hscaled : ∀ m e, (if m = 0 then some .zero else scaleByTen m e) = some b → b.IsProper := by
    intro m e hb
    split at hb
    · cases hb
      exact Magnitude.isProper_zero
    · exact isProper_of_scaleByTen hb
  -- with and without a fraction
  simp only [Spelling.magnitude?] at h
  split at h
  · exact hscaled _ _ h
  · exact hscaled _ _ h

/-- **A binary number that is read** is proper. -/
theorem Spelling.isProper_of_number? {s : Spelling} {b : Decimal.Binary64}
    (h : s.number? = some (.binary b)) : b.magnitude.IsProper := by
  simp only [Spelling.number?] at h
  split at h
  · cases h
  · split at h
    · cases h
    · obtain ⟨m, hm, hb⟩ := Option.map_eq_some_iff.mp h
      cases hb
      exact Spelling.isProper_of_magnitude? hm

end SinkCheck.Json
