import SinkCheck.Proofs.Decimal.Intervals
/-
  The shortest decimal.

  The search for a decimal goes from coarse grids to fine ones and stops at the first that has a point in
  the interval of the number.  It begins with the grid of the first digit, for the logarithm of the number
  is known well enough to find the power of ten above it, and twenty digits lead below the width of every
  interval; so it does find a decimal, and the number takes this one in.

  A grid has a point in the interval only if one of the two next to the number is in it, and the nearer of
  those that are is the nearest of all.  So the grids before the one where the search stops have no point
  in the interval, and a decimal with fewer digits would be one of theirs; and a decimal with as many
  digits is a point of the grid where it stops, hence no nearer than the one found there.

  Main statements: `takes_shortest`, `digits_shortest_lt` and `closest_shortest`; together
  `Binary64.isShortest_shortest`.
-/

namespace SinkCheck.Decimal

/-! ## Removing zeros -/

namespace Tenfold

theorem toRat_stripped (tries : Nat) (t : Tenfold) : (stripped tries t).toRat = t.toRat := by
  induction tries generalizing t with
  | zero => rfl
  | succ tries ih =>
    rw [stripped]
    split
    · next h =>
      have hten : t.digits = 10 * (t.digits / 10) := by omega
      have hdigits : (t.digits : ℚ) = 10 * (t.digits / 10 : Nat) := by exact_mod_cast hten
      rw [ih, toRat, toRat, hdigits, zpow_add_one₀ (by norm_num)]
      ring
    · rfl

theorem digits_stripped_pos {tries : Nat} {t : Tenfold} (h : 0 < t.digits) :
    0 < (stripped tries t).digits := by
  induction tries generalizing t with
  | zero => exact h
  | succ tries ih =>
    rw [stripped]
    split
    · next hten => exact ih (show 0 < t.digits / 10 by omega)
    · exact h

theorem digits_stripped_le (tries : Nat) (t : Tenfold) : (stripped tries t).digits ≤ t.digits := by
  induction tries generalizing t with
  | zero => exact le_rfl
  | succ tries ih =>
    rw [stripped]
    split
    · exact (ih _).trans (Nat.div_le_self _ _)
    · exact le_rfl

/-- A power of ten is left with one digit. -/
theorem digits_stripped_pow {tries k : Nat} (h : k ≤ tries) (e : Int) :
    (stripped tries ⟨10 ^ k, e⟩).digits = 1 := by
  induction tries generalizing k e with
  | zero =>
    obtain rfl := Nat.le_zero.mp h
    rfl
  | succ tries ih =>
    cases k with
    | zero => rfl
    | succ k =>
      have hten : (10 : Nat) ^ (k + 1) % 10 = 0 := by rw [Nat.pow_succ, Nat.mul_mod_left]
      have hdiv : (10 : Nat) ^ (k + 1) / 10 = 10 ^ k := by
        rw [Nat.pow_succ, Nat.mul_div_cancel _ (by decide)]
      have hne : (10 : Nat) ^ (k + 1) ≠ 0 := (Nat.pow_pos (by decide)).ne'
      rw [stripped, if_pos ⟨hne, hten⟩, hdiv]
      exact ih (Nat.le_of_succ_le_succ h) _

end Tenfold

/-! ## The power of ten above a number -/

/-- **The power of ten** above a number is found if the number is between the power below the one tried
first and the one tried last. -/
theorem topExponent_spec {v : Quotient} (hden : 0 < v.den) {tries : Nat} {p : Int}
    (hlow : (10 : ℚ) ^ (p - 1) ≤ v.toRat) (hhigh : v.toRat < 10 ^ (p + tries)) :
    (10 : ℚ) ^ (topExponent v tries p - 1) ≤ v.toRat ∧ v.toRat < 10 ^ topExponent v tries p := by
  induction tries generalizing p with
  | zero =>
    rw [Nat.cast_zero, add_zero] at hhigh
    exact ⟨hlow, hhigh⟩
  | succ tries ih =>
    have hbelow : (v.perTen p).num < (v.perTen p).den ↔ v.toRat < 10 ^ p := by
      have hten : (0 : ℚ) < 10 ^ p := by positivity
      have hpos : (0 : ℚ) < (v.perTen p).den := by exact_mod_cast Quotient.den_perTen_pos hden p
      rw [← div_lt_one hten, ← Quotient.toRat_perTen, Quotient.toRat, div_lt_one hpos]
      exact_mod_cast Iff.rfl
    simp only [topExponent]
    split
    · next h => exact ⟨hlow, hbelow.mp h⟩
    · next h =>
      rw [hbelow, not_lt] at h
      refine ih (by rwa [add_sub_cancel_right]) ?_
      convert hhigh using 2
      push_cast
      ring

/-! ## Grids -/

/-- The point of the grid of step `10 ^ e` that is next below the number of the interval, or is it. -/
def Interval.floor (i : Interval) (e : Int) : Nat := (i.value.perTen e).num / (i.value.perTen e).den

namespace Magnitude

variable {a : Magnitude} {x : ℚ} {e : Int} {d : Nat}

theorem toRat_low (h : 0 < a.digits) : a.interval.low.toRat = a.toRat - a.reach * a.quarter := by
  have hnarrow : (if a.digits == 2 ^ 52 && decide (-1074 < a.exponent) then 1 else 2) = a.reach := by
    simp [reach]
  have hle : a.reach ≤ 4 * a.digits := by
    rcases a.reach_eq with h | h <;> rw [h] <;> omega
  show (Quotient.ofScaled (4 * a.digits - if _ then 1 else 2) (a.exponent - 2)).toRat = _
  rw [hnarrow, Quotient.toRat_ofScaled, Nat.cast_sub hle, toRat_eq_quarters, quarter]
  push_cast
  ring

theorem toRat_value (a : Magnitude) : a.interval.value.toRat = a.toRat := by
  show (Quotient.ofScaled (4 * a.digits) (a.exponent - 2)).toRat = _
  rw [Quotient.toRat_ofScaled, toRat_eq_quarters, quarter]
  push_cast
  ring

theorem toRat_high (a : Magnitude) : a.interval.high.toRat = a.toRat + 2 * a.quarter := by
  show (Quotient.ofScaled (4 * a.digits + 2) (a.exponent - 2)).toRat = _
  rw [Quotient.toRat_ofScaled, toRat_eq_quarters, quarter]
  push_cast
  ring

/-- A point of a grid lies in the interval if the magnitude takes it in. -/
theorem holds_iff (h : 0 < a.digits) {e : Int} {point : Nat} :
    a.interval.holds e point = true ↔ a.Takes (point * 10 ^ e) := by
  have hten : (0 : ℚ) < 10 ^ e := by positivity
  have hpoint : (Quotient.mk point 1).toRat = point := by simp [Quotient.toRat]
  have hden : 0 < (Quotient.mk point 1).den := Nat.one_pos
  have hlow := Quotient.den_perTen_pos (q := a.interval.low) (Quotient.den_ofScaled_pos _ _) e
  have hhigh := Quotient.den_perTen_pos (q := a.interval.high) (Quotient.den_ofScaled_pos _ _) e
  have hclosed : a.interval.closed = decide (a.digits % 2 = 0) := rfl
  unfold Interval.holds Takes
  simp only [hclosed, decide_eq_true_eq]
  split
  · rw [Bool.and_eq_true, Quotient.le_iff hlow hden, Quotient.le_iff hden hhigh, hpoint,
      Quotient.toRat_perTen, Quotient.toRat_perTen, toRat_low h, toRat_high, div_le_iff₀ hten,
      le_div_iff₀ hten]
  · rw [Bool.and_eq_true, Quotient.lt_iff hlow hden, Quotient.lt_iff hden hhigh, hpoint,
      Quotient.toRat_perTen, Quotient.toRat_perTen, toRat_low h, toRat_high, div_lt_iff₀ hten,
      lt_div_iff₀ hten]

theorem floor_le (a : Magnitude) (e : Int) : a.interval.floor e * 10 ^ e ≤ a.toRat := by
  have hfloor := Quotient.div_le_toRat (a.interval.value.perTen e)
  rwa [Quotient.toRat_perTen, toRat_value, le_div_iff₀ (by positivity)] at hfloor

theorem lt_floor_add_one (a : Magnitude) (e : Int) :
    a.toRat < ((a.interval.floor e + 1 : Nat) : ℚ) * 10 ^ e := by
  have hceil := Quotient.toRat_lt_div_add_one
    (Quotient.den_perTen_pos (q := a.interval.value) (Quotient.den_ofScaled_pos _ _) e)
  rw [Quotient.toRat_perTen, toRat_value, div_lt_iff₀ (by positivity)] at hceil
  push_cast
  exact hceil

/-- The rest of a division is what the number is above the point below it, in steps of the grid. -/
theorem toRat_sub_floor (a : Magnitude) (e : Int) :
    a.toRat - a.interval.floor e * 10 ^ e =
      ((a.interval.value.perTen e).num % (a.interval.value.perTen e).den : Nat) /
        (a.interval.value.perTen e).den * 10 ^ e := by
  have hden : (0 : ℚ) < (a.interval.value.perTen e).den := by
    exact_mod_cast Quotient.den_perTen_pos (q := a.interval.value) (Quotient.den_ofScaled_pos _ _) e
  have hvalue : a.toRat = (a.interval.value.perTen e).toRat * 10 ^ e := by
    rw [Quotient.toRat_perTen, toRat_value, div_mul_cancel₀ _ (by positivity)]
  have hnum : ((a.interval.value.perTen e).num : ℚ) =
      (a.interval.value.perTen e).den * a.interval.floor e +
        ((a.interval.value.perTen e).num % (a.interval.value.perTen e).den : Nat) := by
    exact_mod_cast (Nat.div_add_mod _ _).symm
  rw [hvalue, Quotient.toRat, hnum]
  field_simp
  ring

/-- **What is found on a grid** is one of the two points next to the number, and the nearer one if both
are taken in. -/
theorem of_onGrid?_eq_some (h : 0 < a.digits) (hd : a.interval.onGrid? e = some d) :
    (d = a.interval.floor e ∧ 0 < d ∧ a.Takes (a.interval.floor e * 10 ^ e) ∧
      (a.Takes ((a.interval.floor e + 1 : Nat) * 10 ^ e) →
        2 * (a.toRat - a.interval.floor e * 10 ^ e) ≤ 10 ^ e)) ∨
    (d = a.interval.floor e + 1 ∧ a.Takes ((a.interval.floor e + 1 : Nat) * 10 ^ e) ∧
      (0 < a.interval.floor e → a.Takes (a.interval.floor e * 10 ^ e) →
        10 ^ e ≤ 2 * (a.toRat - a.interval.floor e * 10 ^ e))) := by
  have hbelow : (a.interval.holds e (a.interval.floor e) && decide (0 < a.interval.floor e)) = true ↔
      a.Takes (a.interval.floor e * 10 ^ e) ∧ 0 < a.interval.floor e := by
    rw [Bool.and_eq_true, holds_iff h, decide_eq_true_eq]
  have habove : a.interval.holds e (a.interval.floor e + 1) = true ↔
      a.Takes ((a.interval.floor e + 1 : Nat) * 10 ^ e) := holds_iff h
  have hrest := a.toRat_sub_floor e
  have hden : (0 : ℚ) < (a.interval.value.perTen e).den := by
    exact_mod_cast Quotient.den_perTen_pos (q := a.interval.value) (Quotient.den_ofScaled_pos _ _) e
  have hten : (0 : ℚ) < 10 ^ e := by positivity
  simp only [Interval.onGrid?] at hd
  split at hd
  · next hb ha =>
    obtain ⟨htakes, hpos⟩ := hbelow.mp hb
    split at hd
    · next hnear =>
      cases hd
      refine Or.inl ⟨rfl, hpos, htakes, fun _ => ?_⟩
      have hle : 2 * ((a.interval.value.perTen e).num % (a.interval.value.perTen e).den) ≤
          (a.interval.value.perTen e).den := by
        simp only [Bool.or_eq_true, Bool.and_eq_true, decide_eq_true_eq, beq_iff_eq] at hnear
        omega
      rw [hrest, ← mul_assoc, mul_le_iff_le_one_left hten, ← mul_div_assoc, div_le_one hden]
      exact_mod_cast hle
    · next hnear =>
      cases hd
      refine Or.inr ⟨rfl, habove.mp ha, fun _ _ => ?_⟩
      have hle : (a.interval.value.perTen e).den ≤
          2 * ((a.interval.value.perTen e).num % (a.interval.value.perTen e).den) := by
        simp only [Bool.or_eq_true, Bool.and_eq_true, decide_eq_true_eq, beq_iff_eq] at hnear
        omega
      rw [hrest, ← mul_assoc, le_mul_iff_one_le_left hten, ← mul_div_assoc, one_le_div hden]
      exact_mod_cast hle
  · next hb ha =>
    cases hd
    obtain ⟨htakes, hpos⟩ := hbelow.mp hb
    exact Or.inl ⟨rfl, hpos, htakes, fun hnext => by cases ha.symm.trans (habove.mpr hnext)⟩
  · next hb ha =>
    cases hd
    exact Or.inr ⟨rfl, habove.mp ha, fun hpos htakes => by cases hb.symm.trans (hbelow.mpr ⟨htakes, hpos⟩)⟩
  · cases hd

theorem takes_of_onGrid? (h : 0 < a.digits) (hd : a.interval.onGrid? e = some d) :
    a.Takes (d * 10 ^ e) ∧ 0 < d ∧ d ≤ a.interval.floor e + 1 := by
  rcases of_onGrid?_eq_some h hd with ⟨rfl, hpos, htakes, -⟩ | ⟨rfl, htakes, -⟩
  · exact ⟨htakes, hpos, Nat.le_succ _⟩
  · exact ⟨htakes, Nat.succ_pos _, le_rfl⟩

/-- **No other point** of the grid that is taken in is nearer to the number. -/
theorem closest_of_onGrid? (h : 0 < a.digits) (hd : a.interval.onGrid? e = some d) {point : Nat}
    (hpos : 0 < point) (hpoint : a.Takes (point * 10 ^ e)) :
    |d * 10 ^ e - a.toRat| ≤ |point * 10 ^ e - a.toRat| := by
  have hten : (0 : ℚ) < 10 ^ e := by positivity
  have hfloor := a.floor_le e
  have hceil := a.lt_floor_add_one e
  have hnext : ((a.interval.floor e + 1 : Nat) : ℚ) * 10 ^ e = a.interval.floor e * 10 ^ e + 10 ^ e := by
    push_cast
    ring
  rcases Nat.lt_or_ge (a.interval.floor e) point with hlt | hge
  · -- the point is not below the next one, which is then taken in
    have hle : ((a.interval.floor e + 1 : Nat) : ℚ) * 10 ^ e ≤ point * 10 ^ e :=
      mul_le_mul_of_nonneg_right (by exact_mod_cast hlt) hten.le
    have habove := hpoint.of_between a.takes_self hceil.le hle
    have hpointAbs : |point * 10 ^ e - a.toRat| = point * 10 ^ e - a.toRat := abs_of_nonneg (by linarith)
    rw [hpointAbs]
    rcases of_onGrid?_eq_some h hd with ⟨rfl, -, -, hnear⟩ | ⟨rfl, -, -⟩
    · have := hnear habove
      rw [abs_of_nonpos (by linarith)]
      linarith
    · rw [abs_of_nonneg (by linarith)]
      linarith
  · have hle : (point : ℚ) * 10 ^ e ≤ a.interval.floor e * 10 ^ e :=
      mul_le_mul_of_nonneg_right (by exact_mod_cast hge) hten.le
    have hbelow := a.takes_self.of_between hpoint hle hfloor
    have hpointAbs : |point * 10 ^ e - a.toRat| = -(point * 10 ^ e - a.toRat) :=
      abs_of_nonpos (by linarith)
    rw [hpointAbs]
    rcases of_onGrid?_eq_some h hd with ⟨rfl, -, -, -⟩ | ⟨rfl, -, hnear⟩
    · rw [abs_of_nonpos (by linarith)]
      linarith
    · have := hnear (Nat.lt_of_lt_of_le hpos hge) hbelow
      rw [abs_of_nonneg (by linarith)]
      linarith

/-- One of the two points next to the number is enough for something to be found. -/
theorem exists_onGrid?_of_holds (h : a.interval.holds e (a.interval.floor e) = true ∧
    0 < a.interval.floor e ∨ a.interval.holds e (a.interval.floor e + 1) = true) :
    ∃ d, a.interval.onGrid? e = some d := by
  simp only [Interval.onGrid?]
  split
  · exact ⟨_, rfl⟩
  · exact ⟨_, rfl⟩
  · exact ⟨_, rfl⟩
  · next hb ha =>
    rcases h with ⟨hholds, hpos⟩ | hholds
    · simp only [Interval.floor] at hholds hpos
      simp [hholds, hpos] at hb
    · cases ha.symm.trans hholds

/-- **A grid that is fine enough** has a point in the interval. -/
theorem exists_onGrid?_of_step (h : 0 < a.digits) (hstep : 10 ^ e ≤ a.reach * a.quarter) :
    ∃ d, a.interval.onGrid? e = some d := by
  have hquarter := a.quarter_pos
  have hfloor := a.floor_le e
  have hceil := a.lt_floor_add_one e
  rw [Nat.cast_succ, add_mul, one_mul] at hceil
  -- one step of the grid leads neither out of the interval nor down to zero
  refine exists_onGrid?_of_holds (Or.inl ⟨(holds_iff h).mpr (takes_of_lt (by linarith) (by linarith)), ?_⟩)
  refine Nat.pos_of_ne_zero fun hzero => ?_
  have hdigits : (1 : ℚ) ≤ a.digits := by exact_mod_cast h
  have hreach : (a.reach : ℚ) ≤ 2 := a.reach_le
  rw [hzero, Nat.cast_zero, zero_mul, zero_add, a.toRat_eq_quarters] at hceil
  nlinarith

/-- **A grid with a point in the interval** has one next to the number. -/
theorem exists_onGrid?_of_takes (h : 0 < a.digits) (hd : 0 < d) (htakes : a.Takes (d * 10 ^ e)) :
    ∃ d, a.interval.onGrid? e = some d := by
  have hten : (0 : ℚ) < 10 ^ e := by positivity
  rcases Nat.lt_or_ge (a.interval.floor e) d with hlt | hge
  · -- the point is above the number, so it is at or above the next one
    have hle : ((a.interval.floor e + 1 : Nat) : ℚ) * 10 ^ e ≤ d * 10 ^ e :=
      mul_le_mul_of_nonneg_right (by exact_mod_cast hlt) hten.le
    exact exists_onGrid?_of_holds (Or.inr ((holds_iff h).mpr
      (htakes.of_between a.takes_self (a.lt_floor_add_one e).le hle)))
  · have hle : (d : ℚ) * 10 ^ e ≤ a.interval.floor e * 10 ^ e :=
      mul_le_mul_of_nonneg_right (by exact_mod_cast hge) hten.le
    exact exists_onGrid?_of_holds (Or.inl ⟨(holds_iff h).mpr
      (a.takes_self.of_between htakes hle (a.floor_le e)), Nat.lt_of_lt_of_le hd hge⟩)

/-! ## The search -/

/-- **The search** stops at the first grid where something is found. -/
theorem search_first (tries : Nat) (h : ∃ k < tries, ∃ d, a.interval.onGrid? (e - k) = some d) :
    ∃ d f, a.interval.search tries e = ⟨d, f⟩ ∧ e - tries < f ∧ f ≤ e ∧
      a.interval.onGrid? f = some d ∧ ∀ g, f < g → g ≤ e → a.interval.onGrid? g = none := by
  induction tries generalizing e with
  | zero =>
    obtain ⟨k, hk, -⟩ := h
    exact absurd hk (Nat.not_lt_zero k)
  | succ tries ih =>
    rw [Interval.search]
    cases hgrid : a.interval.onGrid? e with
    | some d => exact ⟨d, e, rfl, by omega, le_rfl, hgrid, fun g hg hge => by omega⟩
    | none =>
      obtain ⟨k, hk, d, hd⟩ := h
      obtain ⟨j, rfl⟩ : ∃ j, k = j + 1 := by
        refine Nat.exists_eq_succ_of_ne_zero fun hzero => ?_
        rw [hzero, Nat.cast_zero, sub_zero, hgrid] at hd
        cases hd
      have hshift : e - 1 - (j : Int) = e - (j + 1 : Nat) := by
        push_cast
        ring
      obtain ⟨d, f, hsearch, hlow, hhigh, hfound, hfirst⟩ :=
        ih (e := e - 1) ⟨j, by omega, d, by rwa [hshift]⟩
      refine ⟨d, f, hsearch, by push_cast; omega, by omega, hfound, fun g hg hge => ?_⟩
      rcases hge.lt_or_eq with hlt | rfl
      · exact hfirst g hg (by omega)
      · exact hgrid

/-! ## The first digit -/

/-- The logarithm of a magnitude is bounded either way. -/
theorem bits_bounds (ha : a.IsProper) (h : 0 < a.digits) :
    -1076 ≤ (a.interval.value.num.log2 : Int) - a.interval.value.den.log2 ∧
      (a.interval.value.num.log2 : Int) - a.interval.value.den.log2 < 1024 := by
  have hdigits := ha.digits_lt
  have hlow := ha.le_exponent
  have hhigh := ha.exponent_le
  have hvalue : a.interval.value = Quotient.ofScaled (4 * a.digits) (a.exponent - 2) := rfl
  rw [hvalue, Quotient.ofScaled]
  split
  · have hlog : (4 * a.digits * 2 ^ (a.exponent - 2).toNat).log2 < 1024 := by
      rw [Nat.log2_lt (by positivity)]
      calc
        4 * a.digits * 2 ^ (a.exponent - 2).toNat < 2 ^ 55 * 2 ^ (a.exponent - 2).toNat :=
          Nat.mul_lt_mul_of_pos_right (by omega) (Nat.two_pow_pos _)
        _ = 2 ^ (55 + (a.exponent - 2).toNat) := (Nat.pow_add _ _ _).symm
        _ ≤ 2 ^ 1024 := Nat.pow_le_pow_right (by decide) (by omega)
    have hone : Nat.log2 1 = 0 := by decide
    simp only [hone]
    omega
  · have hlog : (4 * a.digits).log2 < 55 := by
      rw [Nat.log2_lt (by omega)]
      omega
    simp only [Nat.log2_two_pow]
    omega

/-- The exponent of the power of ten above the number. -/
def top (a : Magnitude) : Int :=
  topExponent a.interval.value 8
    (((a.interval.value.num.log2 : Int) - a.interval.value.den.log2) * 30103 / 100000 - 1)

/-- **The number of digits before the point** is found from the logarithm, which is known up to a few
units. -/
theorem top_spec (ha : a.IsProper) (h : 0 < a.digits) :
    (10 : ℚ) ^ (a.top - 1) ≤ a.toRat ∧ a.toRat < 10 ^ a.top := by
  obtain ⟨hlow, hhigh⟩ := bits_bounds ha h
  have hden : 0 < a.interval.value.den := Quotient.den_ofScaled_pos _ _
  have hnum : a.interval.value.num ≠ 0 := by
    intro hzero
    have hvalue : a.toRat = 0 := by rw [← a.toRat_value, Quotient.toRat, hzero, Nat.cast_zero, zero_div]
    exact (pos_of_takes h a.takes_self).ne' hvalue
  have hbelow := Quotient.two_zpow_lt_toRat hnum hden.ne'
  have habove := Quotient.toRat_lt_two_zpow (q := a.interval.value) hden.ne'
  rw [← a.toRat_value]
  refine topExponent_spec hden ?_ ?_
  · exact (ten_zpow_le_two_zpow (by omega)).trans hbelow.le
  · exact habove.trans_le (two_zpow_le_ten_zpow (by push_cast; omega))

/-! ## The shortest decimal -/

/-- Is the decimal, before its zeros are removed, found on the first grid that has a point in the
interval? -/
structure Found (a : Magnitude) (t : Tenfold) : Prop where
  shortest_eq : a.shortest = t.stripped 20
  fine : a.top - 20 ≤ t.exponent
  coarse : t.exponent ≤ a.top - 1
  hit : a.interval.onGrid? t.exponent = some t.digits
  first : ∀ f, t.exponent < f → f ≤ a.top - 1 → a.interval.onGrid? f = none

/-- **Twenty digits** are enough, for no magnitude has more than 53 binary ones. -/
theorem exists_found (ha : a.IsProper) (h : 0 < a.digits) : ∃ t, a.Found t := by
  have hstep : (10 : ℚ) ^ (a.top - 1 - (19 : Nat)) ≤ a.reach * a.quarter := by
    have hdigits : (a.digits : ℚ) < 2 ^ 53 := by exact_mod_cast ha.digits_lt
    have hlow := (top_spec ha h).1
    have hquarter := a.quarter_pos
    have hreach := a.one_le_reach
    rw [zpow_sub₀ (by norm_num), div_le_iff₀ (by positivity), zpow_natCast]
    rw [toRat_eq_quarters] at hlow
    nlinarith
  obtain ⟨d, e, hsearch, hfine, hcoarse, hhit, hfirst⟩ :=
    search_first 20 ⟨19, by decide, exists_onGrid?_of_step h hstep⟩
  have hfine' : a.top - 20 ≤ e := by
    push_cast at hfine
    omega
  exact ⟨⟨d, e⟩, congrArg (Tenfold.stripped 20) hsearch, hfine', hcoarse, hhit, hfirst⟩

/-- **A magnitude takes in its shortest decimal**, which is not zero. -/
theorem takes_shortest (ha : a.IsProper) (h : 0 < a.digits) :
    a.Takes a.shortest.toRat ∧ 0 < a.shortest.digits := by
  obtain ⟨t, ht⟩ := exists_found ha h
  obtain ⟨htakes, hpos, -⟩ := takes_of_onGrid? h ht.hit
  rw [ht.shortest_eq, Tenfold.toRat_stripped]
  exact ⟨htakes, Tenfold.digits_stripped_pos hpos⟩

/-- The shortest decimal has no more digits than lead from the power of ten above the number down to the
grid where it is found. -/
theorem Found.digits_lt {t : Tenfold} (ht : a.Found t) (ha : a.IsProper) (h : 0 < a.digits) {k : Nat}
    (hk : a.top = t.exponent + k) : a.shortest.digits < 10 ^ k := by
  have hcoarse := ht.coarse
  have hfine := ht.fine
  have hfloor : (a.interval.floor t.exponent : ℚ) < 10 ^ k := by
    have hle := a.floor_le t.exponent
    have hlt := (top_spec ha h).2
    rw [hk, add_comm, zpow_add₀ (by norm_num), zpow_natCast] at hlt
    exact lt_of_mul_lt_mul_right (hle.trans_lt hlt) (by positivity)
  have hnext : a.interval.floor t.exponent + 1 ≤ 10 ^ k := by exact_mod_cast hfloor
  rw [ht.shortest_eq]
  rcases ((takes_of_onGrid? h ht.hit).2.2.trans hnext).lt_or_eq with hlt | heq
  · exact (Tenfold.digits_stripped_le _ _).trans_lt hlt
  · -- the power of ten above the number: one digit, and zeros
    have hone : (t.stripped 20).digits = 1 := by
      obtain ⟨digits, exponent⟩ := t
      cases heq
      exact Tenfold.digits_stripped_pow (by omega) _
    rw [hone]
    exact Nat.one_lt_pow (by omega) (by decide)

/-- A decimal that is taken in has a digit. -/
theorem one_le_places (h : 0 < a.digits) {u : Tenfold} (hu : a.Takes u.toRat) {n : Nat}
    (hn : u.digits < 10 ^ n) : 0 < u.digits ∧ 1 ≤ n := by
  have hpos : 0 < u.digits := by
    refine Nat.pos_of_ne_zero fun hzero => (pos_of_takes h hu).ne' ?_
    rw [Tenfold.toRat, hzero, Nat.cast_zero, zero_mul]
  refine ⟨hpos, Nat.one_le_iff_ne_zero.mpr fun hzero => ?_⟩
  rw [hzero, pow_zero] at hn
  omega

/-- **A decimal of few digits** that is taken in is matched by a point of a coarse grid: by itself, or by
the power of ten below the number, if this one is still above it. -/
theorem exists_point_of_digits_lt (ha : a.IsProper) (h : 0 < a.digits) {u : Tenfold}
    (hu : a.Takes u.toRat) {n : Nat} (hn : u.digits < 10 ^ n) :
    ∃ point : Nat, 0 < point ∧ a.Takes (point * 10 ^ (a.top - n)) ∧
      |point * 10 ^ (a.top - n) - a.toRat| ≤ |u.toRat - a.toRat| := by
  obtain ⟨hpos, hplaces⟩ := one_le_places h hu hn
  rcases Int.lt_or_le u.exponent (a.top - n) with hlt | hle
  · have hlow := (top_spec ha h).1
    have hbelow : u.toRat ≤ 10 ^ (a.top - 1) := by
      calc
        u.toRat ≤ 10 ^ n * 10 ^ u.exponent :=
          mul_le_mul_of_nonneg_right (by exact_mod_cast hn.le) (by positivity)
        _ = 10 ^ (n + u.exponent) := by rw [zpow_add₀ (by norm_num), zpow_natCast]
        _ ≤ 10 ^ (a.top - 1) := zpow_le_zpow_right₀ (by norm_num) (by omega)
    have hpower : ((10 ^ (n - 1) : Nat) : ℚ) * 10 ^ (a.top - n) = 10 ^ (a.top - 1) := by
      have hexp : a.top - 1 = (n - 1 : Nat) + (a.top - n) := by omega
      rw [hexp, zpow_add₀ (by norm_num), zpow_natCast]
      push_cast
      rfl
    refine ⟨10 ^ (n - 1), Nat.pow_pos (by decide), ?_, ?_⟩
    · rw [hpower]
      exact a.takes_self.of_between hu hbelow hlow
    · rw [hpower, abs_of_nonpos (by linarith), abs_of_nonpos (by linarith)]
      linarith
  · obtain ⟨k, hk⟩ := Int.eq_ofNat_of_zero_le (show 0 ≤ u.exponent - (a.top - n) by omega)
    have hvalue : ((u.digits * 10 ^ k : Nat) : ℚ) * 10 ^ (a.top - n) = u.toRat := by
      have hexp : u.exponent = k + (a.top - n) := by omega
      rw [Tenfold.toRat, hexp, zpow_add₀ (by norm_num), zpow_natCast]
      push_cast
      ring
    refine ⟨u.digits * 10 ^ k, Nat.mul_pos hpos (Nat.pow_pos (by decide)), ?_, ?_⟩
    · rwa [hvalue]
    · rw [hvalue]

/-- **No decimal with fewer digits** is taken in than the shortest one. -/
theorem digits_shortest_lt (ha : a.IsProper) (h : 0 < a.digits) {u : Tenfold} (hu : a.Takes u.toRat)
    {n : Nat} (hn : u.digits < 10 ^ n) : a.shortest.digits < 10 ^ n := by
  obtain ⟨t, ht⟩ := exists_found ha h
  obtain ⟨point, hpos, hpoint, -⟩ := exists_point_of_digits_lt ha h hu hn
  obtain ⟨d, hd⟩ := exists_onGrid?_of_takes h hpos hpoint
  have hcoarse := ht.coarse
  have hplaces := (one_le_places h hu hn).2
  have hexp : a.top - n ≤ t.exponent := by
    by_contra hlt
    cases hd.symm.trans (ht.first _ (not_le.mp hlt) (by omega))
  obtain ⟨k, hk⟩ := Int.eq_ofNat_of_zero_le (show 0 ≤ a.top - t.exponent by omega)
  calc
    a.shortest.digits < 10 ^ k := ht.digits_lt ha h (by omega)
    _ ≤ 10 ^ n := Nat.pow_le_pow_right (by decide) (by omega)

/-- **No decimal with as few digits** that is taken in is nearer than the shortest one. -/
theorem closest_shortest (ha : a.IsProper) (h : 0 < a.digits) {u : Tenfold} (hu : a.Takes u.toRat)
    (hn : ∀ n, a.shortest.digits < 10 ^ n → u.digits < 10 ^ n) :
    |a.shortest.toRat - a.toRat| ≤ |u.toRat - a.toRat| := by
  obtain ⟨t, ht⟩ := exists_found ha h
  have hcoarse := ht.coarse
  obtain ⟨k, hk⟩ := Int.eq_ofNat_of_zero_le (show 0 ≤ a.top - t.exponent by omega)
  have hdigits := hn k (ht.digits_lt ha h (by omega))
  obtain ⟨point, hpos, hpoint, hle⟩ := exists_point_of_digits_lt ha h hu hdigits
  have hexp : a.top - k = t.exponent := by omega
  rw [hexp] at hpoint hle
  rw [ht.shortest_eq, Tenfold.toRat_stripped]
  exact (closest_of_onGrid? h ht.hit hpos hpoint).trans hle

end Magnitude

/-! ## Signs -/

/-- Is the decimal, under the sign of the number, read as the number, and of those that the number takes
in one with the fewest digits, and the closest of these? -/
structure Binary64.IsShortest (b : Binary64) (t : Tenfold) : Prop where
  nearest : b.IsNearest (signed b.negative t.toRat)
  fewest : ∀ u : Tenfold, b.magnitude.Takes u.toRat → ∀ n, u.digits < 10 ^ n → t.digits < 10 ^ n
  closest : ∀ u : Tenfold, b.magnitude.Takes u.toRat →
    (∀ n, t.digits < 10 ^ n → u.digits < 10 ^ n) →
    |t.toRat - b.magnitude.toRat| ≤ |u.toRat - b.magnitude.toRat|

theorem Binary64.isShortest_shortest {b : Binary64} (hb : b.magnitude.IsProper)
    (h : 0 < b.magnitude.digits) : b.IsShortest b.magnitude.shortest := by
  have htakes := (Magnitude.takes_shortest hb h).1
  have hpos := Magnitude.pos_of_takes h htakes
  exact ⟨Binary64.isNearest_of_takes hb htakes hpos.le fun _ => hpos,
    fun u hu n hn => Magnitude.digits_shortest_lt hb h hu hn,
    fun u hu hn => Magnitude.closest_shortest hb h hu hn⟩

theorem Binary64.isShortest_zero {b : Binary64} (hb : b.magnitude.IsProper)
    (h : b.magnitude.digits = 0) : b.IsShortest ⟨0, 0⟩ := by
  have hvalue : Tenfold.toRat ⟨0, 0⟩ = 0 := by rw [Tenfold.toRat, Nat.cast_zero, zero_mul]
  have hzero : b.magnitude.toRat = 0 := by rw [Magnitude.toRat, h, Nat.cast_zero, zero_mul]
  refine ⟨?_, fun u hu n hn => Nat.pow_pos (by decide), fun u hu hn => ?_⟩
  · rw [hvalue]
    exact Binary64.isNearest_of_takes hb (Magnitude.takes_zero h) le_rfl fun hpos => absurd h hpos.ne'
  · rw [hvalue, hzero, sub_self, abs_zero]
    exact abs_nonneg _

end SinkCheck.Decimal
