import SinkCheck.Proofs.Decimal.Values
/-
  What a binary number takes in.

  A magnitude takes in the numbers of an interval around it (`Magnitude.Takes`): halfway to its
  neighbours, which below a power of two is only half as far, and the ends too if its digits are even.
  Whatever it takes in is nearer to it than to any other magnitude, or as near as to one of them where
  its digits are even; so a reader that rounds to the nearest, ties to even, finds it again.  A sign
  changes nothing of this.

  Main statements: `Magnitude.nearest_of_takes` and `Binary64.isNearest_of_takes`.
-/

namespace SinkCheck.Decimal

namespace Magnitude

variable {a c : Magnitude} {x : ℚ}

/-! ## The interval -/

/-- A quarter of the last digit, the unit of the interval. -/
def quarter (a : Magnitude) : ℚ := 2 ^ (a.exponent - 2)

/-- How many quarters the interval reaches down: half of the gap to the neighbour below. -/
def reach (a : Magnitude) : Nat := if a.digits = 2 ^ 52 ∧ -1074 < a.exponent then 1 else 2

/-- Does the number lie in the interval of the magnitude? -/
def Takes (a : Magnitude) (x : ℚ) : Prop :=
  if a.digits % 2 = 0 then a.toRat - a.reach * a.quarter ≤ x ∧ x ≤ a.toRat + 2 * a.quarter
  else a.toRat - a.reach * a.quarter < x ∧ x < a.toRat + 2 * a.quarter

theorem quarter_pos (a : Magnitude) : 0 < a.quarter := by
  unfold quarter
  positivity

theorem reach_eq (a : Magnitude) : a.reach = 1 ∨ a.reach = 2 := by
  unfold reach
  split
  · exact Or.inl rfl
  · exact Or.inr rfl

theorem reach_le (a : Magnitude) : (a.reach : ℚ) ≤ 2 := by
  rcases a.reach_eq with h | h <;> rw [h] <;> norm_num

theorem one_le_reach (a : Magnitude) : (1 : ℚ) ≤ a.reach := by
  rcases a.reach_eq with h | h <;> rw [h] <;> norm_num

theorem reach_mul_quarter_pos (a : Magnitude) : 0 < a.reach * a.quarter :=
  mul_pos (lt_of_lt_of_le one_pos a.one_le_reach) a.quarter_pos

theorem two_zpow_exponent (a : Magnitude) : (2 : ℚ) ^ a.exponent = 4 * a.quarter := by
  rw [quarter, zpow_sub₀ (by norm_num)]
  norm_num
  ring

theorem toRat_eq_quarters (a : Magnitude) : a.toRat = 4 * a.digits * a.quarter := by
  rw [toRat, two_zpow_exponent]
  ring

theorem takes_of_lt (hlow : a.toRat - a.reach * a.quarter < x) (hhigh : x < a.toRat + 2 * a.quarter) :
    a.Takes x := by
  unfold Takes
  split
  · exact ⟨hlow.le, hhigh.le⟩
  · exact ⟨hlow, hhigh⟩

theorem Takes.le (h : a.Takes x) :
    a.toRat - a.reach * a.quarter ≤ x ∧ x ≤ a.toRat + 2 * a.quarter := by
  unfold Takes at h
  split at h
  · exact h
  · exact ⟨h.1.le, h.2.le⟩

theorem takes_self (a : Magnitude) : a.Takes a.toRat := by
  have hreach := a.reach_mul_quarter_pos
  have hquarter := a.quarter_pos
  exact takes_of_lt (by linarith) (by linarith)

/-- What lies between two numbers that are taken in is taken in. -/
theorem Takes.of_between {y z : ℚ} (hz : a.Takes z) (hx : a.Takes x) (hxy : x ≤ y) (hyz : y ≤ z) :
    a.Takes y := by
  unfold Takes at hx hz ⊢
  split
  · next heven =>
    rw [if_pos heven] at hx hz
    exact ⟨hx.1.trans hxy, hyz.trans hz.2⟩
  · next hodd =>
    rw [if_neg hodd] at hx hz
    exact ⟨lt_of_lt_of_le hx.1 hxy, lt_of_le_of_lt hyz hz.2⟩

/-! ## Nearness -/

/-- A magnitude of no smaller exponent is a whole number of last digits. -/
theorem exists_toRat_eq (h : a.exponent ≤ c.exponent) : ∃ n : Nat, c.toRat = 4 * n * a.quarter := by
  obtain ⟨k, hk⟩ := Int.eq_ofNat_of_zero_le (show 0 ≤ c.exponent - a.exponent by omega)
  have hexp : c.exponent = k + a.exponent := by omega
  refine ⟨c.digits * 2 ^ k, ?_⟩
  rw [toRat, hexp, zpow_add₀ (by norm_num), two_zpow_exponent, zpow_natCast]
  push_cast
  ring

/-- No other magnitude lies between a magnitude and its two neighbours. -/
theorem gap (ha : a.IsProper) (hc : c.IsProper) (hne : c.toRat ≠ a.toRat) :
    c.toRat ≤ a.toRat - 2 * (a.reach * a.quarter) ∨ a.toRat + 4 * a.quarter ≤ c.toRat := by
  have hpos := a.quarter_pos
  rcases Int.lt_or_le c.exponent a.exponent with hlt | hle
  · -- then the other one is at most the number below the least one of 53 digits
    left
    have hnormal : 2 ^ 52 ≤ a.digits := ha.normal.resolve_left (by have := hc.le_exponent; omega)
    have hbelow : c.toRat ≤ (2 ^ 53 - 1) * (2 * a.quarter) := by
      have hdigits : (c.digits : ℚ) ≤ 2 ^ 53 - 1 := by
        have := hc.digits_lt
        have hle : c.digits + 1 ≤ 2 ^ 53 := this
        have : (c.digits : ℚ) + 1 ≤ 2 ^ 53 := by exact_mod_cast hle
        linarith
      have hpower : (2 : ℚ) ^ c.exponent ≤ 2 * a.quarter := by
        have hexp : (2 : ℚ) ^ (a.exponent - 1) = 2 * a.quarter := by
          rw [quarter, ← zpow_one_add₀ (by norm_num)]
          congr 1
          omega
        rw [← hexp]
        exact zpow_le_zpow_right₀ (by norm_num) (by omega)
      exact mul_le_mul hdigits hpower (by positivity) (by norm_num)
    rw [a.toRat_eq_quarters]
    by_cases hleast : a.digits = 2 ^ 52
    · have hreach : a.reach = 1 := if_pos ⟨hleast, by have := hc.le_exponent; omega⟩
      rw [hreach, hleast]
      push_cast
      linarith
    · have hmore : (2 : ℚ) ^ 52 + 1 ≤ a.digits := by
        have : 2 ^ 52 + 1 ≤ a.digits := by omega
        exact_mod_cast this
      have hreach := a.reach_le
      nlinarith
  · -- then both are whole numbers of last digits, and not the same
    obtain ⟨n, hn⟩ := exists_toRat_eq hle
    rw [hn, a.toRat_eq_quarters] at hne ⊢
    have hreach := a.reach_le
    have hdigits : n ≠ a.digits := fun h => hne (by rw [h])
    rcases Nat.lt_or_gt_of_ne hdigits with hlt | hgt
    · left
      have : (n : ℚ) + 1 ≤ a.digits := by exact_mod_cast hlt
      nlinarith
    · right
      have : (a.digits : ℚ) + 1 ≤ n := by exact_mod_cast hgt
      nlinarith

/-- **What a magnitude takes in** is nearer to it than to any other one, or as near where its digits are
even. -/
theorem nearest_of_takes (ha : a.IsProper) (hc : c.IsProper) (hne : c.toRat ≠ a.toRat)
    (h : a.Takes x) : |x - a.toRat| < |x - c.toRat| ∨
      |x - a.toRat| = |x - c.toRat| ∧ a.digits % 2 = 0 := by
  have hquarter := a.quarter_pos
  have hreach := a.reach_mul_quarter_pos
  -- the distances are compared by their squares
  have hsquares : (x - c.toRat) ^ 2 - (x - a.toRat) ^ 2 =
      (a.toRat - c.toRat) * (2 * x - a.toRat - c.toRat) := by ring
  by_cases heven : a.digits % 2 = 0
  · obtain ⟨hlow, hhigh⟩ := h.le
    rw [and_iff_left heven, ← le_iff_lt_or_eq, ← sq_le_sq, ← sub_nonneg, hsquares]
    rcases gap ha hc hne with hbelow | habove
    · exact mul_nonneg (by linarith) (by linarith)
    · exact mul_nonneg_of_nonpos_of_nonpos (by linarith) (by linarith)
  · obtain ⟨hlow, hhigh⟩ : a.toRat - a.reach * a.quarter < x ∧ x < a.toRat + 2 * a.quarter := by
      rwa [Takes, if_neg heven] at h
    left
    rw [← sq_lt_sq, ← sub_pos, hsquares]
    rcases gap ha hc hne with hbelow | habove
    · exact mul_pos (by linarith) (by linarith)
    · exact mul_pos_of_neg_of_neg (by linarith) (by linarith)

/-- A magnitude other than zero takes in no number that is not above zero. -/
theorem pos_of_takes (ha : 0 < a.digits) (h : a.Takes x) : 0 < x := by
  have hquarter := a.quarter_pos
  have hdigits : (1 : ℚ) ≤ a.digits := by exact_mod_cast ha
  have hreach := a.reach_le
  have hlow := h.le.1
  rw [toRat_eq_quarters] at hlow
  nlinarith

/-- Zero takes in zero. -/
theorem takes_zero (ha : a.digits = 0) : a.Takes 0 := by
  have hvalue : a.toRat = 0 := by rw [toRat, ha, Nat.cast_zero, zero_mul]
  rw [← hvalue]
  exact a.takes_self

end Magnitude

/-! ## Signs -/

/-- The value of a magnitude under a sign. -/
def signed (negative : Bool) (x : ℚ) : ℚ := if negative then -x else x

/-- Is the number the nearest one to `q`?  Another may be as near only where its digits are even. -/
def Binary64.IsNearest (b : Binary64) (q : ℚ) : Prop :=
  ∀ c : Binary64, c.magnitude.IsProper → c.toRat ≠ b.toRat →
    |q - b.toRat| < |q - c.toRat| ∨ |q - b.toRat| = |q - c.toRat| ∧ b.magnitude.digits % 2 = 0

theorem abs_signed_sub (negative : Bool) (x y : ℚ) :
    |signed negative x - signed negative y| = |x - y| := by
  cases negative with
  | false => rfl
  | true =>
    show |(-x) - (-y)| = |x - y|
    rw [neg_sub_neg, abs_sub_comm]

theorem abs_signed_sub_of_ne {negative other : Bool} (h : negative ≠ other) {x y : ℚ} (hx : 0 ≤ x)
    (hy : 0 ≤ y) : |signed negative x - signed other y| = x + y := by
  have hsum : 0 ≤ x + y := add_nonneg hx hy
  have hpos : |x - -y| = x + y := by rw [sub_neg_eq_add, abs_of_nonneg hsum]
  cases negative with
  | false =>
    cases other with
    | false => exact absurd rfl h
    | true => exact hpos
  | true =>
    cases other with
    | false =>
      show |-x - y| = x + y
      rw [← neg_add', abs_neg, abs_of_nonneg hsum]
    | true => exact absurd rfl h

/-- Under another sign a number is not nearer. -/
theorem abs_sub_le_abs_signed_sub {x y : ℚ} (hx : 0 ≤ x) (hy : 0 ≤ y) (negative other : Bool) :
    |x - y| ≤ |signed negative x - signed other y| := by
  by_cases h : negative = other
  · rw [h, abs_signed_sub]
  · rw [abs_signed_sub_of_ne h hx hy, abs_le]
    constructor <;> linarith

theorem Binary64.toRat_eq_signed (b : Binary64) : b.toRat = signed b.negative b.magnitude.toRat := rfl

/-- **A number is the nearest one** to whatever its magnitude takes in, under its sign. -/
theorem Binary64.isNearest_of_takes {b : Binary64} {x : ℚ} (hb : b.magnitude.IsProper)
    (h : b.magnitude.Takes x) (hx : 0 ≤ x) (hpos : 0 < b.magnitude.digits → 0 < x) :
    b.IsNearest (signed b.negative x) := by
  intro c hc hne
  have hle := abs_sub_le_abs_signed_sub hx c.magnitude.toRat_nonneg b.negative c.negative
  have hsigned : |signed b.negative x - b.toRat| = |x - b.magnitude.toRat| := abs_signed_sub _ _ _
  rw [hsigned, c.toRat_eq_signed]
  by_cases hsame : c.magnitude.toRat = b.magnitude.toRat
  · -- only the sign differs, and neither number is zero
    have hsign : b.negative ≠ c.negative := by
      intro hnegative
      exact hne (by rw [c.toRat_eq_signed, b.toRat_eq_signed, hsame, hnegative])
    have hdigits : 0 < b.magnitude.digits := by
      refine Nat.pos_of_ne_zero fun hzero => hne ?_
      have hvalue : b.magnitude.toRat = 0 := by rw [Magnitude.toRat, hzero, Nat.cast_zero, zero_mul]
      rw [c.toRat_eq_signed, b.toRat_eq_signed, hsame, hvalue]
      simp [signed]
    have hvalue : 0 < b.magnitude.toRat := by
      have : (0 : ℚ) < b.magnitude.digits := by exact_mod_cast hdigits
      unfold Magnitude.toRat
      positivity
    left
    rw [hsame, abs_signed_sub_of_ne hsign hx hvalue.le, abs_lt]
    have := hpos hdigits
    constructor <;> linarith
  · rcases Magnitude.nearest_of_takes hb hc hsame h with hlt | ⟨heq, heven⟩
    · exact Or.inl (lt_of_lt_of_le hlt hle)
    · rw [heq]
      rcases hle.lt_or_eq with hlt | heq
      · exact Or.inl hlt
      · exact Or.inr ⟨heq, heven⟩

end SinkCheck.Decimal
