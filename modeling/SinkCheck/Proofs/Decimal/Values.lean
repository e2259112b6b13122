import Mathlib.Algebra.Order.Field.Power
import Mathlib.Algebra.Order.Ring.Rat
import Mathlib.Data.Nat.Cast.Order.Field
import Mathlib.Tactic.FieldSimp
import Mathlib.Tactic.Linarith
import Mathlib.Tactic.NormNum
import Mathlib.Tactic.Positivity
import Mathlib.Tactic.Ring
import SinkCheck.Decimal.Shortest
/-
  The rational numbers behind binary and decimal ones.

  Magnitudes, decimals and quotients of naturals are compared and scaled in exact arithmetic of naturals.
  Here each of them is a rational number, and what is done to it is an operation on rationals: a power of
  two with a negative exponent is a denominator, a comparison is one of cross products.

  Main statements: `Quotient.le_iff` and `lt_iff`, `toRat_ofScaled` and `toRat_perTen`;
  `ten_zpow_le_two_zpow` and `two_zpow_le_ten_zpow`, which powers of the one base are surely below which
  of the other.
-/

namespace SinkCheck.Decimal

/-! ## Values -/

/-- The value of a magnitude. -/
def Magnitude.toRat (a : Magnitude) : ℚ := a.digits * 2 ^ a.exponent

/-- The value of a signed number; both zeros have the same. -/
def Binary64.toRat (b : Binary64) : ℚ := if b.negative then -b.magnitude.toRat else b.magnitude.toRat

/-- The value of a decimal. -/
def Tenfold.toRat (t : Tenfold) : ℚ := t.digits * 10 ^ t.exponent

/-- The value of a quotient. -/
def Quotient.toRat (q : Quotient) : ℚ := q.num / q.den

/-- Does the magnitude have at most 53 binary digits, exactly 53 unless its exponent is the least, and an
exponent within the bounds? -/
structure Magnitude.IsProper (a : Magnitude) : Prop where
  digits_lt : a.digits < 2 ^ 53
  le_exponent : -1074 ≤ a.exponent
  exponent_le : a.exponent ≤ 971
  normal : a.exponent = -1074 ∨ 2 ^ 52 ≤ a.digits

theorem Magnitude.toRat_nonneg (a : Magnitude) : 0 ≤ a.toRat := by
  unfold toRat
  positivity

/-! ## Quotients -/

namespace Quotient

variable {p q : Quotient}

theorem lt_iff (hp : 0 < p.den) (hq : 0 < q.den) : p.lt q = true ↔ p.toRat < q.toRat := by
  have hp' : (0 : ℚ) < p.den := by exact_mod_cast hp
  have hq' : (0 : ℚ) < q.den := by exact_mod_cast hq
  rw [lt, decide_eq_true_eq, toRat, toRat, div_lt_div_iff₀ hp' hq']
  exact_mod_cast Iff.rfl

theorem le_iff (hp : 0 < p.den) (hq : 0 < q.den) : p.le q = true ↔ p.toRat ≤ q.toRat := by
  have hp' : (0 : ℚ) < p.den := by exact_mod_cast hp
  have hq' : (0 : ℚ) < q.den := by exact_mod_cast hq
  rw [le, decide_eq_true_eq, toRat, toRat, div_le_div_iff₀ hp' hq']
  exact_mod_cast Iff.rfl

theorem den_ofScaled_pos (m : Nat) (e : Int) : 0 < (ofScaled m e).den := by
  unfold ofScaled
  split
  · exact Nat.one_pos
  · exact Nat.two_pow_pos _

theorem den_perTen_pos (hq : 0 < q.den) (e : Int) : 0 < (q.perTen e).den := by
  unfold perTen
  split
  · exact Nat.mul_pos hq (Nat.pow_pos (by decide))
  · exact hq

theorem toRat_ofScaled (m : Nat) (e : Int) : (ofScaled m e).toRat = m * 2 ^ e := by
  unfold ofScaled toRat
  split
  · next h =>
    obtain ⟨n, rfl⟩ := Int.eq_ofNat_of_zero_le h
    push_cast
    rw [Int.toNat_natCast, div_one, zpow_natCast]
  · next h =>
    obtain ⟨n, hn⟩ := Int.eq_ofNat_of_zero_le (show 0 ≤ -e by omega)
    have he : e = -(n : Int) := by omega
    subst he
    push_cast
    rw [neg_neg, Int.toNat_natCast, zpow_neg, zpow_natCast, div_eq_mul_inv]

/-- **Scaling** by a power of ten divides the value. -/
theorem toRat_perTen (q : Quotient) (e : Int) : (q.perTen e).toRat = q.toRat / 10 ^ e := by
  unfold perTen toRat
  split
  · next h =>
    obtain ⟨n, rfl⟩ := Int.eq_ofNat_of_zero_le h
    push_cast
    rw [Int.toNat_natCast, zpow_natCast, div_div]
  · next h =>
    obtain ⟨n, hn⟩ := Int.eq_ofNat_of_zero_le (show 0 ≤ -e by omega)
    have he : e = -(n : Int) := by omega
    subst he
    push_cast
    rw [neg_neg, Int.toNat_natCast, zpow_neg, zpow_natCast, div_inv_eq_mul]
    ring

/-- The whole part of a quotient is below its value, and one more is above. -/
theorem div_le_toRat (q : Quotient) : ((q.num / q.den : Nat) : ℚ) ≤ q.toRat := Nat.cast_div_le

theorem toRat_lt_div_add_one (hq : 0 < q.den) : q.toRat < ((q.num / q.den : Nat) : ℚ) + 1 := by
  have hq' : (0 : ℚ) < q.den := by exact_mod_cast hq
  rw [toRat, div_lt_iff₀ hq', mul_comm]
  exact_mod_cast Nat.lt_mul_div_succ q.num hq

/-- The logarithms of numerator and denominator tell the size of a quotient up to a factor of two. -/
theorem two_zpow_lt_toRat (hnum : q.num ≠ 0) (hden : q.den ≠ 0) :
    (2 : ℚ) ^ ((q.num.log2 : Int) - q.den.log2 - 1) < q.toRat := by
  have hlow : (2 : ℚ) ^ q.num.log2 ≤ q.num := by exact_mod_cast Nat.log2_self_le hnum
  have hhigh : (q.den : ℚ) < 2 ^ (q.den.log2 + 1) := by exact_mod_cast Nat.lt_log2_self
  have hpos : (0 : ℚ) < q.den := by exact_mod_cast Nat.pos_of_ne_zero hden
  have hexp : (q.num.log2 : Int) - q.den.log2 - 1 = q.num.log2 - ((q.den.log2 + 1 : Nat) : Int) := by
    push_cast
    ring
  rw [hexp, zpow_sub₀ (by norm_num), zpow_natCast, zpow_natCast, toRat,
    div_lt_div_iff₀ (by positivity) hpos]
  calc
    (2 : ℚ) ^ q.num.log2 * q.den ≤ q.num * q.den := mul_le_mul_of_nonneg_right hlow hpos.le
    _ < q.num * 2 ^ (q.den.log2 + 1) :=
      mul_lt_mul_of_pos_left hhigh (by exact_mod_cast Nat.pos_of_ne_zero hnum)

theorem toRat_lt_two_zpow (hden : q.den ≠ 0) :
    q.toRat < (2 : ℚ) ^ ((q.num.log2 : Int) - q.den.log2 + 1) := by
  have hhigh : (q.num : ℚ) < 2 ^ (q.num.log2 + 1) := by exact_mod_cast Nat.lt_log2_self
  have hlow : (2 : ℚ) ^ q.den.log2 ≤ q.den := by exact_mod_cast Nat.log2_self_le hden
  have hexp : (q.num.log2 : Int) - q.den.log2 + 1 = ((q.num.log2 + 1 : Nat) : Int) - q.den.log2 := by
    push_cast
    ring
  have hpos : (0 : ℚ) < q.den := by exact_mod_cast Nat.pos_of_ne_zero hden
  rw [hexp, zpow_sub₀ (by norm_num), zpow_natCast, zpow_natCast, toRat,
    div_lt_div_iff₀ hpos (by positivity)]
  calc
    (q.num : ℚ) * 2 ^ q.den.log2 ≤ q.num * q.den := mul_le_mul_of_nonneg_left hlow (by positivity)
    _ < 2 ^ (q.num.log2 + 1) * q.den := mul_lt_mul_of_pos_right hhigh hpos

end Quotient

/-! ## Powers of ten among powers of two -/

/-- Two bases are compared by a pair of their powers: if `x ^ i ≤ y ^ j`, then `x ^ m ≤ y ^ n` wherever `m`
is to `n` at most as `i` is to `j`. -/
theorem zpow_le_zpow_of_pow_le {x y : ℚ} (hx : 1 ≤ x) (hy : 0 < y) {i j : Nat} (hj : j ≠ 0)
    (h : x ^ i ≤ y ^ j) {m n : Int} (hn : 0 ≤ n) (hm : j * m ≤ i * n) : x ^ m ≤ y ^ n := by
  have hroot : (x ^ m) ^ j ≤ (y ^ n) ^ j := by
    calc
      (x ^ m) ^ j = x ^ (j * m) := by rw [mul_comm, zpow_mul, zpow_natCast]
      _ ≤ x ^ (i * n) := zpow_le_zpow_right₀ hx hm
      _ = (x ^ i) ^ n := by rw [zpow_mul, zpow_natCast]
      _ ≤ (y ^ j) ^ n := zpow_le_zpow_left₀ hn (by positivity) h
      _ = (y ^ n) ^ j := by rw [← zpow_natCast, zpow_comm, zpow_natCast]
  exact le_of_pow_le_pow_left₀ hj (by positivity) hroot

theorem ten_pow_le_two_pow : (10 : ℚ) ^ 59 ≤ 2 ^ 196 := by norm_num

theorem two_pow_le_ten_pow : (2 : ℚ) ^ 93 ≤ 10 ^ 28 := by norm_num

/-- `10 ^ m` is at most `2 ^ n` as long as `m` is to `n` at most as 59 to 196, or, below zero, as 28 to
93. -/
theorem ten_zpow_le_two_zpow {m n : Int} (h : 0 ≤ n ∧ 196 * m ≤ 59 * n ∨ m ≤ 0 ∧ 93 * m ≤ 28 * n) :
    (10 : ℚ) ^ m ≤ 2 ^ n := by
  rcases h with ⟨hn, hm⟩ | ⟨hm, hn⟩
  · exact zpow_le_zpow_of_pow_le (by norm_num) (by norm_num) (by decide) ten_pow_le_two_pow hn hm
  · have hinv : (2 : ℚ) ^ (-n) ≤ 10 ^ (-m) := zpow_le_zpow_of_pow_le (by norm_num) (by norm_num)
      (by decide) two_pow_le_ten_pow (by omega) (by push_cast; omega)
    rwa [zpow_neg, zpow_neg, inv_le_inv₀ (by positivity) (by positivity)] at hinv

/-- `2 ^ n` is at most `10 ^ m` as long as `n` is to `m` at most as 93 to 28, or, below zero, as 196 to
59. -/
theorem two_zpow_le_ten_zpow {m n : Int} (h : 0 ≤ m ∧ 28 * n ≤ 93 * m ∨ n ≤ 0 ∧ 59 * n ≤ 196 * m) :
    (2 : ℚ) ^ n ≤ 10 ^ m := by
  rcases h with ⟨hm, hn⟩ | ⟨hn, hm⟩
  · exact zpow_le_zpow_of_pow_le (by norm_num) (by norm_num) (by decide) two_pow_le_ten_pow hm hn
  · have hinv : (10 : ℚ) ^ (-m) ≤ 2 ^ (-n) := zpow_le_zpow_of_pow_le (by norm_num) (by norm_num)
      (by decide) ten_pow_le_two_pow (by omega) (by push_cast; omega)
    rwa [zpow_neg, zpow_neg, inv_le_inv₀ (by positivity) (by positivity)] at hinv

end SinkCheck.Decimal
