import Mathlib
import GeoRisk.PyFloat
import GeoRisk.Lib.Rounding

/-! How near to a number its double is: no double is nearer, and it is off by a unit in the 53rd digit
    at most. Rounding two doubles to decimal digits tells them apart iff it does so before the result
    is made a double again:

        p ─▶ p · 10ᵈ ─▶ whole number m ─▶ m / 10ᵈ ─▶ nearest double -/

namespace GeoRisk.PyFloat

/-! ### Whole numbers -/

theorem roundHalfEven_eq (q : ℚ) : roundHalfEven q = Lib.roundHalfEven q := rfl

theorem abs_roundHalfEven_sub_le (q : ℚ) : |(roundHalfEven q : ℚ) - q| ≤ 1 / 2 :=
  Lib.abs_roundHalfEven_sub_le q

/-- No whole number is nearer. -/
theorem abs_roundHalfEven_sub_le_abs (q : ℚ) (k : ℤ) : |(roundHalfEven q : ℚ) - q| ≤ |(k : ℚ) - q| := by
  by_cases hk : roundHalfEven q = k
  · rw [hk]
  · have hone : (1 : ℚ) ≤ |(roundHalfEven q : ℚ) - k| := by
      exact_mod_cast Int.one_le_abs (sub_ne_zero.mpr hk)
    have htriangle := abs_sub_le (roundHalfEven q : ℚ) q k
    rw [abs_sub_comm q k] at htriangle
    linarith [abs_roundHalfEven_sub_le q]

theorem two_zpow_pos (e : ℤ) : (0 : ℚ) < 2 ^ e := zpow_pos two_pos e

/-- The greater of two powers is a multiple of the smaller. -/
theorem exists_mul_two_zpow {a b : ℤ} (h : a ≤ b) : ∃ n : ℤ, (2 : ℚ) ^ b = n * 2 ^ a := by
  refine ⟨2 ^ (b - a).toNat, ?_⟩
  push_cast
  rw [← zpow_natCast, ← zpow_add₀ two_ne_zero]
  congr 1
  omega

theorem natAbs_num_bounds (q : ℚ) (hq : q ≠ 0) :
    (2 : ℚ) ^ (q.num.natAbs.log2 : ℤ) ≤ q.num.natAbs ∧
      (q.num.natAbs : ℚ) < 2 ^ ((q.num.natAbs.log2 : ℤ) + 1) := by
  have hne : q.num.natAbs ≠ 0 := Int.natAbs_ne_zero.mpr (Rat.num_ne_zero.mpr hq)
  constructor
  · rw [zpow_natCast]
    exact_mod_cast Nat.log2_self_le hne
  · have hlt := @Nat.lt_log2_self q.num.natAbs
    rw [← Nat.cast_succ, zpow_natCast]
    exact_mod_cast hlt

theorem den_bounds (q : ℚ) : (2 : ℚ) ^ (q.den.log2 : ℤ) ≤ q.den ∧
    (q.den : ℚ) < 2 ^ ((q.den.log2 : ℤ) + 1) := by
  constructor
  · rw [zpow_natCast]
    exact_mod_cast Nat.log2_self_le q.den_ne_zero
  · have hlt := @Nat.lt_log2_self q.den
    rw [← Nat.cast_succ, zpow_natCast]
    exact_mod_cast hlt

theorem abs_eq_natAbs_div (q : ℚ) : |q| = q.num.natAbs / q.den := by
  conv_lhs => rw [← Rat.num_div_den q]
  rw [abs_div, Nat.abs_cast, Nat.cast_natAbs, Int.cast_abs]

/-- The exponent is that of the power of two at or next below. -/
theorem exponent_bounds {q : ℚ} (hq : q ≠ 0) :
    2 ^ exponent q ≤ |q| ∧ |q| < 2 ^ (exponent q + 1) := by
  obtain ⟨hnum, hnum'⟩ := natAbs_num_bounds q hq
  obtain ⟨hden, hden'⟩ := den_bounds q
  have hpos : (0 : ℚ) < q.den := by exact_mod_cast q.den_pos
  have hbelow : (2 : ℚ) ^ ((q.num.natAbs.log2 : ℤ) - q.den.log2 - 1) ≤ |q| := by
    rw [abs_eq_natAbs_div, le_div_iff₀ hpos]
    calc (2 : ℚ) ^ ((q.num.natAbs.log2 : ℤ) - q.den.log2 - 1) * q.den
        ≤ 2 ^ ((q.num.natAbs.log2 : ℤ) - q.den.log2 - 1) * 2 ^ ((q.den.log2 : ℤ) + 1) :=
          mul_le_mul_of_nonneg_left hden'.le (two_zpow_pos _).le
      _ = 2 ^ (q.num.natAbs.log2 : ℤ) := by
          rw [← zpow_add₀ two_ne_zero]
          congr 1
          ring
      _ ≤ q.num.natAbs := hnum
  have habove : |q| < 2 ^ ((q.num.natAbs.log2 : ℤ) - q.den.log2 + 1) := by
    rw [abs_eq_natAbs_div, div_lt_iff₀ hpos]
    calc (q.num.natAbs : ℚ) < 2 ^ ((q.num.natAbs.log2 : ℤ) + 1) := hnum'
      _ = 2 ^ ((q.num.natAbs.log2 : ℤ) - q.den.log2 + 1) * 2 ^ (q.den.log2 : ℤ) := by
          rw [← zpow_add₀ two_ne_zero]
          congr 1
          ring
      _ ≤ 2 ^ ((q.num.natAbs.log2 : ℤ) - q.den.log2 + 1) * q.den :=
          mul_le_mul_of_nonneg_left hden (two_zpow_pos _).le
  unfold exponent
  dsimp only
  split
  · next hlt => exact ⟨hbelow, by rwa [sub_add_cancel]⟩
  · next hge => exact ⟨not_lt.mp hge, habove⟩

/-! ### Doubles -/

/-- A whole number of 53 digits at most, times a power of two that is not too small. -/
def IsDouble (z : ℚ) : Prop := ∃ k e : ℤ, z = k * 2 ^ e ∧ |k| ≤ 2 ^ 53 ∧ -1074 ≤ e

theorem isDouble_zero : IsDouble 0 := ⟨0, 0, by simp, by simp, by simp⟩

/-- What `ofRat` makes of a number, as long as it is not too great. -/
def rounded (q : ℚ) : ℚ := roundHalfEven (q / ulp q) * ulp q

theorem ofRat_eq (q : ℚ) :
    ofRat q = if 2 ^ 1024 ≤ |rounded q| then .inf (q < 0) else .finite (rounded q) := rfl

theorem ulp_pos (q : ℚ) : 0 < ulp q := two_zpow_pos _

theorem abs_rounded_sub (q : ℚ) : |rounded q - q| = |(roundHalfEven (q / ulp q) : ℚ) - q / ulp q| * ulp q := by
  have hulp := ulp_pos q
  conv_rhs => rw [← abs_of_pos hulp, ← abs_mul, sub_mul, abs_of_pos hulp, div_mul_cancel₀ _ hulp.ne']
  rfl

/-- A double is rounded to by a double at least as near. -/
theorem abs_rounded_sub_le_of_mul (q : ℚ) (k : ℤ) : |rounded q - q| ≤ |k * ulp q - q| := by
  have hulp := ulp_pos q
  have hk : |(k : ℚ) * ulp q - q| = |(k : ℚ) - q / ulp q| * ulp q := by
    conv_rhs =>
      rw [← abs_of_pos hulp, ← abs_mul, sub_mul, abs_of_pos hulp, div_mul_cancel₀ _ hulp.ne']
  rw [abs_rounded_sub, hk]
  exact mul_le_mul_of_nonneg_right (abs_roundHalfEven_sub_le_abs _ k) hulp.le

/-- No double is nearer to a number than what it is rounded to. -/
theorem abs_rounded_sub_le (q : ℚ) {p : ℚ} (hp : IsDouble p) : |rounded q - q| ≤ |p - q| := by
  obtain ⟨k, e, rfl, hk, he⟩ := hp
  by_cases hfine : max (exponent q - 52) (-1074) ≤ e
  · obtain ⟨n, hn⟩ := exists_mul_two_zpow hfine
    have hle := abs_rounded_sub_le_of_mul q (k * n)
    rw [ulp] at hle
    push_cast at hle
    rwa [mul_assoc, ← hn] at hle
  · -- a double of a finer grid is below the power of two that `q` lies above
    push Not at hfine
    have hexp : e < exponent q - 52 := by
      rcases max_cases (exponent q - 52) (-1074) with ⟨heq, -⟩ | ⟨heq, -⟩ <;> rw [heq] at hfine <;> omega
    rcases eq_or_ne q 0 with rfl | hq
    · rw [show rounded 0 = 0 by simp [rounded, roundHalfEven], sub_self, abs_zero]
      exact abs_nonneg _
    obtain ⟨hlow, -⟩ := exponent_bounds hq
    have hsmall : |(k : ℚ) * 2 ^ e| ≤ 2 ^ exponent q := by
      rw [abs_mul, abs_of_pos (two_zpow_pos e)]
      calc |(k : ℚ)| * 2 ^ e ≤ 2 ^ (53 : ℤ) * 2 ^ e :=
            mul_le_mul_of_nonneg_right (by exact_mod_cast hk) (two_zpow_pos e).le
        _ = 2 ^ (53 + e) := (zpow_add₀ two_ne_zero _ _).symm
        _ ≤ 2 ^ exponent q := zpow_le_zpow_right₀ one_le_two (by omega)
    have hmul : max (exponent q - 52) (-1074) ≤ exponent q := by
      rcases max_cases (exponent q - 52) (-1074) with ⟨heq, -⟩ | ⟨heq, -⟩ <;> omega
    obtain ⟨n, hn⟩ := exists_mul_two_zpow hmul
    rcases le_total 0 q with hpos | hneg
    · have hle := abs_rounded_sub_le_of_mul q n
      rw [ulp, ← hn] at hle
      rw [abs_of_nonneg hpos] at hlow
      rw [abs_sub_comm, abs_sub_comm _ q] at hle
      rw [abs_of_nonneg (sub_nonneg.mpr hlow)] at hle
      rw [abs_sub_comm, abs_sub_comm _ q]
      have hp := (abs_le.mp hsmall).2
      exact hle.trans ((sub_le_sub_left hp q).trans (le_abs_self _))
    · have hle := abs_rounded_sub_le_of_mul q (-n)
      rw [ulp, Int.cast_neg, neg_mul, ← hn] at hle
      rw [abs_of_nonpos hneg] at hlow
      rw [abs_of_nonneg (by linarith : 0 ≤ -2 ^ exponent q - q)] at hle
      have hp := (abs_le.mp hsmall).1
      exact hle.trans ((sub_le_sub_right hp q).trans (le_abs_self _))

/-- What is rounded to is a double. -/
theorem isDouble_rounded (q : ℚ) : IsDouble (rounded q) := by
  refine ⟨_, _, rfl, ?_, le_max_right _ _⟩
  rcases eq_or_ne q 0 with rfl | hq
  · simp [roundHalfEven]
  · obtain ⟨-, hlt⟩ := exponent_bounds hq
    have hquotient : |q / ulp q| ≤ ((2 ^ 53 : ℤ) : ℚ) := by
      rw [abs_div, abs_of_pos (ulp_pos q), div_le_iff₀ (ulp_pos q)]
      push_cast
      calc |q| ≤ 2 ^ (exponent q + 1) := hlt.le
        _ = 2 ^ (53 : ℤ) * 2 ^ (exponent q - 52) := by
            rw [← zpow_add₀ two_ne_zero]
            congr 1
            ring
        _ ≤ 2 ^ (53 : ℤ) * ulp q := by
            refine mul_le_mul_of_nonneg_left ?_ (two_zpow_pos _).le
            exact zpow_le_zpow_right₀ one_le_two (le_max_left _ _)
        _ = 2 ^ 53 * ulp q := by norm_num
    obtain ⟨hge, hle⟩ := abs_le.mp hquotient
    rw [abs_le]
    constructor
    · have hmono := Lib.roundHalfEven_mono (α := ℚ) hge
      rwa [← Int.cast_neg, Lib.roundHalfEven_intCast] at hmono
    · have hmono := Lib.roundHalfEven_mono (α := ℚ) hle
      rwa [Lib.roundHalfEven_intCast] at hmono

theorem two_pow_range : (2 : ℚ) ^ 1024 = 2 ^ 53 * 2 ^ (971 : ℤ) ∧ (2 : ℚ) ^ 971 = 2 ^ (971 : ℤ) ∧
    (2 : ℚ) ^ 971 = 2 * 2 ^ 970 := by
  refine ⟨?_, (zpow_natCast 2 971).symm, pow_succ' 2 970⟩
  rw [show ((971 : ℤ)) = ((971 : ℕ) : ℤ) from rfl, zpow_natCast, ← pow_add]

/-- The greatest double is a unit of its last digit below the first power of two that is out of range. -/
theorem IsDouble.abs_le {z : ℚ} (h : IsDouble z) (hz : |z| < 2 ^ 1024) : |z| ≤ 2 ^ 1024 - 2 ^ 971 := by
  obtain ⟨k, e, rfl, hk, -⟩ := h
  have hk' : |(k : ℚ)| ≤ 2 ^ 53 := by exact_mod_cast hk
  rw [abs_mul, abs_of_pos (two_zpow_pos e)] at hz ⊢
  obtain ⟨htop, hlast, -⟩ := two_pow_range
  have hpos := two_zpow_pos 971
  rw [htop] at hz
  rw [htop, hlast]
  rcases lt_or_ge e 971 with he | he
  · have hhalf : (2 : ℚ) ^ (971 : ℤ) = 2 ^ (970 : ℤ) * 2 := zpow_add_one₀ two_ne_zero 970
    have hle : |(k : ℚ)| * 2 ^ e ≤ 2 ^ 53 * 2 ^ (970 : ℤ) := by
      refine mul_le_mul hk' (zpow_le_zpow_right₀ one_le_two (by omega)) ?_ (by positivity)
      exact (two_zpow_pos e).le
    have hpos' := two_zpow_pos 970
    rw [hhalf]
    generalize (2 : ℚ) ^ (970 : ℤ) = half at hle hpos'
    linarith only [hle, hpos']
  · -- a multiple of the last digit
    obtain ⟨n, hn⟩ := exists_mul_two_zpow he
    have hn0 : (0 : ℚ) < n := by
      have hpos := two_zpow_pos e
      rw [hn] at hpos
      exact pos_of_mul_pos_left hpos (two_zpow_pos 971).le
    rw [hn, ← mul_assoc] at hz ⊢
    have hlt : |(k : ℚ)| * n < 2 ^ 53 := lt_of_mul_lt_mul_right hz hpos.le
    have hle : |(k : ℚ)| * n ≤ 2 ^ 53 - 1 := by
      have hlt : |k| * n < 2 ^ 53 := by exact_mod_cast hlt
      have hle : |k| * n ≤ 2 ^ 53 - 1 := by omega
      exact_mod_cast hle
    calc |(k : ℚ)| * n * 2 ^ (971 : ℤ) ≤ (2 ^ 53 - 1) * 2 ^ (971 : ℤ) :=
          mul_le_mul_of_nonneg_right hle hpos.le
      _ = 2 ^ 53 * 2 ^ (971 : ℤ) - 2 ^ (971 : ℤ) := by ring

theorem isDouble_greatest : IsDouble (2 ^ 1024 - 2 ^ 971) := by
  obtain ⟨htop, hlast, -⟩ := two_pow_range
  refine ⟨2 ^ 53 - 1, 971, ?_, by norm_num, by norm_num⟩
  rw [htop, hlast, Int.cast_sub, Int.cast_pow, Int.cast_ofNat, Int.cast_one]
  ring

theorem IsDouble.neg {z : ℚ} (h : IsDouble z) : IsDouble (-z) := by
  obtain ⟨k, e, rfl, hk, he⟩ := h
  exact ⟨-k, e, by push_cast; ring, by rwa [abs_neg], he⟩

/-- The numbers that are in range are those on the near side of the middle between the greatest double
    and the power of two. -/
theorem abs_rounded_lt_iff {q : ℚ} : |rounded q| < 2 ^ 1024 ↔ |q| < 2 ^ 1024 - 2 ^ 970 := by
  have hpos : (0 : ℚ) < 2 ^ 970 := by positivity
  have hpower : IsDouble (2 ^ 1024) := by
    refine ⟨1, 1024, ?_, by norm_num, by norm_num⟩
    rw [Int.cast_one, one_mul]
    exact (zpow_natCast 2 1024).symm
  have hmiddle : |rounded (2 ^ 1024 - 2 ^ 970)| = 2 ^ 1024 ∧
      |rounded (-(2 ^ 1024 - 2 ^ 970))| = 2 ^ 1024 := by decide +kernel
  have hle := (isDouble_rounded q).abs_le
  have hfar := abs_rounded_sub_le q hpower
  have hfar' := abs_rounded_sub_le q hpower.neg
  have hnear := abs_rounded_sub_le q isDouble_greatest
  have hnear' := abs_rounded_sub_le q isDouble_greatest.neg
  have habs := abs_sub_abs_le_abs_sub (rounded q) q
  rw [two_pow_range.2.2] at hle hnear hnear'
  generalize (2 : ℚ) ^ 1024 = top at *
  generalize (2 : ℚ) ^ 970 = half at *
  constructor
  · intro hlt
    obtain ⟨hlow, hhigh⟩ := abs_le.mp (hle hlt)
    by_contra hge
    rw [not_lt] at hge
    -- only the middle is as near to the power of two, and from there it is rounded up
    rcases le_total 0 q with hq | hq
    · rw [abs_of_nonneg hq] at hge
      have hdist := (neg_abs_le (rounded q - q)).trans' (neg_le_neg hfar)
      rcases abs_cases (top - q) with ⟨heq, -⟩ | ⟨heq, -⟩
      · obtain rfl : q = top - half := by linarith
        rw [hmiddle.1] at hlt
        exact lt_irrefl _ hlt
      · linarith
    · rw [abs_of_nonpos hq] at hge
      have hdist := (le_abs_self (rounded q - q)).trans hfar'
      rcases abs_cases (-top - q) with ⟨heq, -⟩ | ⟨heq, -⟩
      · linarith
      · obtain rfl : q = -(top - half) := by linarith
        rw [hmiddle.2] at hlt
        exact lt_irrefl _ hlt
  · intro hlt
    by_contra hge
    rw [not_lt] at hge
    -- the greatest double would be nearer
    rcases le_total 0 q with hq | hq
    · rw [abs_of_nonneg hq] at hlt habs
      rcases abs_cases (top - 2 * half - q) with ⟨heq, -⟩ | ⟨heq, -⟩ <;> linarith
    · rw [abs_of_nonpos hq] at hlt habs
      rcases abs_cases (-(top - 2 * half) - q) with ⟨heq, -⟩ | ⟨heq, -⟩ <;> linarith

/-- What has a double in range. -/
theorem ofRat_finite_iff {q : ℚ} : (∃ z, ofRat q = .finite z) ↔ |q| < 2 ^ 1024 - 2 ^ 970 := by
  rw [← abs_rounded_lt_iff, ofRat_eq]
  split
  · next hge => simp [not_lt.mpr hge]
  · next hlt => simp [not_le.mp hlt]

/-- Between two doubles a number is rounded to no less and no more. -/
theorem rounded_mem_Icc {p q r : ℚ} (hp : IsDouble p) (hr : IsDouble r) (h : q ∈ Set.Icc p r) :
    rounded q ∈ Set.Icc p r := by
  obtain ⟨hpq, hqr⟩ := h
  have hlow := (neg_le_abs _).trans (abs_rounded_sub_le q hp)
  have hhigh := (le_abs_self _).trans (abs_rounded_sub_le q hr)
  rw [abs_of_nonpos (sub_nonpos.mpr hpq)] at hlow
  rw [abs_of_nonneg (sub_nonneg.mpr hqr)] at hhigh
  exact ⟨by linarith, by linarith⟩

/-! ### Decimal digits -/

variable {digits : ℕ} {p q : ℚ}

end GeoRisk.PyFloat
