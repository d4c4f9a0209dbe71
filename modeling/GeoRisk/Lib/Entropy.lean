import Mathlib
import GeoRisk.Lib.Numerals

/-! The entropy of a list of non-negative numbers, divided by the greatest entropy that so many numbers
    may have:

        all in one place  0  ≤  H  ≤  1  evenly spread

    Numbers that are all zero have no shares; their entropy is 0 by convention. -/

namespace Lib

variable {n : ℕ} {x : Fin n → ℝ}

noncomputable def normalizedEntropy (x : Fin n → ℝ) : ℝ :=
  (∑ i, Real.negMulLog (x i / ∑ k, x k)) / Real.log n

theorem share_nonneg (hx : ∀ i, 0 ≤ x i) (i : Fin n) : 0 ≤ x i / ∑ k, x k :=
  div_nonneg (hx i) (Finset.sum_nonneg fun k _ => hx k)

theorem share_le_one (hx : ∀ i, 0 ≤ x i) (i : Fin n) : x i / ∑ k, x k ≤ 1 :=
  div_le_one_of_le₀ (Finset.single_le_sum (fun k _ => hx k) (Finset.mem_univ i))
    (Finset.sum_nonneg fun k _ => hx k)

theorem normalizedEntropy_nonneg (hx : ∀ i, 0 ≤ x i) : 0 ≤ normalizedEntropy x :=
  div_nonneg (Finset.sum_nonneg fun i _ => Real.negMulLog_nonneg (share_nonneg hx i)
    (share_le_one hx i)) (Real.log_natCast_nonneg n)

theorem sum_negMulLog_uniform (hn : 0 < n) :
    ∑ _i : Fin n, Real.negMulLog (1 / n : ℝ) = Real.log n := by
  have hpos : (0 : ℝ) < n := by exact_mod_cast hn
  rw [Finset.sum_const, Finset.card_univ, Fintype.card_fin, nsmul_eq_mul, Real.negMulLog, one_div,
    Real.log_inv]
  field_simp

/-- Shares that are not even have less entropy. -/
theorem sum_negMulLog_le (hn : 0 < n) {p : Fin n → ℝ} (hp : ∀ i, 0 ≤ p i) (hsum : ∑ i, p i = 1) :
    ∑ i, Real.negMulLog (p i) ≤ Real.log n := by
  have hpos : (0 : ℝ) < n := by exact_mod_cast hn
  have hjensen := Real.concaveOn_negMulLog.le_map_sum (t := Finset.univ) (w := fun _ : Fin n => (1 / n : ℝ))
    (p := p) (fun _ _ => by positivity) (by simp [hpos.ne']) fun i _ => hp i
  simp only [smul_eq_mul, ← Finset.mul_sum, hsum, mul_one] at hjensen
  rw [← sum_negMulLog_uniform hn, Finset.sum_const, Finset.card_univ, Fintype.card_fin, nsmul_eq_mul]
  calc ∑ i, Real.negMulLog (p i)
      = n * (1 / n * ∑ i, Real.negMulLog (p i)) := by field_simp
    _ ≤ n * Real.negMulLog (1 / n) := mul_le_mul_of_nonneg_left hjensen hpos.le

theorem normalizedEntropy_zero (hx : ∀ i, x i = 0) : normalizedEntropy x = 0 := by
  simp [normalizedEntropy, hx]

theorem normalizedEntropy_le_one (hx : ∀ i, 0 ≤ x i) : normalizedEntropy x ≤ 1 := by
  by_cases hsum : ∑ k, x k = 0
  · have hzero := (Finset.sum_eq_zero_iff_of_nonneg fun i _ => hx i).mp hsum
    rw [normalizedEntropy_zero fun i => hzero i (Finset.mem_univ i)]
    exact zero_le_one
  · have hn : 0 < n := by
      rcases Nat.eq_zero_or_pos n with rfl | hn
      · exact absurd (by simp) hsum
      · exact hn
    refine div_le_one_of_le₀ (sum_negMulLog_le hn (share_nonneg hx) ?_) (Real.log_natCast_nonneg n)
    rw [← Finset.sum_div, div_self hsum]

/-- Numbers that are all the same are spread evenly. -/
theorem normalizedEntropy_const (hn : 2 ≤ n) {c : ℝ} (hc : c ≠ 0) (hx : ∀ i, x i = c) :
    normalizedEntropy x = 1 := by
  have hn0 : (n : ℝ) ≠ 0 := by
    have : n ≠ 0 := by omega
    exact_mod_cast this
  have hlog : Real.log n ≠ 0 := (Real.log_pos (by exact_mod_cast hn)).ne'
  have hshare : ∀ i, x i / ∑ k, x k = 1 / n := by
    intro i
    simp only [hx, Finset.sum_const, Finset.card_univ, Fintype.card_fin, nsmul_eq_mul]
    field_simp
  rw [normalizedEntropy]
  simp only [hshare]
  rw [sum_negMulLog_uniform (by omega), div_self hlog]

/-- All in one place. -/
theorem normalizedEntropy_single {i : Fin n} (hx : ∀ k ≠ i, x k = 0) : normalizedEntropy x = 0 := by
  have hshare : ∀ k, Real.negMulLog (x k / ∑ l, x l) = 0 := by
    intro k
    rw [Fintype.sum_eq_single i hx]
    by_cases hk : k = i
    · rw [hk]
      by_cases hzero : x i = 0
      · simp [hzero]
      · rw [div_self hzero, Real.negMulLog_one]
    · rw [hx k hk, zero_div, Real.negMulLog_zero]
  simp [normalizedEntropy, hshare]

end Lib
