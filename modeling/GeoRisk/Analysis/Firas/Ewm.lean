import Mathlib
import GeoRisk.Analysis.StageResult
import GeoRisk.Lib.Entropy
import GeoRisk.Lib.Rounding

/-! The entropy weight method, over exact numbers. The less evenly a column is spread over the
    observations, the more it weighs:

        column ─▶ shares ─▶ entropy H ─▶ divergence 1 − H ─▶ weight (1 − H) / Σ (1 − H)

    A column that is all zero has shares too, all zero: it is taken for one with entropy 0, and weighs
    the most. -/

namespace GeoRisk.Analysis.Firas

/-! ### `compute_weights` -/

section Code

variable {α : Type} [Field α] [LinearOrder α] {n m : ℕ}

def colSum (matrix : Fin n → Fin m → α) (j : Fin m) : α :=
  let s := ∑ i, matrix i j
  if s ≠ 0 then s else 1 / 10 ^ 12

def proportion (matrix : Fin n → Fin m → α) (i : Fin n) (j : Fin m) : α :=
  matrix i j / colSum matrix j

def entropy (log : α → α) (matrix : Fin n → Fin m → α) (j : Fin m) : α :=
  -(1 / log n) * ∑ i,
    if 0 < proportion matrix i j then proportion matrix i j * log (proportion matrix i j) else 0

def divergence (log : α → α) (matrix : Fin n → Fin m → α) (j : Fin m) : α := 1 - entropy log matrix j

variable [FloorRing α]

def weights (log : α → α) (matrix : Fin n → Fin m → α) (j : Fin m) : α :=
  if n < 2 then Lib.roundTo 6 (1 / m)
  else
    let divergenceTotal := ∑ j, divergence log matrix j
    if divergenceTotal = 0 then Lib.roundTo 6 (1 / m)
    else Lib.roundTo 6 (divergence log matrix j / divergenceTotal)

/-- `compute_weights`, with the logarithm of `math`. -/
def computeWeights (log : α → α) (matrix : Fin n → Fin m → α) : List α × ConfidenceTier :=
  (if n = 0 then [] else List.ofFn (weights log matrix), confidenceTierForSampleSize n)

end Code

/-! ### Columns -/

variable {n m : ℕ} {matrix : Fin n → Fin m → ℝ}

def column (matrix : Fin n → Fin m → ℝ) (j : Fin m) : Fin n → ℝ := fun i => matrix i j

/-- The entropy of the code is the one that is divided by the greatest. -/
theorem entropy_eq (h : ∀ i j, 0 ≤ matrix i j) (j : Fin m) :
    entropy Real.log matrix j = Lib.normalizedEntropy (column matrix j) := by
  have hshare : ∀ i, proportion matrix i j = column matrix j i / ∑ k, column matrix j k := by
    intro i
    simp only [proportion, colSum]
    split
    · rfl
    · next hsum =>
      have hzero := (Finset.sum_eq_zero_iff_of_nonneg fun k _ => h k j).mp (not_not.mp hsum)
      simp only [column, hzero i (Finset.mem_univ i), zero_div]
  have hterm : ∀ i, (if 0 < proportion matrix i j then
      proportion matrix i j * Real.log (proportion matrix i j) else 0) =
        -Real.negMulLog (column matrix j i / ∑ k, column matrix j k) := by
    intro i
    rw [hshare i, Real.negMulLog, neg_mul, neg_neg]
    split
    · rfl
    · next hpos =>
      have hnonneg := Lib.share_nonneg (fun i => h i j) i
      rw [show column matrix j i / ∑ k, column matrix j k = 0 from
        le_antisymm (not_lt.mp hpos) hnonneg, zero_mul]
  simp only [entropy, hterm, Finset.sum_neg_distrib, Lib.normalizedEntropy]
  ring

/-- What a column diverges from an even spread. -/
noncomputable def spread (matrix : Fin n → Fin m → ℝ) (j : Fin m) : ℝ :=
  1 - Lib.normalizedEntropy (column matrix j)

theorem divergence_eq (h : ∀ i j, 0 ≤ matrix i j) (j : Fin m) :
    divergence Real.log matrix j = spread matrix j := by
  rw [divergence, entropy_eq h, spread]

theorem spread_nonneg (h : ∀ i j, 0 ≤ matrix i j) (j : Fin m) : 0 ≤ spread matrix j :=
  sub_nonneg.mpr (Lib.normalizedEntropy_le_one fun i => h i j)

theorem spread_le_one (h : ∀ i j, 0 ≤ matrix i j) (j : Fin m) : spread matrix j ≤ 1 :=
  sub_le_self _ (Lib.normalizedEntropy_nonneg fun i => h i j)

theorem spread_of_zero {j : Fin m} (hzero : ∀ i, matrix i j = 0) : spread matrix j = 1 := by
  rw [spread, Lib.normalizedEntropy_zero (x := column matrix j) hzero, sub_zero]

theorem spread_of_const (hn : 2 ≤ n) {j : Fin m} {c : ℝ} (hc : c ≠ 0)
    (hconst : ∀ i, matrix i j = c) : spread matrix j = 0 := by
  rw [spread, Lib.normalizedEntropy_const (x := column matrix j) hn hc hconst, sub_self]

/-- A column whose mass is in one row is taken for as informative as can be. -/
theorem spread_of_single {j : Fin m} {i : Fin n} (hsingle : ∀ k ≠ i, matrix k j = 0) :
    spread matrix j = 1 := by
  rw [spread, Lib.normalizedEntropy_single (x := column matrix j) hsingle, sub_zero]

/-! ### Weights -/

theorem weights_of_single (hn : n < 2) (j : Fin m) :
    weights Real.log matrix j = Lib.roundTo 6 (1 / m : ℝ) := if_pos hn

theorem weights_eq (hn : 2 ≤ n) (h : ∀ i j, 0 ≤ matrix i j) (j : Fin m) :
    weights Real.log matrix j =
      if ∑ j, spread matrix j = 0 then Lib.roundTo 6 (1 / m : ℝ)
      else Lib.roundTo 6 (spread matrix j / ∑ j, spread matrix j) := by
  rw [weights, if_neg (not_lt.mpr hn)]
  simp only [divergence_eq h]

/-- Shares of 1 add up to 1, but for the rounding of each. -/
theorem abs_sum_roundTo_sub_one_le {q : Fin m → ℝ} (hq : ∑ j, q j = 1) :
    |∑ j, Lib.roundTo 6 (q j) - 1| ≤ m * (5 / 10 ^ 7) := by
  rw [← hq, ← Finset.sum_sub_distrib]
  calc |∑ j, (Lib.roundTo 6 (q j) - q j)|
      ≤ ∑ j, |Lib.roundTo 6 (q j) - q j| := Finset.abs_sum_le_sum_abs _ _
    _ ≤ ∑ _j : Fin m, (5 / 10 ^ 7 : ℝ) := Finset.sum_le_sum fun j _ =>
        (Lib.abs_roundTo_sub_le 6 (q j)).trans (by norm_num)
    _ = m * (5 / 10 ^ 7) := by
        rw [Finset.sum_const, Finset.card_univ, Fintype.card_fin, nsmul_eq_mul]

structure IsDistribution (w : Fin m → ℝ) : Prop where
  nonneg : ∀ j, 0 ≤ w j
  sum : |∑ j, w j - 1| ≤ m * (5 / 10 ^ 7)

/-- The weights are the six-digit roundings of shares of 1. -/
theorem weights_eq_roundTo (hm : 1 ≤ m) (h : ∀ i j, 0 ≤ matrix i j) :
    ∃ q : Fin m → ℝ, (∀ j, 0 ≤ q j) ∧ ∑ j, q j = 1 ∧
      ∀ j, weights Real.log matrix j = Lib.roundTo 6 (q j) := by
  have hm0 : (m : ℝ) ≠ 0 := by
    have : m ≠ 0 := by omega
    exact_mod_cast this
  have hequal : ∑ _j : Fin m, (1 / m : ℝ) = 1 := by
    rw [Finset.sum_const, Finset.card_univ, Fintype.card_fin, nsmul_eq_mul]
    field_simp
  rcases Nat.lt_or_ge n 2 with hn | hn
  · exact ⟨fun _ => 1 / m, fun _ => by positivity, hequal, weights_of_single hn⟩
  · by_cases htotal : ∑ j, spread matrix j = 0
    · exact ⟨fun _ => 1 / m, fun _ => by positivity, hequal, fun j => by
        rw [weights_eq hn h, if_pos htotal]⟩
    · refine ⟨fun j => spread matrix j / ∑ j, spread matrix j, fun j => ?_, ?_, fun j => by
        rw [weights_eq hn h, if_neg htotal]⟩
      · exact div_nonneg (spread_nonneg h j) (Finset.sum_nonneg fun j _ => spread_nonneg h j)
      · rw [← Finset.sum_div, div_self htotal]

theorem isDistribution_weights (hm : 1 ≤ m) (h : ∀ i j, 0 ≤ matrix i j) :
    IsDistribution (weights Real.log matrix) := by
  obtain ⟨q, hq, hsum, hweights⟩ := weights_eq_roundTo hm h
  refine ⟨fun j => (hweights j).symm ▸ Lib.roundTo_nonneg (hq j), ?_⟩
  simp only [hweights]
  exact abs_sum_roundTo_sub_one_le hsum

/-! ### Uninformative columns -/

/-- A column whose entries are all equal weighs no more than any other. -/
def IgnoresConstant (matrix : Fin n → Fin m → ℝ) (w : Fin m → ℝ) : Prop :=
  ∀ j, (∃ c, ∀ i, matrix i j = c) → ∀ j', w j ≤ w j'

/-- If all columns are constant, the weights are equal. -/
def EqualIfConstant (matrix : Fin n → Fin m → ℝ) (w : Fin m → ℝ) : Prop :=
  (∀ j, ∃ c, ∀ i, matrix i j = c) → ∀ j j', w j = w j'

theorem IgnoresConstant.equal {w : Fin m → ℝ} (h : IgnoresConstant matrix w) :
    EqualIfConstant matrix w := fun hall j j' => le_antisymm (h j (hall j) j') (h j' (hall j') j)

/-- To six digits, all columns have the share of one that is as informative as can be. -/
def AllConcentrated (matrix : Fin n → Fin m → ℝ) : Prop :=
  ∀ j, Lib.roundTo 6 (spread matrix j / ∑ j, spread matrix j) =
    Lib.roundTo 6 (1 / ∑ j, spread matrix j)

theorem allConcentrated_of_single (h : ∀ j, ∃ i, ∀ k ≠ i, matrix k j = 0) :
    AllConcentrated matrix := by
  intro j
  obtain ⟨i, hi⟩ := h j
  rw [spread_of_single hi]

/-- A column that is spread noticeably is told apart from one that is not. -/
theorem not_allConcentrated_of_spread (h : ∀ i j, 0 ≤ matrix i j) {j₀ j : Fin m}
    (hzero : ∀ i, matrix i j₀ = 0) (hj : m / 10 ^ 6 < 1 - spread matrix j) :
    ¬ AllConcentrated matrix := by
  intro hall
  have hone : 1 ≤ ∑ j, spread matrix j :=
    (spread_of_zero hzero).symm.le.trans
      (Finset.single_le_sum (fun j _ => spread_nonneg h j) (Finset.mem_univ j₀))
  have hle : ∑ j, spread matrix j ≤ m := by
    refine (Finset.sum_le_sum fun j _ => spread_le_one h j).trans ?_
    simp
  rw [AllConcentrated] at hall
  generalize ∑ j, spread matrix j = total at hall hone hle
  have hpos : 0 < total := by linarith
  have hleft := abs_le.mp (Lib.abs_roundTo_sub_le 6 (spread matrix j / total))
  have hright := abs_le.mp (Lib.abs_roundTo_sub_le 6 (1 / total))
  rw [hall j] at hleft
  have hfar : 1 / 10 ^ 6 < 1 / total - spread matrix j / total := by
    rw [← sub_div, lt_div_iff₀ hpos]
    calc 1 / 10 ^ 6 * total ≤ m / 10 ^ 6 := by linarith
      _ < 1 - spread matrix j := hj
  linarith [hleft.1, hright.2]

theorem total_pos_of_zero (h : ∀ i j, 0 ≤ matrix i j) {j : Fin m} (hzero : ∀ i, matrix i j = 0) :
    0 < ∑ j, spread matrix j :=
  Finset.sum_pos' (fun j _ => spread_nonneg h j)
    ⟨j, Finset.mem_univ j, by rw [spread_of_zero hzero]; exact one_pos⟩

/-- What is expected of weights. -/
structure AreInformative (matrix : Fin n → Fin m → ℝ) (w : Fin m → ℝ) : Prop where
  distribution : IsDistribution w
  ignores : IgnoresConstant matrix w
  equal : EqualIfConstant matrix w

/-- The weights are a distribution for every matrix. They ignore constant columns iff there is one
    observation only, or no column is all zero, or all columns are as concentrated as one of these
    is taken to be: as they are when none has two non-zero entries, and as they are not when there
    is a column of zeros and one that is spread noticeably. -/
theorem computeWeights_informative_iff (hn : 1 ≤ n) (hm : 1 ≤ m) (h : ∀ i j, 0 ≤ matrix i j) :
    (∃ w : Fin m → ℝ, (computeWeights Real.log matrix).1 = List.ofFn w ∧ IsDistribution w ∧
      (AreInformative matrix w ↔
        n = 1 ∨ (∀ j, ∃ i, matrix i j ≠ 0) ∨ AllConcentrated matrix)) ∧
    ((∀ j, ∃ i, ∀ k ≠ i, matrix k j = 0) → AllConcentrated matrix) ∧
    ∀ j₀ j, (∀ i, matrix i j₀ = 0) → m / 10 ^ 6 < 1 - spread matrix j →
      ¬ AllConcentrated matrix := by
  refine ⟨?_, allConcentrated_of_single, fun j₀ j => not_allConcentrated_of_spread h⟩
  refine ⟨weights Real.log matrix, if_neg (by omega), isDistribution_weights hm h,
    fun hclaim => ?_, fun hcond => ?_⟩
  · rcases Nat.lt_or_ge n 2 with hn | hn
    · exact .inl (by omega)
    · refine .inr ?_
      by_contra hnot
      push Not at hnot
      obtain ⟨⟨j₀, hzero⟩, hnot⟩ := hnot
      refine hnot fun j => ?_
      have htotal := total_pos_of_zero h hzero
      have hle := hclaim.ignores j₀ ⟨0, hzero⟩ j
      simp only [weights_eq hn h, if_neg htotal.ne', spread_of_zero hzero] at hle
      refine le_antisymm (Lib.roundTo_mono ?_) hle
      exact div_le_div_of_nonneg_right (spread_le_one h j) htotal.le
  · have hdistribution := isDistribution_weights hm h
    suffices hignores : IgnoresConstant matrix (weights Real.log matrix) from
      ⟨hdistribution, hignores, hignores.equal⟩
    rintro j ⟨c, hconst⟩ j'
    rcases Nat.lt_or_ge n 2 with hn | hn
    · rw [weights_of_single hn, weights_of_single hn]
    · by_cases htotal : ∑ j, spread matrix j = 0
      · rw [weights_eq hn h, weights_eq hn h, if_pos htotal, if_pos htotal]
      · by_cases hc : c = 0
        · -- a column of zeros: by the condition no other weighs less
          have hzero : ∀ i, matrix i j = 0 := fun i => (hconst i).trans hc
          have hall : AllConcentrated matrix := by
            rcases hcond with hn' | hnonzero | hall
            · omega
            · obtain ⟨i, hi⟩ := hnonzero j
              exact absurd (hzero i) hi
            · exact hall
          rw [weights_eq hn h, weights_eq hn h, if_neg htotal, if_neg htotal, hall j, hall j']
        · rw [weights_eq hn h, if_neg htotal, spread_of_const hn hc hconst, zero_div, Lib.roundTo_zero]
          exact hdistribution.nonneg j'

theorem computeWeights_informative_iff_two :
    1 ≤ 2 ∧ ∃ w : Fin 2 → ℝ,
      (computeWeights Real.log (fun i j => (i.val + 2 * j.val + 1 : ℝ) : Fin 2 → Fin 2 → ℝ)).1 =
        List.ofFn w ∧ IsDistribution w ∧
      (AreInformative (fun i j => (i.val + 2 * j.val + 1 : ℝ) : Fin 2 → Fin 2 → ℝ) w ↔
        2 = 1 ∨ (∀ j : Fin 2, ∃ i : Fin 2, (i.val + 2 * j.val + 1 : ℝ) ≠ 0) ∨
          AllConcentrated (fun i j => (i.val + 2 * j.val + 1 : ℝ) : Fin 2 → Fin 2 → ℝ)) :=
  ⟨by decide, (computeWeights_informative_iff (by decide) (by decide) fun i j => by positivity).1⟩

/-- Of two constant columns the one that is all zero gets all the weight. -/
theorem zero_column_outweighs :
    (computeWeights Real.log (fun _ j => (j.val : ℝ) : Fin 2 → Fin 2 → ℝ)).1 = List.ofFn ![1, 0] ∧
      ¬ AreInformative (fun _ j => (j.val : ℝ) : Fin 2 → Fin 2 → ℝ) ![1, 0] := by
  have hnonneg : ∀ (_i : Fin 2) (j : Fin 2), (0 : ℝ) ≤ j.val := fun _ j => Nat.cast_nonneg _
  have hzero : spread (fun _ j => (j.val : ℝ) : Fin 2 → Fin 2 → ℝ) 0 = 1 :=
    spread_of_zero fun _ => by simp
  have hone : spread (fun _ j => (j.val : ℝ) : Fin 2 → Fin 2 → ℝ) 1 = 0 :=
    spread_of_const le_rfl one_ne_zero fun _ => by simp
  have htotal : ∑ j, spread (fun _ j => (j.val : ℝ) : Fin 2 → Fin 2 → ℝ) j = 1 := by
    rw [Fin.sum_univ_two, hzero, hone, add_zero]
  have hweights := weights_eq le_rfl hnonneg
  simp only [htotal, if_neg one_ne_zero, div_one] at hweights
  refine ⟨congrArg List.ofFn (funext fun j => ?_), fun hclaim => ?_⟩
  · rw [hweights j]
    fin_cases j
    · exact (congrArg _ hzero).trans Lib.roundTo_one
    · exact (congrArg _ hone).trans Lib.roundTo_zero
  · have heq := hclaim.equal (fun j => ⟨j.val, fun _ => rfl⟩) 0 1
    exact one_ne_zero heq

end GeoRisk.Analysis.Firas
