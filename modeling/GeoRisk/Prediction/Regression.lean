import Mathlib
import GeoRisk.Lib.GaussJordan
import GeoRisk.Lib.LeastSquares
import GeoRisk.Lib.Rounding

/-! The regression engine, over exact numbers: an intercept and a factor for each predictor, from the
    normal equations; then how well they fit. The only divisor of the residual sum that is not the
    number of observations is that of `mse`:

        rmse = √(ss_res / n)        mae = Σ|r| / n        mse = ss_res / (n − k − 1) -/

namespace GeoRisk.Prediction.Regression

open Matrix

variable {α : Type} [Field α] [LinearOrder α]

/-- What the module `math` computes. -/
structure Math (α : Type) where
  sqrt : α → α
  exp : α → α
  log : α → α
  lgamma : α → α

inductive RegressionError where
  | insufficientObservations (message : String)
  | value (message : String)
  deriving DecidableEq

/-- `_mean`. -/
def mean {n : ℕ} (values : Fin n → α) : α := if n = 0 then 0 else (∑ i, values i) / n

/-! ### `_mat_inv` -/

/-- The first of the rows from `col` on with the greatest entry in this column. -/
def pivotRow {m : ℕ} (col : Fin m) (aug : Lib.GaussJordan.Aug α m) : Fin m :=
  (((List.finRange m).filter fun r => col ≤ r).argmax fun r => |aug r (.inl col)|).getD col

/-- `_mat_inv`, `none` where it raises. -/
def matInv {m : ℕ} (A : Matrix (Fin m) (Fin m) α) : Option (Matrix (Fin m) (Fin m) α) :=
  Lib.GaussJordan.inverse pivotRow (fun p => |p| < 1 / 10 ^ 12) A

/-! ### `_t_distribution_two_tailed_p` -/

def atLeastTiny (d : α) : α := if |d| < 1 / 10 ^ 30 then 1 / 10 ^ 30 else d

/-- The continued fraction from its `m`-th step on, at most `steps` steps more. -/
def betaFraction (a b x : α) : ℕ → ℕ → α → α → α → α
  | 0, _, _, _, h => h
  | steps + 1, m, c, d, h =>
    let m2 : α := 2 * m
    let aa := m * (b - m) * x / ((a - 1 + m2) * (a + m2))
    let d := 1 / atLeastTiny (1 + aa * d)
    let c := atLeastTiny (1 + aa / c)
    let h := h * (d * c)
    let aa := -(a + m) * (a + b + m) * x / ((a + m2) * (a + 1 + m2))
    let d := 1 / atLeastTiny (1 + aa * d)
    let c := atLeastTiny (1 + aa / c)
    let delta := d * c
    let h := h * delta
    if |delta - 1| < 1 / 10 ^ 10 then h else betaFraction a b x steps (m + 1) c d h

def tDistributionTwoTailedP (math : Math α) (t : α) (df : ℕ) : α :=
  let x := df / (df + t * t)
  let a : α := df / 2
  let b : α := 1 / 2
  if x ≤ 0 then 0
  else if 1 ≤ x then 1
  else
    let lbeta := math.lgamma a + math.lgamma b - math.lgamma (a + b)
    let front := math.exp (math.log x * a + math.log (1 - x) * b - lbeta) / a
    let d := 1 / atLeastTiny (1 - (a + b) * x / (a + 1))
    front * betaFraction a b x 200 1 1 d d

/-! ### `compute_multiple_linear_regression` -/

structure MlrFitResult (α : Type) (k : ℕ) where
  intercept : α
  coefficients : Fin k → α
  standardizedCoefficients : Fin k → α
  standardErrors : Fin k → α
  tStatistics : Fin k → α
  pValues : Fin k → α
  r2 : α
  adjustedR2 : α
  rmse : α
  mae : α
  mse : α
  fStatistic : α
  nObservations : ℕ

variable {n k : ℕ}

/-- The predictors after a column of ones. -/
def xAug (X : Matrix (Fin n) (Fin k) α) : Matrix (Fin n) (Fin (k + 1)) α :=
  Matrix.of fun i => Fin.cons 1 (X i)

/-- The inverse of the normal matrix, and the factors. -/
def solve (X : Matrix (Fin n) (Fin k) α) (y : Fin n → α) :
    Except RegressionError (Matrix (Fin (k + 1)) (Fin (k + 1)) α × (Fin (k + 1) → α)) :=
  if n < k + 2 then
    .error (.insufficientObservations
      s!"Need at least {k + 2} observations for {k} predictors (have {n})")
  else
    match matInv ((xAug X)ᵀ * xAug X) with
    | none => .error (.value "Matrix is singular — predictor variables may be collinear")
    | some xtxInv => .ok (xtxInv, xtxInv *ᵥ ((xAug X)ᵀ *ᵥ y))

/-- What the factors make of the predictors. -/
def yHat (X : Matrix (Fin n) (Fin k) α) (betas : Fin (k + 1) → α) : Fin n → α := xAug X *ᵥ betas

def ssTot (y : Fin n → α) : α := ∑ i, (y i - mean y) ^ 2

variable [FloorRing α]

/-- How well the factors fit. -/
def fitResult (math : Math α) (X : Matrix (Fin n) (Fin k) α) (y : Fin n → α)
    (xtxInv : Matrix (Fin (k + 1)) (Fin (k + 1)) α) (betas : Fin (k + 1) → α) : MlrFitResult α k :=
  let residuals := fun i => y i - yHat X betas i
  let ssRes := ∑ i, residuals i ^ 2
  let df : α := n - k - 1
  let r2 := if 0 < ssTot y then 1 - ssRes / ssTot y else 0
  let adjustedR2 := if k + 1 < n then 1 - (1 - r2) * (n - 1) / df else 0
  let mse := ssRes / df
  let standardErrors := fun i => math.sqrt (max 0 (mse * xtxInv i i))
  let tStatistics := fun i =>
    if 1 / 10 ^ 12 < standardErrors i then betas i / standardErrors i else 0
  let pValues := fun i => tDistributionTwoTailedP math |tStatistics i| (n - k - 1)
  let xStds := fun j : Fin k =>
    math.sqrt ((∑ i, (X i j - mean fun i => X i j) ^ 2) / max 1 (n - 1))
  let yStd := math.sqrt (ssTot y / max 1 (n - 1))
  let standardized := fun j : Fin k =>
    if 1 / 10 ^ 9 < yStd ∧ 1 / 10 ^ 9 < xStds j then betas j.succ * xStds j / yStd else 0
  let msRegression := if 0 < k then (ssTot y - ssRes) / k else 0
  { intercept := Lib.roundTo 6 (betas 0)
    coefficients := fun j => Lib.roundTo 6 (betas j.succ)
    standardizedCoefficients := fun j => Lib.roundTo 6 (standardized j)
    standardErrors := fun j => Lib.roundTo 6 (standardErrors j.succ)
    tStatistics := fun j => Lib.roundTo 4 (tStatistics j.succ)
    pValues := fun j => Lib.roundTo 6 (pValues j.succ)
    r2 := Lib.roundTo 6 r2
    adjustedR2 := Lib.roundTo 6 adjustedR2
    rmse := Lib.roundTo 6 (math.sqrt (ssRes / n))
    mae := Lib.roundTo 6 ((∑ i, |residuals i|) / n)
    mse := Lib.roundTo 6 mse
    fStatistic := Lib.roundTo 4 (if 1 / 10 ^ 12 < mse then msRegression / mse else 0)
    nObservations := n }

def computeMultipleLinearRegression (math : Math α) (X : Matrix (Fin n) (Fin k) α)
    (y : Fin n → α) : Except RegressionError (MlrFitResult α k) := do
  let (xtxInv, betas) ← solve X y
  return fitResult math X y xtxInv betas

/-! ### The factors leave the least residual sum -/

omit [FloorRing α] in
theorem le_pivotRow {m : ℕ} (col : Fin m) (aug : Lib.GaussJordan.Aug α m) :
    col ≤ pivotRow col aug := by
  rw [pivotRow]
  cases h : ((List.finRange m).filter fun r => col ≤ r).argmax fun r => |aug r (.inl col)| with
  | none => exact le_rfl
  | some r =>
    have hmem := List.mem_filter.mp (List.argmax_mem h)
    exact of_decide_eq_true hmem.2

variable [IsStrictOrderedRing α]

omit [FloorRing α] in
theorem matInv_mul {m : ℕ} {A R : Matrix (Fin m) (Fin m) α} (h : matInv A = some R) : R * A = 1 := by
  refine Lib.GaussJordan.inverse_mul le_pivotRow (fun p hp hzero => ?_) h
  rw [hzero, abs_zero, decide_eq_false_iff_not] at hp
  exact hp (by positivity)

omit [FloorRing α] in
/-- Inversion raises or returns the inverse, and raises where there is none. -/
theorem matInv_inverse {m : ℕ} (M : Matrix (Fin m) (Fin m) α) :
    (matInv M = none ∨ ∃ N, matInv M = some N ∧ M * N = 1 ∧ N * M = 1) ∧
      (M.det = 0 → matInv M = none) := by
  cases h : matInv M with
  | none => exact ⟨.inl rfl, fun _ => rfl⟩
  | some N =>
    have hmul := matInv_mul h
    refine ⟨.inr ⟨N, rfl, mul_eq_one_comm.mp hmul, hmul⟩, fun hdet => ?_⟩
    have hone := congrArg Matrix.det hmul
    rw [Matrix.det_mul, hdet, mul_zero, Matrix.det_one] at hone
    exact absurd hone zero_ne_one

theorem matInv_inverse_two :
    (matInv !![(2 : ℚ), 1; 1, 1] = none ∨ ∃ N, matInv !![(2 : ℚ), 1; 1, 1] = some N ∧
      !![(2 : ℚ), 1; 1, 1] * N = 1 ∧ N * !![(2 : ℚ), 1; 1, 1] = 1) ∧
      (!![(2 : ℚ), 1; 1, 1].det = 0 → matInv !![(2 : ℚ), 1; 1, 1] = none) :=
  matInv_inverse _

omit [FloorRing α] in
/-- The factors solve the normal equations. -/
theorem normal_of_solve {X : Matrix (Fin n) (Fin k) α} {y : Fin n → α}
    {xtxInv : Matrix (Fin (k + 1)) (Fin (k + 1)) α} {betas : Fin (k + 1) → α}
    (h : solve X y = .ok (xtxInv, betas)) :
    (xAug X)ᵀ *ᵥ (xAug X *ᵥ betas) = (xAug X)ᵀ *ᵥ y := by
  rw [solve] at h
  split at h
  · cases h
  · cases hinv : matInv ((xAug X)ᵀ * xAug X) with
    | none =>
      rw [hinv] at h
      cases h
    | some R =>
      rw [hinv] at h
      cases h
      exact Lib.normal_of_inverse (matInv_mul hinv)

/-! ### The fit -/

/-- `r2`, before it is rounded. -/
def rSquared (X : Matrix (Fin n) (Fin k) α) (y : Fin n → α) (betas : Fin (k + 1) → α) : α :=
  if 0 < ssTot y then 1 - Lib.residualSum (xAug X) y betas / ssTot y else 0

/-- `adjusted_r2`, before it is rounded. -/
def adjustedRSquared (X : Matrix (Fin n) (Fin k) α) (y : Fin n → α) (betas : Fin (k + 1) → α) : α :=
  if k + 1 < n then 1 - (1 - rSquared X y betas) * (n - 1) / (n - k - 1) else 0

/-- What the factors leave is orthogonal to the constant column and to every predictor, and least; it
    is a part of the variation of the response, and the adjusted part is no greater. -/
structure LeastSquaresFit (X : Matrix (Fin n) (Fin k) α) (y : Fin n → α) (betas : Fin (k + 1) → α) :
    Prop where
  constant : ∑ i, (y i - yHat X betas i) = 0
  predictors : ∀ j, ∑ i, X i j * (y i - yHat X betas i) = 0
  least : ∀ γ, Lib.residualSum (xAug X) y betas ≤ Lib.residualSum (xAug X) y γ
  rSquared_mem : (∃ i i', y i ≠ y i') → 0 ≤ rSquared X y betas ∧ rSquared X y betas ≤ 1
  adjusted_le : adjustedRSquared X y betas ≤ rSquared X y betas

omit [IsStrictOrderedRing α] in
/-- What is stored is what has been fitted, rounded. -/
theorem fitResult_rounded (math : Math α) (X : Matrix (Fin n) (Fin k) α) (y : Fin n → α)
    (xtxInv : Matrix (Fin (k + 1)) (Fin (k + 1)) α) (betas : Fin (k + 1) → α) :
    (fitResult math X y xtxInv betas).intercept = Lib.roundTo 6 (betas 0) ∧
      (∀ j, (fitResult math X y xtxInv betas).coefficients j = Lib.roundTo 6 (betas j.succ)) ∧
      (fitResult math X y xtxInv betas).r2 = Lib.roundTo 6 (rSquared X y betas) ∧
      (fitResult math X y xtxInv betas).adjustedR2 = Lib.roundTo 6 (adjustedRSquared X y betas) :=
  ⟨rfl, fun _ => rfl, rfl, rfl⟩

omit [LinearOrder α] [FloorRing α] [IsStrictOrderedRing α] in
/-- The mean alone leaves the whole variation. -/
theorem residualSum_mean (X : Matrix (Fin n) (Fin k) α) (y : Fin n → α) :
    Lib.residualSum (xAug X) y (Fin.cons (mean y) 0) = ssTot y := by
  refine Finset.sum_congr rfl fun i _ => ?_
  simp [xAug, Matrix.mulVec, dotProduct, Fin.sum_univ_succ]

omit [FloorRing α] in
/-- The least residual sum is a part of the variation. -/
theorem rSquared_mem {X : Matrix (Fin n) (Fin k) α} {y : Fin n → α} {betas : Fin (k + 1) → α}
    (hleast : ∀ γ, Lib.residualSum (xAug X) y betas ≤ Lib.residualSum (xAug X) y γ) :
    0 ≤ rSquared X y betas ∧ rSquared X y betas ≤ 1 := by
  unfold rSquared
  split
  · next hpos =>
    have hle := hleast (Fin.cons (mean y) 0)
    rw [residualSum_mean] at hle
    have hshare : Lib.residualSum (xAug X) y betas / ssTot y ≤ 1 := (div_le_one hpos).mpr hle
    have hnonneg : 0 ≤ Lib.residualSum (xAug X) y betas / ssTot y :=
      div_nonneg Lib.residualSum_nonneg hpos.le
    constructor <;> linarith
  · exact ⟨le_rfl, zero_le_one⟩

omit [FloorRing α] in
theorem adjustedRSquared_le {X : Matrix (Fin n) (Fin k) α} {y : Fin n → α}
    {betas : Fin (k + 1) → α} (hr : 0 ≤ rSquared X y betas ∧ rSquared X y betas ≤ 1) :
    adjustedRSquared X y betas ≤ rSquared X y betas := by
  unfold adjustedRSquared
  split
  · next hn =>
    have hdf : (0 : α) < n - k - 1 := by
      have hcast : ((k + 1 : ℕ) : α) < n := Nat.cast_lt.mpr hn
      push_cast at hcast
      linarith
    have hgrow : (1 - rSquared X y betas) ≤ (1 - rSquared X y betas) * (n - 1) / (n - k - 1) := by
      rw [le_div_iff₀ hdf]
      refine mul_le_mul_of_nonneg_left ?_ (by linarith [hr.2])
      have hk : (0 : α) ≤ k := Nat.cast_nonneg k
      linarith
    linarith
  · exact hr.1

/-- A regression that returns has fitted the response by least squares. -/
theorem leastSquaresFit (math : Math α) {X : Matrix (Fin n) (Fin k) α} {y : Fin n → α}
    {fit : MlrFitResult α k} (h : computeMultipleLinearRegression math X y = .ok fit) :
    ∃ xtxInv betas, solve X y = .ok (xtxInv, betas) ∧ fit = fitResult math X y xtxInv betas ∧
      LeastSquaresFit X y betas := by
  cases hsolve : solve X y with
  | error e =>
    rw [computeMultipleLinearRegression, hsolve] at h
    cases h
  | ok solution =>
    obtain ⟨xtxInv, betas⟩ := solution
    rw [computeMultipleLinearRegression, hsolve] at h
    cases h
    have hnormal := normal_of_solve hsolve
    have hleast : ∀ γ, Lib.residualSum (xAug X) y betas ≤ Lib.residualSum (xAug X) y γ := fun γ =>
      (Lib.isLeast_residualSum hnormal).2 ⟨γ, rfl⟩
    have horthogonal := Lib.transpose_mulVec_residual hnormal
    refine ⟨xtxInv, betas, rfl, rfl, ?_, fun j => ?_, hleast, fun _ => rSquared_mem hleast,
      adjustedRSquared_le (rSquared_mem hleast)⟩
    · have hconstant := congrFun horthogonal 0
      simpa [xAug, Matrix.mulVec, dotProduct, yHat] using hconstant
    · have hpredictor := congrFun horthogonal j.succ
      simpa [xAug, Matrix.mulVec, dotProduct, yHat] using hpredictor

/-- A response that rises and falls back. -/
def peakX : Matrix (Fin 3) (Fin 1) ℚ := !![0; 1; 2]

def peakY : Fin 3 → ℚ := ![0, 3, 0]

theorem solve_peak : solve peakX peakY = .ok (!![5 / 6, -1 / 2; -1 / 2, 1 / 2], ![1, 0]) := by
  have hinv : matInv ((xAug peakX)ᵀ * xAug peakX) = some !![5 / 6, -1 / 2; -1 / 2, 1 / 2] := by
    decide +kernel
  have hbetas : !![5 / 6, -1 / 2; -1 / 2, 1 / 2] *ᵥ ((xAug peakX)ᵀ *ᵥ peakY) = ![1, 0] := by
    decide +kernel
  rw [solve, if_neg (by decide), hinv]
  dsimp only
  rw [hbetas]

theorem compute_peak (math : Math ℚ) : computeMultipleLinearRegression math peakX peakY =
    .ok (fitResult math peakX peakY !![5 / 6, -1 / 2; -1 / 2, 1 / 2] ![1, 0]) := by
  rw [computeMultipleLinearRegression, solve_peak]
  rfl

/-- The line of least squares through it is flat. -/
theorem leastSquaresFit_peak :
    solve peakX peakY = .ok (!![5 / 6, -1 / 2; -1 / 2, 1 / 2], ![1, 0]) ∧
      ∀ math : Math ℚ, ∃ fit xtxInv betas, computeMultipleLinearRegression math peakX peakY = .ok fit ∧
        solve peakX peakY = .ok (xtxInv, betas) ∧ fit = fitResult math peakX peakY xtxInv betas ∧
          LeastSquaresFit peakX peakY betas := by
  refine ⟨solve_peak, fun math => ?_⟩
  obtain ⟨xtxInv, betas, hsolve, hfit, hleast⟩ := leastSquaresFit math (compute_peak math)
  exact ⟨_, xtxInv, betas, compute_peak math, hsolve, hfit, hleast⟩

end GeoRisk.Prediction.Regression
