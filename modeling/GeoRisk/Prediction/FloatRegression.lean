import Mathlib
import GeoRisk.PyFloat
import GeoRisk.Lib.Results
import GeoRisk.Prediction.Handlers

/-! The regression engine as it runs, over floats: every operation rounds, and what divides by zero or
    overflows a power raises. The exact engine of `Prediction.Regression` is what it approximates.

        rmse = √(ss_res / n)        mae = Σ|r| / n        mse = ss_res / (n − k − 1) -/

namespace GeoRisk.Prediction.FloatRegression

open PyFloat (lt quotient truediv)

/-- What the module `math` computes, and `** 2`; each may raise. -/
structure Libm where
  sqrt : PyFloat → Except String PyFloat
  square : PyFloat → Except String PyFloat
  exp : PyFloat → Except String PyFloat
  log : PyFloat → Except String PyFloat
  lgamma : PyFloat → Except String PyFloat

variable {n k m : ℕ}

/-- `sum` over a range. -/
def sumOver (f : Fin n → PyFloat) : PyFloat := PyFloat.sum (List.ofFn f)

/-- `_mean`. -/
def mean (values : Fin n → PyFloat) : Except String PyFloat :=
  if n = 0 then .ok 0 else truediv (sumOver values) (PyFloat.ofRat n)

/-- The squares of some numbers, added up. -/
def sumOfSquares (math : Libm) (values : Fin n → PyFloat) : Except String PyFloat := do
  return PyFloat.sum (← (List.ofFn values).mapM math.square)

/-! ### `_mat_inv` -/

abbrev Aug (m : ℕ) := Fin m → Fin m ⊕ Fin m → PyFloat

/-- `max(range(col, n), key=…)`: the first row with the greatest entry in this column. -/
def pivotRow (col : Fin m) (aug : Aug m) : Fin m :=
  ((List.finRange m).filter fun r => col ≤ r).foldl
    (fun best r => if lt (aug best (.inl col)).abs (aug r (.inl col)).abs then r else best) col

/-- One column. A pivot that gets by is not zero. -/
def eliminate (aug : Aug m) (col : Fin m) : Except String (Aug m) :=
  let aug : Aug m := fun i => aug (Equiv.swap col (pivotRow col aug) i)
  let p := aug col (.inl col)
  if lt p.abs 1e-12 then .error "Matrix is singular — predictor variables may be collinear"
  else .ok fun i c =>
    if i = col then quotient (aug col c) p
    else aug i c - aug i (.inl col) * quotient (aug col c) p

def matInv (M : Fin m → Fin m → PyFloat) : Except String (Fin m → Fin m → PyFloat) := do
  let beside : Aug m := fun i => Sum.elim (M i) fun j => if i = j then 1 else 0
  let aug ← (List.finRange m).foldlM eliminate beside
  return fun i j => aug i (.inr j)

/-! ### `_t_distribution_two_tailed_p` -/

def atLeastTiny (d : PyFloat) : PyFloat := if lt d.abs 1e-30 then 1e-30 else d

/-- The continued fraction from its `m`-th step on, at most `steps` steps more. -/
def betaFraction (a b x : PyFloat) : ℕ → ℕ → PyFloat → PyFloat → PyFloat → Except String PyFloat
  | 0, _, _, _, h => .ok h
  | steps + 1, m, c, d, h => do
    let m1 := PyFloat.ofRat m
    let m2 := PyFloat.ofRat (2 * m)
    let aa ← truediv (m1 * (b - m1) * x) ((a - 1 + m2) * (a + m2))
    let d ← truediv 1 (atLeastTiny (1 + aa * d))
    let c := atLeastTiny (1 + (← truediv aa c))
    let h := h * (d * c)
    let aa ← truediv (-(a + m1) * (a + b + m1) * x) ((a + m2) * (a + 1 + m2))
    let d ← truediv 1 (atLeastTiny (1 + aa * d))
    let c := atLeastTiny (1 + (← truediv aa c))
    let delta := d * c
    let h := h * delta
    if lt (delta - 1).abs 1e-10 then return h else betaFraction a b x steps (m + 1) c d h

def tDistributionTwoTailedP (math : Libm) (t : PyFloat) (df : ℕ) : Except String PyFloat := do
  let df := PyFloat.ofRat df
  let x ← truediv df (df + t * t)
  let a ← truediv df 2
  let b : PyFloat := 0.5
  if x.nonpositive then return 0
  if !lt x 1 && x ≠ .nan then return 1
  let lbeta := (← math.lgamma a) + (← math.lgamma b) - (← math.lgamma (a + b))
  let front ← truediv (← math.exp ((← math.log x) * a + (← math.log (1 - x)) * b - lbeta)) a
  let d ← truediv 1 (atLeastTiny (1 - (← truediv ((a + b) * x) (a + 1))))
  return front * (← betaFraction a b x 200 1 1 d d)

/-! ### `compute_multiple_linear_regression` -/

/-- The predictors after a column of ones. -/
def xAug (X : Fin n → Fin k → PyFloat) (i : Fin n) : Fin (k + 1) → PyFloat := Fin.cons 1 (X i)

/-- The inverse of the normal matrix, and the factors. -/
def solve (X : Fin n → Fin k → PyFloat) (y : Fin n → PyFloat) :
    Except String ((Fin (k + 1) → Fin (k + 1) → PyFloat) × (Fin (k + 1) → PyFloat)) := do
  let xtx := fun i j => sumOver fun r => xAug X r i * xAug X r j
  let xty := fun i => sumOver fun r => xAug X r i * y r
  let xtxInv ← matInv xtx
  return (xtxInv, fun i => sumOver fun j => xtxInv i j * xty j)

/-- What the factors make of the predictors. -/
def yHat (X : Fin n → Fin k → PyFloat) (betas : Fin (k + 1) → PyFloat) (i : Fin n) : PyFloat :=
  sumOver fun j => betas j * xAug X i j

/-- `n - k - 1`, as a divisor. -/
def degrees (n k : ℕ) : PyFloat := PyFloat.ofRat (n - k - 1 : ℕ)

/-- `r2` of what is left and what there was. -/
def rSquaredOf (ssRes ssTot : PyFloat) : Except String PyFloat :=
  if lt 0 ssTot then return 1 - (← truediv ssRes ssTot) else .ok 0

/-- `adjusted_r2`. -/
def adjustedOf (n k : ℕ) (r2 : PyFloat) : Except String PyFloat :=
  if k + 1 < n then return 1 - (← truediv ((1 - r2) * PyFloat.ofRat (n - 1 : ℕ)) (degrees n k))
  else .ok 0

/-- How well the factors fit. -/
def fitResult (math : Libm) (X : Fin n → Fin k → PyFloat) (y : Fin n → PyFloat)
    (xtxInv : Fin (k + 1) → Fin (k + 1) → PyFloat) (betas : Fin (k + 1) → PyFloat) :
    Except String (MlrFitResult k) := do
  let residuals := fun i => y i - yHat X betas i
  let yMean ← mean y
  let ssRes ← sumOfSquares math residuals
  let ssTot ← sumOfSquares math fun i => y i - yMean
  let r2 ← rSquaredOf ssRes ssTot
  let adjustedR2 ← adjustedOf n k r2
  let mse ← truediv ssRes (degrees n k)
  let standardErrors ← (List.finRange (k + 1)).mapM fun (i : Fin (k + 1)) =>
    math.sqrt (PyFloat.maximum 0 [mse * xtxInv i i])
  let tStatistics ← (List.finRange (k + 1)).mapM fun (i : Fin (k + 1)) =>
    let error := standardErrors.getD i 0
    if lt 1e-12 error then truediv (betas i) error else .ok 0
  let pValues ← tStatistics.mapM fun t => tDistributionTwoTailedP math t.abs (n - k - 1)
  let rmse ← math.sqrt (← truediv ssRes (PyFloat.ofRat n))
  let mae ← truediv (sumOver fun i => (residuals i).abs) (PyFloat.ofRat n)
  let others := PyFloat.ofRat (max 1 (n - 1) : ℕ)
  let xStds ← (List.finRange k).mapM fun j => do
    let columnMean ← mean fun i => X i j
    math.sqrt (← truediv (← sumOfSquares math fun i => X i j - columnMean) others)
  let yStd ← math.sqrt (← truediv (← sumOfSquares math fun i => y i - yMean) others)
  let standardized ← (List.finRange k).mapM fun (j : Fin k) =>
    let xStd := xStds.getD j 0
    if lt 1e-9 yStd && lt 1e-9 xStd then truediv (betas j.succ * xStd) yStd else .ok 0
  let msRegression ← (if 0 < k then truediv (ssTot - ssRes) (PyFloat.ofRat k) else .ok 0)
  let fStatistic ← (if lt 1e-12 mse then truediv msRegression mse else .ok 0)
  return {
    intercept := (betas ⟨0, k.succ_pos⟩).roundTo 6
    coefficients := fun j => (betas j.succ).roundTo 6
    standardizedCoefficients := fun j => (standardized.getD j 0).roundTo 6
    standardErrors := fun j => (standardErrors.getD j.succ 0).roundTo 6
    tStatistics := fun j => (tStatistics.getD j.succ 0).roundTo 4
    pValues := fun j => (pValues.getD j.succ 0).roundTo 6
    r2 := r2.roundTo 6
    adjustedR2 := adjustedR2.roundTo 6
    rmse := rmse.roundTo 6
    mae := mae.roundTo 6
    mse := mse.roundTo 6
    fStatistic := fStatistic.roundTo 4 }

/-- `compute_multiple_linear_regression`, on a matrix of `n` rows for `k` names. -/
def computeMultipleLinearRegression (math : Libm) (X : Fin n → Fin k → PyFloat)
    (y : Fin n → PyFloat) : Except String (MlrFitResult k) :=
  if n < k + 2 then
    .error s!"Need at least {k + 2} observations for {k} predictors (have {n})"
  else do
    let (xtxInv, betas) ← solve X y
    fitResult math X y xtxInv betas

/-- The engine over the rows of a matrix, as the handler calls it with enough of them. -/
def fitRows (math : Libm) (featureMatrix : List (List PyFloat)) (yValues : List PyFloat)
    (featureNames : List String) : Except String (MlrFitResult featureNames.length) := do
  let X : Fin yValues.length → Fin featureNames.length → PyFloat := fun i j =>
    (featureMatrix.getD i []).getD j 0
  let (xtxInv, betas) ← solve X yValues.get
  fitResult math X yValues.get xtxInv betas

/-! ### What a fit that returned has computed -/

variable {math : Libm} {X : Fin n → Fin k → PyFloat} {y : Fin n → PyFloat}

theorem truediv_ok {x d z : PyFloat} (h : truediv x d = .ok z) : z = quotient x d := by
  unfold truediv at h
  split at h
  · cases h
  · exact (Except.ok.inj h).symm

end GeoRisk.Prediction.FloatRegression
