import Mathlib
import GeoRisk.PyFloat

/-! The regression metrics of a validation, over floats, from observed and predicted values. All three
    errors are means over the observations:

        mse = Σ r² / n        rmse = √mse        mae = Σ|r| / n -/

namespace GeoRisk.Validation.RegressionMetrics

open PyFloat (lt truediv)

structure RegressionMetricSet where
  sampleSize : ℕ
  rmse : PyFloat
  mae : PyFloat
  mse : PyFloat
  rSquared : PyFloat
  adjustedRSquared : PyFloat
  deriving DecidableEq

/-- `_mean`. -/
def mean (values : List PyFloat) : Except String PyFloat :=
  if values = [] then .ok 0 else truediv (PyFloat.sum values) (PyFloat.ofRat values.length)

/-- `r_squared` of what is left and what there was. -/
def rSquaredOf (ssRes ssTot : PyFloat) : Except String PyFloat :=
  if lt 0 ssTot then return 1 - (← truediv ssRes ssTot) else .ok 0

/-- `adjusted_r_squared` of `n` observations and `k` predictors. -/
def adjustedOf (n k : ℕ) (rSquared : PyFloat) : Except String PyFloat :=
  if k + 1 < n then
    return 1 - (← truediv ((1 - rSquared) * PyFloat.ofRat (n - 1 : ℕ)) (PyFloat.ofRat (n - k - 1 : ℕ)))
  else .ok 0

end GeoRisk.Validation.RegressionMetrics
