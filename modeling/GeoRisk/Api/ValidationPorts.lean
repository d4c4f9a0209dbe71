import Mathlib
import GeoRisk.FloatRounding
import GeoRisk.Lib.Results
import GeoRisk.Lib.Table
import GeoRisk.Prediction.FloatRegression
import GeoRisk.Uuid
import GeoRisk.Validation.RegressionMetrics

/-! How a validation gets at a regression: the resolver copies the metrics that the prediction run
    stored. They are those that Validation computes from the same fit, to the last bit, but for one:

        prediction   mse = S / (n − k − 1)
        validation   mse = S / n

    `S` is the sum of the squared residuals. So the two agree iff it is too small to tell. -/

namespace GeoRisk.Api.ValidationPorts

open Prediction (MlrFitResult PredictionRun RegressionResult)
open Prediction.FloatRegression
open PyFloat (quotient truediv)
open Validation.RegressionMetrics

/-! ### The resolver -/

structure RegressionModelMetadata where
  predictionRunId : String
  method : String
  formulaVersion : String
  predictorVariableCodes : List String
  dependentVariableCode : Option String
  sampleSize : ℕ
  computedAt : Timestamp

structure RegressionValidationSubject where
  metrics : RegressionMetricSet
  modelMetadata : RegressionModelMetadata

abbrev Runs := Lib.Table PredictionRun.id

/-- Raises with the message if a check has failed. -/
def failIf (failed : Prop) [Decidable failed] (message : String) : Except String Unit :=
  if failed then .error message else .ok ()

/-- `CompositionRootRegressionValidationSubjectResolver.resolve`. -/
def resolve (runs : Runs) (subjectId assessmentId tenantId : String) :
    Except String RegressionValidationSubject := do
  let id ← (UUID.fromString subjectId).elim
    (.error "badly formed hexadecimal UUID string") .ok
  let run ← (runs.get ⟨id⟩).elim (.error s!"PredictionRun {subjectId} not found") .ok
  failIf (toString run.tenantId ≠ tenantId) s!"PredictionRun {subjectId} not found"
  failIf (run.status ≠ .completed) s!"PredictionRun {subjectId} did not complete successfully"
  let (regression, metadata) ← (run.regressionResult.bind fun r => run.modelMetadata.map (r, ·)).elim
    (.error (s!"PredictionRun {subjectId} has no regression fit to validate " ++
      "(not a Multiple Linear Regression run)")) .ok
  failIf (UUID.str run.assessmentId.id ≠ assessmentId)
    s!"PredictionRun {subjectId} does not belong to assessment {assessmentId}"
  return {
    metrics := ⟨metadata.sampleSize, regression.rmse, regression.mae, regression.mse,
      regression.rSquared, regression.adjustedRSquared⟩
    modelMetadata := ⟨toString run.id, run.method.value, metadata.formulaVersion,
      metadata.predictorVariableCodes, metadata.dependentVariableCode, metadata.sampleSize,
      metadata.computedAt⟩ }

section Bounds

variable {n k : ℕ} {s : ℚ}

end Bounds

/-! ### What a run stores -/

variable {n k : ℕ} {math : Libm} {X : Fin n → Fin k → PyFloat} {y : Fin n → PyFloat}

/-- The result that `_run_regression` makes of a fit. -/
def regressionResult (featureNames : Fin k → String) (fit : MlrFitResult k) : RegressionResult where
  intercept := fit.intercept
  variableResults := List.ofFn fun i => {
    code := featureNames i
    coefficient := fit.coefficients i
    standardizedCoefficient := fit.standardizedCoefficients i
    standardError := fit.standardErrors i
    tStatistic := fit.tStatistics i
    pValue := fit.pValues i }
  rSquared := fit.r2
  adjustedRSquared := fit.adjustedR2
  rmse := fit.rmse
  mae := fit.mae
  fStatistic := fit.fStatistic
  mse := fit.mse

/-- The run has stored what was fitted to `n` observations. -/
structure Stores (run : PredictionRun) (n : ℕ) (fit : MlrFitResult k) : Prop where
  result : ∃ featureNames, run.regressionResult = some (regressionResult featureNames fit)
  sampleSize : ∀ metadata ∈ run.modelMetadata, metadata.sampleSize = n

theorem sampleSize_of_make {modelType : Prediction.PredictionMethod} {formulaVersion : String}
    {codes : List String} {dependent : Option String} {now : Timestamp}
    {metadata : Prediction.ModelMetadata}
    (h : Prediction.ModelMetadata.make modelType formulaVersion codes dependent n now = .ok metadata) :
    metadata.sampleSize = n := by
  unfold Prediction.ModelMetadata.make at h
  split at h
  · cases h
  · split at h
    · cases h
      rfl
    · cases h

/-- The handler stores what the engine has fitted to its observations. -/
theorem stores_of_runRegression {ports : Prediction.Ports} (hports : ports.fit = fitRows math)
    {infos : List Prediction.PredictorVariableInfo} {rows : List Prediction.Row} {now : Timestamp}
    {metadata : Prediction.ModelMetadata} {result : RegressionResult}
    (h : Prediction.runRegression ports infos rows now = .ok (metadata, result))
    (c : Prediction.RunPrediction) (id : Prediction.PredictionRunId) (version : ℕ) :
    ∃ (n k : ℕ) (X : Fin n → Fin k → PyFloat) (y : Fin n → PyFloat) (fit : MlrFitResult k),
      1 ≤ k ∧ computeMultipleLinearRegression math X y = .ok fit ∧
        Stores (PredictionRun.completeRegression c id version metadata result now).1 n fit := by
  unfold Prediction.runRegression at h
  split at h
  · next dependent hdependent =>
    simp only at h
    split at h
    · cases h
    · next hpredictors =>
      obtain ⟨featureMatrix, -, h⟩ := Lib.bind_ok.mp h
      obtain ⟨yValues, hyValues, h⟩ := Lib.bind_ok.mp h
      obtain ⟨fit, hfit, h⟩ := Lib.bind_ok.mp h
      obtain ⟨metadata, hmetadata, h⟩ := Lib.bind_ok.mp h
      cases h
      have hlength := (Lib.mapM_ok.mp hyValues).length_eq
      unfold Prediction.computeMultipleLinearRegression at hfit
      simp only at hfit
      split at hfit
      · cases hfit
      · next henough =>
        rw [hports] at hfit
        refine ⟨yValues.length, _, fun i j => (featureMatrix.getD i []).getD j 0, yValues.get, fit,
          ?_, ?_, ⟨_, rfl⟩, fun m hm => ?_⟩
        · rw [List.length_map]
          exact List.length_pos_iff.mpr hpredictors
        · rw [computeMultipleLinearRegression, if_neg henough]
          exact hfit
        · obtain rfl := Option.some.inj hm
          exact (sampleSize_of_make hmetadata).trans hlength
  · cases h

/-! ### When the two sets agree -/

/-- A completed run, stored alone, with its metadata. -/
def sampleRun (result : RegressionResult) : PredictionRun where
  id := ⟨9⟩
  tenantId := ⟨1⟩
  assessmentId := ⟨UUID.str 5, 5⟩
  variableSelectionId := ⟨UUID.str 6, 6⟩
  samplingCampaignId := ⟨UUID.str 7, 7⟩
  method := .multipleLinearRegression
  version := 1
  status := .completed
  modelMetadata := some ⟨.multipleLinearRegression, "mlr-ols-v1", ["slope"], some "depth", 4, 0,
    by decide, by decide⟩
  correlationResult := none
  regressionResult := some result
  error := none
  issuedBy := "analyst"
  createdAt := 0

end GeoRisk.Api.ValidationPorts
