import Mathlib
import GeoRisk.SharedKernel

/-! The `PredictionRun` aggregate: a correlation or a regression over the variables of a selection,
    under the next version of its selection and method. What goes wrong on the way is recorded, and
    the run has failed:

        complete_correlation ─▶ COMPLETED  metadata, pairs
        complete_regression  ─▶ COMPLETED  metadata, coefficients
        failed               ─▶ FAILED     error -/

namespace GeoRisk.Prediction

structure PredictionRunId where
  value : UUID
  deriving DecidableEq

instance : ToString PredictionRunId := ⟨fun i => UUID.str i.value⟩

inductive PredictionMethod where
  | pearsonCorrelation | spearmanCorrelation | kendallCorrelation | multipleLinearRegression
  deriving DecidableEq

def PredictionMethod.value : PredictionMethod → String
  | .pearsonCorrelation => "PEARSON_CORRELATION"
  | .spearmanCorrelation => "SPEARMAN_CORRELATION"
  | .kendallCorrelation => "KENDALL_CORRELATION"
  | .multipleLinearRegression => "MULTIPLE_LINEAR_REGRESSION"

/-- `_FORMULA_VERSIONS`. -/
def PredictionMethod.formulaVersion : PredictionMethod → String
  | .pearsonCorrelation => "pearson-v1"
  | .spearmanCorrelation => "spearman-v1"
  | .kendallCorrelation => "kendall-tau-b-v1"
  | .multipleLinearRegression => "mlr-ols-v1"

inductive PredictionRunStatus where
  | completed | failed
  deriving DecidableEq

/-! ### Variables, as they are read from another context -/

structure PredictorVariableInfo where
  predictorVariableId : String
  code : String
  name : String
  variableRole : String
  valueMin : Option PyFloat
  valueMax : Option PyFloat
  deriving DecidableEq

structure VariableSelectionInfo where
  variableSelectionId : String
  status : String
  hazardType : Option String
  variableInfos : List PredictorVariableInfo
  deriving DecidableEq

/-! ### Results -/

@[ext] structure ModelMetadata where
  modelType : PredictionMethod
  formulaVersion : String
  predictorVariableCodes : List String
  dependentVariableCode : Option String
  sampleSize : ℕ
  computedAt : Timestamp
  codes_ne_nil : predictorVariableCodes ≠ []
  sampleSize_pos : 1 ≤ sampleSize

instance : DecidableEq ModelMetadata := fun _ _ => decidable_of_iff _ ModelMetadata.ext_iff.symm

/-- `ModelMetadata.__post_init__`. -/
def ModelMetadata.make (modelType : PredictionMethod) (formulaVersion : String)
    (predictorVariableCodes : List String) (dependentVariableCode : Option String)
    (sampleSize : ℕ) (computedAt : Timestamp) : Except String ModelMetadata :=
  if hcodes : predictorVariableCodes = [] then
    .error "ModelMetadata.predictor_variable_codes must not be empty"
  else if hsize : 1 ≤ sampleSize then
    .ok { modelType, formulaVersion, predictorVariableCodes, dependentVariableCode, sampleSize
          computedAt, codes_ne_nil := hcodes, sampleSize_pos := hsize }
  else .error "ModelMetadata.sample_size must be >= 1"

structure CorrelationPair where
  variableA : String
  variableB : String
  coefficient : PyFloat
  sampleSize : ℕ
  deriving DecidableEq

structure CorrelationResult where
  pairs : List CorrelationPair
  deriving DecidableEq

structure RegressionVariableResult where
  code : String
  coefficient : PyFloat
  standardizedCoefficient : PyFloat
  standardError : PyFloat
  tStatistic : PyFloat
  pValue : PyFloat
  deriving DecidableEq

structure RegressionResult where
  intercept : PyFloat
  variableResults : List RegressionVariableResult
  rSquared : PyFloat
  adjustedRSquared : PyFloat
  rmse : PyFloat
  mae : PyFloat
  fStatistic : PyFloat
  mse : PyFloat
  deriving DecidableEq

/-! ### Runs -/

/-- The identifiers of other contexts are kept as they were sent. -/
structure PredictionRun where
  id : PredictionRunId
  tenantId : TenantId
  assessmentId : Spelled UUID
  variableSelectionId : Spelled UUID
  samplingCampaignId : Spelled UUID
  method : PredictionMethod
  version : ℕ
  status : PredictionRunStatus
  modelMetadata : Option ModelMetadata
  correlationResult : Option CorrelationResult
  regressionResult : Option RegressionResult
  error : Option String
  issuedBy : String
  createdAt : Timestamp

structure PredictionRunCompleted where
  predictionRunId : PredictionRunId
  tenantId : TenantId
  assessmentId : String
  method : PredictionMethod
  version : ℕ
  formulaVersion : String
  sampleSize : ℕ

structure PredictionRunFailed where
  predictionRunId : PredictionRunId
  tenantId : TenantId
  assessmentId : String
  method : PredictionMethod
  version : ℕ
  error : String

inductive PredictionEvent where
  | predictionRunCompleted (e : PredictionRunCompleted)
  | predictionRunFailed (e : PredictionRunFailed)

/-- `RunPredictionCommand`, its method read by `PredictionMethod`. -/
structure RunPrediction where
  tenantId : TenantId
  assessmentId : Spelled UUID
  variableSelectionId : Spelled UUID
  samplingCampaignId : Spelled UUID
  method : PredictionMethod
  issuedBy : String

namespace PredictionRun

/-- A run of a command, under a fresh `id`. -/
def ofCommand (c : RunPrediction) (id : PredictionRunId) (version : ℕ)
    (status : PredictionRunStatus) (now : Timestamp) : PredictionRun where
  id := id
  tenantId := c.tenantId
  assessmentId := c.assessmentId
  variableSelectionId := c.variableSelectionId
  samplingCampaignId := c.samplingCampaignId
  method := c.method
  version := version
  status := status
  modelMetadata := none
  correlationResult := none
  regressionResult := none
  error := none
  issuedBy := c.issuedBy
  createdAt := now

def completed (run : PredictionRun) (metadata : ModelMetadata) : PredictionRunCompleted :=
  ⟨run.id, run.tenantId, run.assessmentId.text, run.method, run.version, metadata.formulaVersion,
    metadata.sampleSize⟩

def completeCorrelation (c : RunPrediction) (id : PredictionRunId) (version : ℕ)
    (metadata : ModelMetadata) (result : CorrelationResult) (now : Timestamp) :
    PredictionRun × PredictionRunCompleted :=
  let run := { ofCommand c id version .completed now with
    modelMetadata := some metadata, correlationResult := some result }
  (run, run.completed metadata)

def completeRegression (c : RunPrediction) (id : PredictionRunId) (version : ℕ)
    (metadata : ModelMetadata) (result : RegressionResult) (now : Timestamp) :
    PredictionRun × PredictionRunCompleted :=
  let run := { ofCommand c id version .completed now with
    method := .multipleLinearRegression
    modelMetadata := some metadata, regressionResult := some result }
  (run, run.completed metadata)

def failed (c : RunPrediction) (id : PredictionRunId) (version : ℕ) (error : String)
    (now : Timestamp) : PredictionRun × PredictionRunFailed :=
  let run := { ofCommand c id version .failed now with error := some error }
  (run, ⟨id, c.tenantId, c.assessmentId.text, c.method, version, error⟩)

/-- The codes of the variables that the results of a run name. -/
def codes (self : PredictionRun) : List String :=
  (self.modelMetadata.elim [] fun m => m.predictorVariableCodes ++ m.dependentVariableCode.toList) ++
  (self.correlationResult.elim [] fun r => r.pairs.flatMap fun p => [p.variableA, p.variableB]) ++
  self.regressionResult.elim [] fun r => r.variableResults.map (·.code)

end PredictionRun

end GeoRisk.Prediction
