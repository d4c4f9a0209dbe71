import GeoRisk.JsonColumns
import GeoRisk.Validation.ValidationRun

/-! Validation runs in the database, with all that they hold: the thresholds, the metrics of either
    mode and the metadata of the model are columns of JSON.

        complete               metrics   regression_metrics   model_metadata   error
        complete_regression      NULL           {…}            {…} or NULL      NULL
        errored                  NULL           NULL               NULL         text             -/

namespace GeoRisk.Validation.Storage

structure ValidationThresholds where
  minOverallAccuracy : Option PyFloat
  minPrecision : Option PyFloat
  minRecall : Option PyFloat
  minF1Score : Option PyFloat
  minAuc : Option PyFloat
  maxRmse : Option PyFloat
  maxMae : Option PyFloat
  minRSquared : Option PyFloat
  minAdjustedRSquared : Option PyFloat

structure ConfusionMatrix where
  labels : List String
  matrix : List (List ℕ)

structure RocPoint where
  fpr : PyFloat
  tpr : PyFloat
  threshold : PyFloat

/-- The metrics with the matrix and the curve they come from. -/
structure MetricSet extends Validation.MetricSet where
  confusionMatrix : ConfusionMatrix
  rocPoints : List RocPoint

structure RegressionModelMetadata where
  predictionRunId : String
  method : String
  formulaVersion : String
  predictorVariableCodes : List String
  dependentVariableCode : Option String
  sampleSize : ℕ
  computedAt : Timestamp

structure ValidationRun where
  id : ValidationRunId
  tenantId : TenantId
  assessmentId : Spelled UUID
  subjectId : String
  subjectType : SubjectType
  mode : ValidationMode
  status : ValidationRunStatus
  thresholds : ValidationThresholds
  metrics : Option MetricSet
  verdict : Option Verdict
  error : Option String
  issuedBy : String
  createdAt : Timestamp
  regressionMetrics : Option RegressionMetricSet
  modelMetadata : Option RegressionModelMetadata
  version : ℕ

/-! ### Columns of JSON -/

def thresholdsToJson (thresholds : ValidationThresholds) : List (String × Json) :=
  [("min_overall_accuracy", Column.float.writeOptional thresholds.minOverallAccuracy),
   ("min_precision", Column.float.writeOptional thresholds.minPrecision),
   ("min_recall", Column.float.writeOptional thresholds.minRecall),
   ("min_f1_score", Column.float.writeOptional thresholds.minF1Score),
   ("min_auc", Column.float.writeOptional thresholds.minAuc),
   ("max_rmse", Column.float.writeOptional thresholds.maxRmse),
   ("max_mae", Column.float.writeOptional thresholds.maxMae),
   ("min_r_squared", Column.float.writeOptional thresholds.minRSquared),
   ("min_adjusted_r_squared", Column.float.writeOptional thresholds.minAdjustedRSquared)]

def thresholdsFromJson (data : List (String × Json)) : Option ValidationThresholds := do
  return {
    minOverallAccuracy := ← Column.float.getOptional data "min_overall_accuracy"
    minPrecision := ← Column.float.getOptional data "min_precision"
    minRecall := ← Column.float.getOptional data "min_recall"
    minF1Score := ← Column.float.getOptional data "min_f1_score"
    minAuc := ← Column.float.getOptional data "min_auc"
    maxRmse := ← Column.float.getOptional data "max_rmse"
    maxMae := ← Column.float.getOptional data "max_mae"
    minRSquared := ← Column.float.getOptional data "min_r_squared"
    minAdjustedRSquared := ← Column.float.getOptional data "min_adjusted_r_squared" }

def thresholdsColumn : Column ValidationThresholds :=
  .record thresholdsToJson thresholdsFromJson (fun _ => True) <| by
    rintro thresholds -
    simp [thresholdsToJson, thresholdsFromJson, -Option.bind_eq_bind]

def regressionMetricsToJson (metrics : RegressionMetricSet) : List (String × Json) :=
  [("sample_size", Column.nat.write metrics.sampleSize),
   ("rmse", Column.float.write metrics.rmse), ("mae", Column.float.write metrics.mae),
   ("mse", Column.float.write metrics.mse), ("r_squared", Column.float.write metrics.rSquared),
   ("adjusted_r_squared", Column.float.write metrics.adjustedRSquared)]

def regressionMetricsFromJson (data : List (String × Json)) : Option RegressionMetricSet := do
  return {
    sampleSize := ← Column.nat.item data "sample_size"
    rmse := ← Column.float.item data "rmse"
    mae := ← Column.float.item data "mae"
    mse := ← Column.float.item data "mse"
    rSquared := ← Column.float.item data "r_squared"
    adjustedRSquared := ← Column.float.item data "adjusted_r_squared" }

def regressionMetricsColumn : Column RegressionMetricSet :=
  .record regressionMetricsToJson regressionMetricsFromJson (fun _ => True) <| by
    rintro metrics -
    simp [regressionMetricsToJson, regressionMetricsFromJson, -Option.bind_eq_bind]

def modelMetadataToJson (metadata : RegressionModelMetadata) : List (String × Json) :=
  [("prediction_run_id", Column.str.write metadata.predictionRunId),
   ("method", Column.str.write metadata.method),
   ("formula_version", Column.str.write metadata.formulaVersion),
   ("predictor_variable_codes", Column.str.list.write metadata.predictorVariableCodes),
   ("dependent_variable_code", Column.str.writeOptional metadata.dependentVariableCode),
   ("sample_size", Column.nat.write metadata.sampleSize),
   ("computed_at", Column.time.write metadata.computedAt)]

def modelMetadataFromJson (data : List (String × Json)) : Option RegressionModelMetadata := do
  return {
    predictionRunId := ← Column.str.item data "prediction_run_id"
    method := ← Column.str.item data "method"
    formulaVersion := ← Column.str.item data "formula_version"
    predictorVariableCodes := ← Column.str.list.item data "predictor_variable_codes"
    dependentVariableCode := ← Column.str.getOptional data "dependent_variable_code"
    sampleSize := ← Column.nat.item data "sample_size"
    computedAt := ← Column.time.item data "computed_at" }

def modelMetadataColumn : Column RegressionModelMetadata :=
  .record modelMetadataToJson modelMetadataFromJson
    (fun metadata => metadata.computedAt < maxTimestamp) <| by
    intro metadata h
    simp [modelMetadataToJson, modelMetadataFromJson, -Option.bind_eq_bind, h]

def confusionMatrixToJson (cm : ConfusionMatrix) : List (String × Json) :=
  [("labels", Column.str.list.write cm.labels), ("matrix", Column.nat.list.list.write cm.matrix)]

def confusionMatrixFromJson (cmData : List (String × Json)) : Option ConfusionMatrix := do
  return {
    labels := ← Column.str.list.item cmData "labels"
    matrix := ← Column.nat.list.list.item cmData "matrix" }

def confusionMatrixColumn : Column ConfusionMatrix :=
  .record confusionMatrixToJson confusionMatrixFromJson (fun _ => True) <| by
    rintro cm -
    simp [confusionMatrixToJson, confusionMatrixFromJson, -Option.bind_eq_bind]

@[simp] theorem confusionMatrixColumn_ok (cm : ConfusionMatrix) :
    confusionMatrixColumn.ok cm := trivial

def rocPointToJson (p : RocPoint) : List (String × Json) :=
  [("fpr", Column.float.write p.fpr), ("tpr", Column.float.write p.tpr),
   ("threshold", Column.float.write p.threshold)]

def rocPointFromJson (p : List (String × Json)) : Option RocPoint := do
  return {
    fpr := ← Column.float.item p "fpr"
    tpr := ← Column.float.item p "tpr"
    threshold := ← Column.float.item p "threshold" }

def rocPointColumn : Column RocPoint :=
  .record rocPointToJson rocPointFromJson (fun _ => True) <| by
    rintro p -
    simp [rocPointToJson, rocPointFromJson, -Option.bind_eq_bind]

@[simp] theorem rocPointColumn_ok (p : RocPoint) : rocPointColumn.ok p := trivial

def metricsToJson (metrics : MetricSet) : List (String × Json) :=
  [("confusion_matrix", confusionMatrixColumn.write metrics.confusionMatrix),
   ("sample_size", Column.nat.write metrics.sampleSize),
   ("overall_accuracy", Column.float.writeOptional metrics.overallAccuracy),
   ("precision", Column.float.writeOptional metrics.precision),
   ("recall", Column.float.writeOptional metrics.recall),
   ("specificity", Column.float.writeOptional metrics.specificity),
   ("f1_score", Column.float.writeOptional metrics.f1Score),
   ("kappa", Column.float.writeOptional metrics.kappa),
   ("auc", Column.float.writeOptional metrics.auc),
   ("optimal_threshold", Column.float.writeOptional metrics.optimalThreshold),
   ("roc_points", rocPointColumn.list.write metrics.rocPoints)]

def metricsFromJson (data : List (String × Json)) : Option MetricSet := do
  return {
    confusionMatrix := ← confusionMatrixColumn.item data "confusion_matrix"
    sampleSize := ← Column.nat.item data "sample_size"
    overallAccuracy := ← Column.float.getOptional data "overall_accuracy"
    precision := ← Column.float.getOptional data "precision"
    «recall» := ← Column.float.getOptional data "recall"
    specificity := ← Column.float.getOptional data "specificity"
    f1Score := ← Column.float.getOptional data "f1_score"
    kappa := ← Column.float.getOptional data "kappa"
    auc := ← Column.float.getOptional data "auc"
    optimalThreshold := ← Column.float.getOptional data "optimal_threshold"
    rocPoints := ← rocPointColumn.list.getDefault [] data "roc_points" }

def metricsColumn : Column MetricSet :=
  .record metricsToJson metricsFromJson (fun _ => True) <| by
    rintro metrics -
    simp [metricsToJson, metricsFromJson, -Option.bind_eq_bind]

/-! ### Runs -/

/-- A row of `validation.validation_run`. -/
structure ValidationRunModel where
  id : UUID
  isUuid : id < 2 ^ 128
  tenantId : UUID
  assessmentId : UUID
  subjectId : String
  subjectType : String
  mode : String
  status : String
  thresholds : Json
  metrics : Option Json
  regressionMetrics : Option Json
  modelMetadata : Option Json
  verdict : Option String
  error : Option String
  issuedBy : String
  createdAt : Timestamp
  version : ℕ

def subjectTypes : List SubjectType := [.stageResult, .prediction]

def validationModes : List ValidationMode := [.classification, .regression]

def validationRunStatuses : List ValidationRunStatus := [.completed, .failed]

def verdicts : List Verdict := [.pass, .fail]

def statusValue : ValidationRunStatus → String
  | .completed => "COMPLETED"
  | .failed => "FAILED"

def validationRunToDomain (model : ValidationRunModel) : Option ValidationRun := do
  return {
    id := ⟨model.id, model.isUuid⟩
    tenantId := ⟨model.tenantId⟩
    assessmentId := ⟨model.assessmentId.str, model.assessmentId⟩
    subjectId := model.subjectId
    subjectType := ← memberOfValue subjectTypes SubjectType.value model.subjectType
    mode := ← memberOfValue validationModes ValidationMode.value model.mode
    status := ← memberOfValue validationRunStatuses statusValue model.status
    thresholds := ← thresholdsColumn.read model.thresholds
    metrics := ← metricsColumn.readNullable model.metrics
    verdict := ← model.verdict.mapM (memberOfValue verdicts Verdict.value)
    error := model.error
    issuedBy := model.issuedBy
    createdAt := model.createdAt
    regressionMetrics := ← regressionMetricsColumn.readNullable model.regressionMetrics
    modelMetadata := ← modelMetadataColumn.readNullable model.modelMetadata
    version := model.version }

/-- The version stays as the row has it. -/
def applyValidationRunToModel (entity : ValidationRun) (model : ValidationRunModel) :
    ValidationRunModel :=
  { model with
    id := entity.id.value
    isUuid := entity.id.isUuid
    tenantId := entity.tenantId.value
    assessmentId := entity.assessmentId.id
    subjectId := entity.subjectId
    subjectType := entity.subjectType.value
    mode := entity.mode.value
    status := statusValue entity.status
    thresholds := thresholdsColumn.write entity.thresholds
    metrics := entity.metrics.map metricsColumn.write
    regressionMetrics := entity.regressionMetrics.map regressionMetricsColumn.write
    modelMetadata := entity.modelMetadata.map modelMetadataColumn.write
    verdict := entity.verdict.map Verdict.value
    error := entity.error
    issuedBy := entity.issuedBy
    createdAt := entity.createdAt }

/-- A run on an assessment whose id is spelled canonically, with metadata of a year that `isoformat`
    writes. -/
structure ValidationRun.Storable (entity : ValidationRun) : Prop where
  assessmentId : entity.assessmentId.text = entity.assessmentId.id.str
  modelMetadata : ∀ metadata ∈ entity.modelMetadata, modelMetadataColumn.ok metadata

theorem memberOfValue_subjectType (subjectType : SubjectType) :
    memberOfValue subjectTypes SubjectType.value subjectType.value = some subjectType := by
  cases subjectType <;> rfl

theorem memberOfValue_mode (mode : ValidationMode) :
    memberOfValue validationModes ValidationMode.value mode.value = some mode := by
  cases mode <;> rfl

theorem memberOfValue_status (status : ValidationRunStatus) :
    memberOfValue validationRunStatuses statusValue (statusValue status) = some status := by
  cases status <;> rfl

theorem memberOfValue_verdict (verdict : Option Verdict) :
    (verdict.map Verdict.value).mapM (memberOfValue verdicts Verdict.value) = some verdict := by
  rcases verdict with _ | _ | _ <;> rfl

/-- A stored run is read back as it was, with the version of the row. -/
theorem validationRunToDomain_apply {entity : ValidationRun} (h : entity.Storable)
    (model : ValidationRunModel) :
    validationRunToDomain (applyValidationRunToModel entity model) =
      some { entity with version := model.version } := by
  rw [validationRunToDomain]
  simp only [applyValidationRunToModel]
  rw [memberOfValue_subjectType, memberOfValue_mode, memberOfValue_status,
    thresholdsColumn.read_write _ trivial, metricsColumn.readNullable_write fun _ _ => trivial,
    memberOfValue_verdict, regressionMetricsColumn.readNullable_write fun _ _ => trivial,
    modelMetadataColumn.readNullable_write h.modelMetadata, ← h.assessmentId]
  rfl

/-- The columns are those of the entity, whatever the row held; but the version stays the row's. -/
theorem applyValidationRunToModel_congr (entity : ValidationRun) (version : ℕ)
    (model model' : ValidationRunModel) :
    applyValidationRunToModel { entity with version } model' =
      { applyValidationRunToModel entity model with version := model'.version } := rfl

end GeoRisk.Validation.Storage
