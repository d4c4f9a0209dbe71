import GeoRisk.JsonColumns
import GeoRisk.Prediction.PredictionRun

/-! Prediction runs in the database: the metadata and the result of either kind are columns of JSON,
    empty where the run has none. The metadata are read through their constructor, which checks
    them again. -/

namespace GeoRisk.Prediction

def predictionMethods : List PredictionMethod :=
  [.pearsonCorrelation, .spearmanCorrelation, .kendallCorrelation, .multipleLinearRegression]

def predictionRunStatuses : List PredictionRunStatus := [.completed, .failed]

def PredictionRunStatus.value : PredictionRunStatus → String
  | .completed => "COMPLETED"
  | .failed => "FAILED"

theorem memberOfValue_method (method : PredictionMethod) :
    memberOfValue predictionMethods PredictionMethod.value method.value = some method := by
  cases method <;> rfl

theorem memberOfValue_runStatus (status : PredictionRunStatus) :
    memberOfValue predictionRunStatuses PredictionRunStatus.value status.value = some status := by
  cases status <;> rfl

/-! ### Columns of JSON -/

def methodColumn : Column PredictionMethod :=
  .enum predictionMethods PredictionMethod.value memberOfValue_method

@[simp] theorem methodColumn_ok (method : PredictionMethod) : methodColumn.ok method := trivial

def modelMetadataToJson (metadata : ModelMetadata) : List (String × Json) :=
  [("model_type", methodColumn.write metadata.modelType),
   ("formula_version", Column.str.write metadata.formulaVersion),
   ("predictor_variable_codes", Column.str.list.write metadata.predictorVariableCodes),
   ("dependent_variable_code", Column.str.writeOptional metadata.dependentVariableCode),
   ("sample_size", Column.nat.write metadata.sampleSize),
   ("computed_at", Column.time.write metadata.computedAt)]

def modelMetadataFromJson (data : List (String × Json)) : Option ModelMetadata := do
  let modelType ← methodColumn.item data "model_type"
  let formulaVersion ← Column.str.item data "formula_version"
  let predictorVariableCodes ← Column.str.list.item data "predictor_variable_codes"
  let dependentVariableCode ← Column.str.getOptional data "dependent_variable_code"
  let sampleSize ← Column.nat.item data "sample_size"
  let computedAt ← Column.time.item data "computed_at"
  (ModelMetadata.make modelType formulaVersion predictorVariableCodes dependentVariableCode
    sampleSize computedAt).toOption

theorem ModelMetadata.make_self (metadata : ModelMetadata) :
    make metadata.modelType metadata.formulaVersion metadata.predictorVariableCodes
      metadata.dependentVariableCode metadata.sampleSize metadata.computedAt = .ok metadata := by
  rw [make, dif_neg metadata.codes_ne_nil, dif_pos metadata.sampleSize_pos]

def modelMetadataColumn : Column ModelMetadata :=
  .record modelMetadataToJson modelMetadataFromJson
    (fun metadata => metadata.computedAt < maxTimestamp) <| by
    intro metadata h
    simp [modelMetadataToJson, modelMetadataFromJson, -Option.bind_eq_bind, h,
      ModelMetadata.make_self, Except.toOption]

def correlationPairToJson (p : CorrelationPair) : List (String × Json) :=
  [("variable_a", Column.str.write p.variableA), ("variable_b", Column.str.write p.variableB),
   ("coefficient", Column.float.write p.coefficient),
   ("sample_size", Column.nat.write p.sampleSize)]

def correlationPairFromJson (p : List (String × Json)) : Option CorrelationPair := do
  return {
    variableA := ← Column.str.item p "variable_a"
    variableB := ← Column.str.item p "variable_b"
    coefficient := ← Column.float.item p "coefficient"
    sampleSize := ← Column.nat.item p "sample_size" }

def correlationPairColumn : Column CorrelationPair :=
  .record correlationPairToJson correlationPairFromJson (fun _ => True) <| by
    rintro p -
    simp [correlationPairToJson, correlationPairFromJson, -Option.bind_eq_bind]

@[simp] theorem correlationPairColumn_ok (p : CorrelationPair) : correlationPairColumn.ok p :=
  trivial

def correlationResultToJson (result : CorrelationResult) : List (String × Json) :=
  [("pairs", correlationPairColumn.list.write result.pairs)]

def correlationResultFromJson (data : List (String × Json)) : Option CorrelationResult := do
  return { pairs := ← correlationPairColumn.list.item data "pairs" }

def correlationResultColumn : Column CorrelationResult :=
  .record correlationResultToJson correlationResultFromJson (fun _ => True) <| by
    rintro result -
    simp [correlationResultToJson, correlationResultFromJson, -Option.bind_eq_bind]

def regressionVariableToJson (v : RegressionVariableResult) : List (String × Json) :=
  [("code", Column.str.write v.code), ("coefficient", Column.float.write v.coefficient),
   ("standardized_coefficient", Column.float.write v.standardizedCoefficient),
   ("standard_error", Column.float.write v.standardError),
   ("t_statistic", Column.float.write v.tStatistic), ("p_value", Column.float.write v.pValue)]

def regressionVariableFromJson (v : List (String × Json)) : Option RegressionVariableResult := do
  return {
    code := ← Column.str.item v "code"
    coefficient := ← Column.float.item v "coefficient"
    standardizedCoefficient := ← Column.float.item v "standardized_coefficient"
    standardError := ← Column.float.item v "standard_error"
    tStatistic := ← Column.float.item v "t_statistic"
    pValue := ← Column.float.item v "p_value" }

def regressionVariableColumn : Column RegressionVariableResult :=
  .record regressionVariableToJson regressionVariableFromJson (fun _ => True) <| by
    rintro v -
    simp [regressionVariableToJson, regressionVariableFromJson, -Option.bind_eq_bind]

@[simp] theorem regressionVariableColumn_ok (v : RegressionVariableResult) :
    regressionVariableColumn.ok v := trivial

def regressionResultToJson (result : RegressionResult) : List (String × Json) :=
  [("intercept", Column.float.write result.intercept),
   ("variables", regressionVariableColumn.list.write result.variableResults),
   ("r_squared", Column.float.write result.rSquared),
   ("adjusted_r_squared", Column.float.write result.adjustedRSquared),
   ("rmse", Column.float.write result.rmse), ("mae", Column.float.write result.mae),
   ("f_statistic", Column.float.write result.fStatistic), ("mse", Column.float.write result.mse)]

def regressionResultFromJson (data : List (String × Json)) : Option RegressionResult := do
  return {
    intercept := ← Column.float.item data "intercept"
    variableResults := ← regressionVariableColumn.list.item data "variables"
    rSquared := ← Column.float.item data "r_squared"
    adjustedRSquared := ← Column.float.item data "adjusted_r_squared"
    rmse := ← Column.float.item data "rmse"
    mae := ← Column.float.item data "mae"
    fStatistic := ← Column.float.item data "f_statistic"
    mse := ← Column.float.item data "mse" }

def regressionResultColumn : Column RegressionResult :=
  .record regressionResultToJson regressionResultFromJson (fun _ => True) <| by
    rintro result -
    simp [regressionResultToJson, regressionResultFromJson, -Option.bind_eq_bind]

/-! ### Runs -/

/-- A row of `prediction.prediction_run`. -/
structure PredictionRunModel where
  id : UUID
  tenantId : UUID
  assessmentId : UUID
  variableSelectionId : UUID
  samplingCampaignId : UUID
  method : String
  version : ℕ
  status : String
  modelMetadata : Option Json
  correlationResult : Option Json
  regressionResult : Option Json
  error : Option String
  issuedBy : String
  createdAt : Timestamp

def predictionRunToDomain (model : PredictionRunModel) : Option PredictionRun := do
  return {
    id := ⟨model.id⟩
    tenantId := ⟨model.tenantId⟩
    assessmentId := ⟨model.assessmentId.str, model.assessmentId⟩
    variableSelectionId := ⟨model.variableSelectionId.str, model.variableSelectionId⟩
    samplingCampaignId := ⟨model.samplingCampaignId.str, model.samplingCampaignId⟩
    method := ← memberOfValue predictionMethods PredictionMethod.value model.method
    version := model.version
    status := ← memberOfValue predictionRunStatuses PredictionRunStatus.value model.status
    modelMetadata := ← modelMetadataColumn.readNullable model.modelMetadata
    correlationResult := ← correlationResultColumn.readNullable model.correlationResult
    regressionResult := ← regressionResultColumn.readNullable model.regressionResult
    error := model.error
    issuedBy := model.issuedBy
    createdAt := model.createdAt }

def applyPredictionRunToModel (entity : PredictionRun) (model : PredictionRunModel) :
    PredictionRunModel :=
  { model with
    id := entity.id.value
    tenantId := entity.tenantId.value
    assessmentId := entity.assessmentId.id
    variableSelectionId := entity.variableSelectionId.id
    samplingCampaignId := entity.samplingCampaignId.id
    method := entity.method.value
    version := entity.version
    status := entity.status.value
    modelMetadata := entity.modelMetadata.map modelMetadataColumn.write
    correlationResult := entity.correlationResult.map correlationResultColumn.write
    regressionResult := entity.regressionResult.map regressionResultColumn.write
    error := entity.error
    issuedBy := entity.issuedBy
    createdAt := entity.createdAt }

/-- A run whose identifiers are spelled canonically, with metadata of a year that `isoformat`
    writes. -/
structure PredictionRun.Storable (entity : PredictionRun) : Prop where
  assessmentId : entity.assessmentId.text = entity.assessmentId.id.str
  variableSelectionId : entity.variableSelectionId.text = entity.variableSelectionId.id.str
  samplingCampaignId : entity.samplingCampaignId.text = entity.samplingCampaignId.id.str
  modelMetadata : ∀ metadata ∈ entity.modelMetadata, modelMetadataColumn.ok metadata

/-- A stored run is read back as it was. -/
theorem predictionRunToDomain_apply {entity : PredictionRun} (h : entity.Storable)
    (model : PredictionRunModel) :
    predictionRunToDomain (applyPredictionRunToModel entity model) = some entity := by
  rw [predictionRunToDomain]
  simp only [applyPredictionRunToModel]
  rw [memberOfValue_method, memberOfValue_runStatus,
    modelMetadataColumn.readNullable_write h.modelMetadata,
    correlationResultColumn.readNullable_write fun _ _ => trivial,
    regressionResultColumn.readNullable_write fun _ _ => trivial, ← h.assessmentId,
    ← h.variableSelectionId, ← h.samplingCampaignId]
  rfl

/-- The columns are those of the entity, whatever the row held. -/
theorem applyPredictionRunToModel_congr (entity : PredictionRun)
    (model model' : PredictionRunModel) :
    applyPredictionRunToModel entity model = applyPredictionRunToModel entity model' := rfl

end GeoRisk.Prediction
