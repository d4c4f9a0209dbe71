import GeoRisk.JsonColumns
import GeoRisk.Reporting.Report

/-! Reports in the database. Every section is a column of JSON; the sections that are lists have an
    empty column when they are empty, and an empty column is read as no items:

        ()          ──▶  NULL  ──▶  ()
        (d₁, d₂)    ──▶  [d₁, d₂]  ──▶  (d₁, d₂)                                                 -/

namespace GeoRisk.Reporting

def assessmentSummaryToJson (summary : AssessmentSummary) : List (String × Json) :=
  [("assessment_id", Column.str.write summary.assessmentId),
   ("name", Column.str.write summary.name),
   ("hazard_type", Column.str.write summary.hazardType),
   ("status", Column.str.write summary.status),
   ("created_at", Column.time.write summary.createdAt),
   ("aoi_name", Column.str.writeOptional summary.aoiName),
   ("aoi_version", Column.nat.writeOptional summary.aoiVersion),
   ("aoi_area_m2", Column.float.writeOptional summary.aoiAreaM2),
   ("sampling_campaign_name", Column.str.writeOptional summary.samplingCampaignName),
   ("sample_count", Column.nat.writeOptional summary.sampleCount)]

def assessmentSummaryFromJson (data : List (String × Json)) : Option AssessmentSummary := do
  return {
    assessmentId := ← Column.str.item data "assessment_id"
    name := ← Column.str.item data "name"
    hazardType := ← Column.str.item data "hazard_type"
    status := ← Column.str.item data "status"
    createdAt := ← Column.time.item data "created_at"
    aoiName := ← Column.str.getOptional data "aoi_name"
    aoiVersion := ← Column.nat.getOptional data "aoi_version"
    aoiAreaM2 := ← Column.float.getOptional data "aoi_area_m2"
    samplingCampaignName := ← Column.str.getOptional data "sampling_campaign_name"
    sampleCount := ← Column.nat.getOptional data "sample_count" }

def assessmentSummaryColumn : Column AssessmentSummary :=
  .record assessmentSummaryToJson assessmentSummaryFromJson
    (fun summary => summary.createdAt < maxTimestamp) <| by
    intro summary h
    simp [assessmentSummaryToJson, assessmentSummaryFromJson, -Option.bind_eq_bind, h]

def stageSummaryToJson (stage : StageSummary) : List (String × Json) :=
  [("stage_type", Column.str.write stage.stageType), ("status", Column.str.write stage.status),
   ("confidence_tier", Column.str.writeOptional stage.confidenceTier),
   ("indicators", Column.floats.write stage.indicators),
   ("computed_at", Column.time.write stage.computedAt)]

def stageSummaryFromJson (data : List (String × Json)) : Option StageSummary := do
  return {
    stageType := ← Column.str.item data "stage_type"
    status := ← Column.str.item data "status"
    confidenceTier := ← Column.str.getOptional data "confidence_tier"
    indicators := ← Column.floats.item data "indicators"
    computedAt := ← Column.time.item data "computed_at" }

def stageSummaryColumn : Column StageSummary :=
  .record stageSummaryToJson stageSummaryFromJson
    (fun stage => stage.computedAt < maxTimestamp) <| by
    intro stage h
    simp [stageSummaryToJson, stageSummaryFromJson, -Option.bind_eq_bind, h]

@[simp] theorem stageSummaryColumn_ok (stage : StageSummary) :
    stageSummaryColumn.ok stage ↔ stage.computedAt < maxTimestamp := Iff.rfl

def riskSummaryToJson (riskSection : RiskSummarySection) : List (String × Json) :=
  [("hazard_type", Column.str.write riskSection.hazardType),
   ("stages", stageSummaryColumn.list.write riskSection.stages)]

def riskSummaryFromJson (data : List (String × Json)) : Option RiskSummarySection := do
  return {
    hazardType := ← Column.str.item data "hazard_type"
    stages := ← stageSummaryColumn.list.item data "stages" }

def riskSummaryColumn : Column RiskSummarySection :=
  .record riskSummaryToJson riskSummaryFromJson
    (fun riskSection => ∀ stage ∈ riskSection.stages, stage.computedAt < maxTimestamp) <| by
    intro riskSection h
    simp +contextual [riskSummaryToJson, riskSummaryFromJson, -Option.bind_eq_bind, h]

def correlationPairToJson (pair : CorrelationPairSummary) : List (String × Json) :=
  [("variable_a", Column.str.write pair.variableA), ("variable_b", Column.str.write pair.variableB),
   ("coefficient", Column.float.write pair.coefficient),
   ("sample_size", Column.nat.write pair.sampleSize)]

def correlationPairFromJson (p : List (String × Json)) : Option CorrelationPairSummary := do
  return {
    variableA := ← Column.str.item p "variable_a"
    variableB := ← Column.str.item p "variable_b"
    coefficient := ← Column.float.item p "coefficient"
    sampleSize := ← Column.nat.item p "sample_size" }

def correlationPairColumn : Column CorrelationPairSummary :=
  .record correlationPairToJson correlationPairFromJson (fun _ => True) <| by
    rintro pair -
    simp [correlationPairToJson, correlationPairFromJson, -Option.bind_eq_bind]

@[simp] theorem correlationPairColumn_ok (pair : CorrelationPairSummary) :
    correlationPairColumn.ok pair := trivial

def regressionToJson (regression : RegressionSummary) : List (String × Json) :=
  [("intercept", Column.float.write regression.intercept),
   ("coefficients", Column.floats.write regression.coefficients),
   ("r_squared", Column.float.write regression.rSquared),
   ("adjusted_r_squared", Column.float.write regression.adjustedRSquared),
   ("rmse", Column.float.write regression.rmse), ("mae", Column.float.write regression.mae)]

def regressionFromJson (regressionData : List (String × Json)) : Option RegressionSummary := do
  return {
    intercept := ← Column.float.item regressionData "intercept"
    coefficients := ← Column.floats.item regressionData "coefficients"
    rSquared := ← Column.float.item regressionData "r_squared"
    adjustedRSquared := ← Column.float.item regressionData "adjusted_r_squared"
    rmse := ← Column.float.item regressionData "rmse"
    mae := ← Column.float.item regressionData "mae" }

def regressionColumn : Column RegressionSummary :=
  .record regressionToJson regressionFromJson (fun _ => True) <| by
    rintro regression -
    simp [regressionToJson, regressionFromJson, -Option.bind_eq_bind]

@[simp] theorem regressionColumn_ok (regression : RegressionSummary) :
    regressionColumn.ok regression := trivial

def predictionSummaryToJson (summary : PredictionSummary) : List (String × Json) :=
  [("prediction_run_id", Column.str.write summary.predictionRunId),
   ("method", Column.str.write summary.method),
   ("formula_version", Column.str.write summary.formulaVersion),
   ("sample_size", Column.nat.write summary.sampleSize),
   ("predictor_variable_codes", Column.str.list.write summary.predictorVariableCodes),
   ("dependent_variable_code", Column.str.writeOptional summary.dependentVariableCode),
   ("correlation_pairs", correlationPairColumn.list.write summary.correlationPairs),
   ("regression", regressionColumn.writeOptional summary.regression)]

def predictionSummaryFromJson (data : List (String × Json)) : Option PredictionSummary := do
  return {
    predictionRunId := ← Column.str.item data "prediction_run_id"
    method := ← Column.str.item data "method"
    formulaVersion := ← Column.str.item data "formula_version"
    sampleSize := ← Column.nat.item data "sample_size"
    predictorVariableCodes := ← Column.str.list.item data "predictor_variable_codes"
    dependentVariableCode := ← Column.str.getOptional data "dependent_variable_code"
    correlationPairs := ← correlationPairColumn.list.getDefault [] data "correlation_pairs"
    regression := ← regressionColumn.getOptional data "regression" }

def predictionSummaryColumn : Column PredictionSummary :=
  .record predictionSummaryToJson predictionSummaryFromJson (fun _ => True) <| by
    rintro summary -
    simp [predictionSummaryToJson, predictionSummaryFromJson, -Option.bind_eq_bind]

@[simp] theorem predictionSummaryColumn_ok (summary : PredictionSummary) :
    predictionSummaryColumn.ok summary := trivial

def datasetProvenanceEntryToJson (entry : DatasetProvenanceEntrySummary) : List (String × Json) :=
  [("dataset_id", Column.str.write entry.datasetId), ("name", Column.str.write entry.name),
   ("version", Column.nat.write entry.version),
   ("dataset_type", Column.str.write entry.datasetType),
   ("provider", Column.str.write entry.provider),
   ("processing_method", Column.str.write entry.processingMethod),
   ("is_mlr_ready", Column.bool.write entry.isMlrReady),
   ("is_correlation_ready", Column.bool.write entry.isCorrelationReady),
   ("provenance_entry_count", Column.nat.write entry.provenanceEntryCount),
   ("latest_provenance_action", Column.str.writeOptional entry.latestProvenanceAction),
   ("latest_provenance_at", Column.time.writeOptional entry.latestProvenanceAt)]

def datasetProvenanceEntryFromJson (data : List (String × Json)) :
    Option DatasetProvenanceEntrySummary := do
  return {
    datasetId := ← Column.str.item data "dataset_id"
    name := ← Column.str.item data "name"
    version := ← Column.nat.item data "version"
    datasetType := ← Column.str.item data "dataset_type"
    provider := ← Column.str.item data "provider"
    processingMethod := ← Column.str.item data "processing_method"
    isMlrReady := ← Column.bool.item data "is_mlr_ready"
    isCorrelationReady := ← Column.bool.item data "is_correlation_ready"
    provenanceEntryCount := ← Column.nat.item data "provenance_entry_count"
    latestProvenanceAction := ← Column.str.getOptional data "latest_provenance_action"
    latestProvenanceAt := ← Column.time.getOptional data "latest_provenance_at" }

def datasetProvenanceEntryColumn : Column DatasetProvenanceEntrySummary :=
  .record datasetProvenanceEntryToJson datasetProvenanceEntryFromJson
    (fun entry => ∀ t ∈ entry.latestProvenanceAt, t < maxTimestamp) <| by
    intro entry h
    simp +contextual [datasetProvenanceEntryToJson, datasetProvenanceEntryFromJson,
      -Option.bind_eq_bind, h]

def validationSummaryToJson (summary : ValidationSummary) : List (String × Json) :=
  [("validation_run_id", Column.str.write summary.validationRunId),
   ("subject_type", Column.str.write summary.subjectType),
   ("verdict", Column.str.writeOptional summary.verdict),
   ("sample_size", Column.nat.write summary.sampleSize), ("mode", Column.str.write summary.mode),
   ("overall_accuracy", Column.float.writeOptional summary.overallAccuracy),
   ("precision", Column.float.writeOptional summary.precision),
   ("recall", Column.float.writeOptional summary.recall),
   ("f1_score", Column.float.writeOptional summary.f1Score),
   ("kappa", Column.float.writeOptional summary.kappa),
   ("auc", Column.float.writeOptional summary.auc),
   ("rmse", Column.float.writeOptional summary.rmse),
   ("mae", Column.float.writeOptional summary.mae),
   ("mse", Column.float.writeOptional summary.mse),
   ("r_squared", Column.float.writeOptional summary.rSquared),
   ("adjusted_r_squared", Column.float.writeOptional summary.adjustedRSquared),
   ("computed_at", Column.time.write summary.computedAt)]

def validationSummaryFromJson (data : List (String × Json)) : Option ValidationSummary := do
  return {
    validationRunId := ← Column.str.item data "validation_run_id"
    subjectType := ← Column.str.item data "subject_type"
    verdict := ← Column.str.getOptional data "verdict"
    sampleSize := ← Column.nat.item data "sample_size"
    mode := ← Column.str.getDefault "CLASSIFICATION" data "mode"
    overallAccuracy := ← Column.float.getOptional data "overall_accuracy"
    precision := ← Column.float.getOptional data "precision"
    «recall» := ← Column.float.getOptional data "recall"
    f1Score := ← Column.float.getOptional data "f1_score"
    kappa := ← Column.float.getOptional data "kappa"
    auc := ← Column.float.getOptional data "auc"
    rmse := ← Column.float.getOptional data "rmse"
    mae := ← Column.float.getOptional data "mae"
    mse := ← Column.float.getOptional data "mse"
    rSquared := ← Column.float.getOptional data "r_squared"
    adjustedRSquared := ← Column.float.getOptional data "adjusted_r_squared"
    computedAt := ← Column.time.item data "computed_at" }

def validationSummaryColumn : Column ValidationSummary :=
  .record validationSummaryToJson validationSummaryFromJson
    (fun summary => summary.computedAt < maxTimestamp) <| by
    intro summary h
    simp [validationSummaryToJson, validationSummaryFromJson, -Option.bind_eq_bind, h]

def formulaVersionToJson (entry : StageFormulaVersion) : List (String × Json) :=
  [("stage_type", Column.str.write entry.stageType),
   ("formula_version", Column.str.writeOptional entry.formulaVersion)]

def formulaVersionFromJson (data : List (String × Json)) : Option StageFormulaVersion := do
  return {
    stageType := ← Column.str.item data "stage_type"
    formulaVersion := ← Column.str.getOptional data "formula_version" }

def formulaVersionColumn : Column StageFormulaVersion :=
  .record formulaVersionToJson formulaVersionFromJson (fun _ => True) <| by
    rintro entry -
    simp [formulaVersionToJson, formulaVersionFromJson, -Option.bind_eq_bind]

@[simp] theorem formulaVersionColumn_ok (entry : StageFormulaVersion) :
    formulaVersionColumn.ok entry := trivial

/-! ### Reports -/

/-- A row of `reporting.report`. -/
structure ReportModel where
  id : UUID
  tenantId : UUID
  assessmentId : UUID
  version : ℕ
  status : String
  generatedAt : Timestamp
  issuedBy : String
  assessmentSummary : Option Json
  riskSummary : Option Json
  predictorSummary : Option Json
  datasetProvenance : Option Json
  validationSummary : Option Json
  formulaVersions : Option Json
  strategyVersion : Option String
  error : Option String
  finalizedBy : Option String
  finalizedAt : Option Timestamp

def ReportStatus.members : List ReportStatus := [.draft, .finalized, .failed]

def reportToDomain (model : ReportModel) : Option Report := do
  return {
    id := ⟨model.id⟩
    tenantId := ⟨model.tenantId⟩
    assessmentId := ⟨model.assessmentId.str, model.assessmentId⟩
    version := model.version
    status := ← memberOfValue ReportStatus.members ReportStatus.value model.status
    generatedAt := model.generatedAt
    issuedBy := model.issuedBy
    assessmentSummary := ← assessmentSummaryColumn.readNullable model.assessmentSummary
    riskSummary := ← riskSummaryColumn.readNullable model.riskSummary
    predictorSummary := ← predictionSummaryColumn.readRows model.predictorSummary
    datasetProvenance := ← datasetProvenanceEntryColumn.readRows model.datasetProvenance
    validationSummary := ← validationSummaryColumn.readNullable model.validationSummary
    formulaVersions := ← formulaVersionColumn.readRows model.formulaVersions
    strategyVersion := model.strategyVersion
    error := model.error
    finalizedBy := model.finalizedBy
    finalizedAt := model.finalizedAt }

def applyReportToModel (entity : Report) (model : ReportModel) : ReportModel :=
  { model with
    id := entity.id.value
    tenantId := entity.tenantId.value
    assessmentId := entity.assessmentId.id
    version := entity.version
    status := entity.status.value
    generatedAt := entity.generatedAt
    issuedBy := entity.issuedBy
    assessmentSummary := entity.assessmentSummary.map assessmentSummaryColumn.write
    riskSummary := entity.riskSummary.map riskSummaryColumn.write
    predictorSummary := predictionSummaryColumn.writeRows entity.predictorSummary
    datasetProvenance := datasetProvenanceEntryColumn.writeRows entity.datasetProvenance
    validationSummary := entity.validationSummary.map validationSummaryColumn.write
    formulaVersions := formulaVersionColumn.writeRows entity.formulaVersions
    strategyVersion := entity.strategyVersion
    error := entity.error
    finalizedBy := entity.finalizedBy
    finalizedAt := entity.finalizedAt }

/-- A report whose timestamps are of the years that `isoformat` writes, about an assessment whose id
    is spelled canonically. -/
structure Report.Storable (entity : Report) : Prop where
  assessmentId : entity.assessmentId.text = entity.assessmentId.id.str
  assessmentSummary : ∀ summary ∈ entity.assessmentSummary, assessmentSummaryColumn.ok summary
  riskSummary : ∀ riskSection ∈ entity.riskSummary, riskSummaryColumn.ok riskSection
  datasetProvenance : ∀ entry ∈ entity.datasetProvenance, datasetProvenanceEntryColumn.ok entry
  validationSummary : ∀ summary ∈ entity.validationSummary, validationSummaryColumn.ok summary

theorem memberOfValue_reportStatus (status : ReportStatus) :
    memberOfValue ReportStatus.members ReportStatus.value status.value = some status := by
  cases status <;> rfl

/-- A stored report is read back as it was. -/
theorem reportToDomain_apply {entity : Report} (h : entity.Storable) (model : ReportModel) :
    reportToDomain (applyReportToModel entity model) = some entity := by
  rw [reportToDomain]
  simp only [applyReportToModel]
  rw [memberOfValue_reportStatus, Column.readNullable_write _ h.assessmentSummary,
    Column.readNullable_write _ h.riskSummary,
    Column.readRows_writeRows _ fun summary _ => predictionSummaryColumn_ok summary,
    Column.readRows_writeRows _ h.datasetProvenance,
    Column.readNullable_write _ h.validationSummary,
    Column.readRows_writeRows _ fun entry _ => formulaVersionColumn_ok entry, ← h.assessmentId]
  rfl

/-- The columns are those of the entity, whatever the row held. -/
theorem applyReportToModel_congr (entity : Report) (model model' : ReportModel) :
    applyReportToModel entity model = applyReportToModel entity model' := rfl

end GeoRisk.Reporting
