import Mathlib
import GeoRisk.SharedKernel

/-! The `Report` aggregate: the sections of an assessment, frozen when the report is generated, one
    version after the other for each tenant and assessment. A section that a reader answers with is
    the section as it is frozen; only the stage results are split up.

        generate ─▶ draft ──finalize──▶ finalized
        failed   ─▶ failed -/

namespace GeoRisk.Reporting

structure ReportId where
  value : UUID
  deriving DecidableEq

instance : ToString ReportId := ⟨fun i => UUID.str i.value⟩

inductive ReportStatus where
  | draft | finalized | failed
  deriving DecidableEq

def ReportStatus.value : ReportStatus → String
  | .draft => "DRAFT"
  | .finalized => "FINALIZED"
  | .failed => "FAILED"

instance : ToString ReportStatus := ⟨ReportStatus.value⟩

/-! ### Sections -/

structure AssessmentSummary where
  assessmentId : String
  name : String
  hazardType : String
  status : String
  createdAt : Timestamp
  aoiName : Option String := none
  aoiVersion : Option ℕ := none
  aoiAreaM2 : Option PyFloat := none
  samplingCampaignName : Option String := none
  sampleCount : Option ℕ := none
  deriving DecidableEq

/-- What the assessment reader answers with; `_build_assessment_summary` copies it. -/
abbrev AssessmentInfo := AssessmentSummary

structure StageResultInfo where
  stageType : String
  status : String
  confidenceTier : Option String
  formulaVersion : Option String
  strategyVersion : Option String
  indicators : List (String × PyFloat)
  computedAt : Timestamp
  deriving DecidableEq

structure StageSummary where
  stageType : String
  status : String
  confidenceTier : Option String
  indicators : List (String × PyFloat)
  computedAt : Timestamp
  deriving DecidableEq

structure RiskSummarySection where
  hazardType : String
  stages : List StageSummary := []
  deriving DecidableEq

structure StageFormulaVersion where
  stageType : String
  formulaVersion : Option String
  deriving DecidableEq

structure CorrelationPairSummary where
  variableA : String
  variableB : String
  coefficient : PyFloat
  sampleSize : ℕ
  deriving DecidableEq

structure RegressionSummary where
  intercept : PyFloat
  coefficients : List (String × PyFloat)
  rSquared : PyFloat
  adjustedRSquared : PyFloat
  rmse : PyFloat
  mae : PyFloat
  deriving DecidableEq

structure PredictionSummary where
  predictionRunId : String
  method : String
  formulaVersion : String
  sampleSize : ℕ
  predictorVariableCodes : List String
  dependentVariableCode : Option String
  correlationPairs : List CorrelationPairSummary := []
  regression : Option RegressionSummary := none
  deriving DecidableEq

/-- What the prediction reader answers with; `_build_predictor_summary` copies it. -/
abbrev PredictionRunInfo := PredictionSummary

structure DatasetProvenanceEntrySummary where
  datasetId : String
  name : String
  version : ℕ
  datasetType : String
  provider : String
  processingMethod : String
  isMlrReady : Bool
  isCorrelationReady : Bool
  provenanceEntryCount : ℕ
  latestProvenanceAction : Option String
  latestProvenanceAt : Option Timestamp
  deriving DecidableEq

/-- What the dataset reader answers with; `_build_dataset_provenance` copies it. -/
abbrev DatasetInfo := DatasetProvenanceEntrySummary

structure ValidationSummary where
  validationRunId : String
  subjectType : String
  verdict : Option String
  sampleSize : ℕ
  computedAt : Timestamp
  mode : String := "CLASSIFICATION"
  overallAccuracy : Option PyFloat := none
  precision : Option PyFloat := none
  «recall» : Option PyFloat := none
  f1Score : Option PyFloat := none
  kappa : Option PyFloat := none
  auc : Option PyFloat := none
  rmse : Option PyFloat := none
  mae : Option PyFloat := none
  mse : Option PyFloat := none
  rSquared : Option PyFloat := none
  adjustedRSquared : Option PyFloat := none
  deriving DecidableEq

/-- What the validation reader answers with; `_build_validation_summary` copies it. -/
abbrev ValidationRunInfo := ValidationSummary

def buildRiskSummary (hazardType : String) (stageResults : List StageResultInfo) :
    Option RiskSummarySection × List StageFormulaVersion × Option String :=
  if stageResults = [] then (none, [], none)
  else
    let stages := stageResults.map fun r => ({
      stageType := r.stageType, status := r.status, confidenceTier := r.confidenceTier
      indicators := r.indicators, computedAt := r.computedAt } : StageSummary)
    let formulaVersions := stageResults.map fun r =>
      ({ stageType := r.stageType, formulaVersion := r.formulaVersion } : StageFormulaVersion)
    let strategyVersion := (stageResults.filterMap (·.strategyVersion)).find? (· ≠ "")
    (some { hazardType, stages }, formulaVersions, strategyVersion)

/-! ### Errors and events -/

inductive ReportingErrorKind where
  | reportNotFound | illegalReportStatusTransition
  deriving DecidableEq

structure ReportingError where
  kind : ReportingErrorKind
  message : String
  deriving DecidableEq

structure ReportGenerated where
  reportId : ReportId
  tenantId : TenantId
  assessmentId : String
  version : ℕ
  hazardType : String
  hasRiskSummary : Bool
  hasPredictionSummary : Bool
  hasValidationSummary : Bool
  datasetCount : ℕ
  deriving DecidableEq

structure ReportFinalized where
  reportId : ReportId
  tenantId : TenantId
  assessmentId : String
  version : ℕ
  finalizedBy : String
  deriving DecidableEq

structure ReportGenerationFailed where
  reportId : ReportId
  tenantId : TenantId
  assessmentId : String
  version : ℕ
  error : String
  deriving DecidableEq

inductive ReportEvent where
  | generated (e : ReportGenerated)
  | generationFailed (e : ReportGenerationFailed)
  | finalized (e : ReportFinalized)
  deriving DecidableEq

/-! ### The aggregate -/

/-- The sections of a report. -/
structure Sections where
  assessmentSummary : AssessmentSummary
  riskSummary : Option RiskSummarySection
  predictorSummary : List PredictionSummary
  datasetProvenance : List DatasetProvenanceEntrySummary
  validationSummary : Option ValidationSummary
  formulaVersions : List StageFormulaVersion
  strategyVersion : Option String
  deriving DecidableEq

structure Report where
  id : ReportId
  tenantId : TenantId
  assessmentId : Spelled UUID
  version : ℕ
  status : ReportStatus
  generatedAt : Timestamp
  issuedBy : String
  assessmentSummary : Option AssessmentSummary := none
  riskSummary : Option RiskSummarySection := none
  predictorSummary : List PredictionSummary := []
  datasetProvenance : List DatasetProvenanceEntrySummary := []
  validationSummary : Option ValidationSummary := none
  formulaVersions : List StageFormulaVersion := []
  strategyVersion : Option String := none
  error : Option String := none
  finalizedBy : Option String := none
  finalizedAt : Option Timestamp := none

namespace Report

def generate (id : ReportId) (tenantId : TenantId) (assessmentId : Spelled UUID) (version : ℕ)
    (sections : Sections) (issuedBy : String) (now : Timestamp) : Report × ReportGenerated :=
  ({ id, tenantId, assessmentId, version, status := .draft, generatedAt := now, issuedBy
     assessmentSummary := some sections.assessmentSummary
     riskSummary := sections.riskSummary
     predictorSummary := sections.predictorSummary
     datasetProvenance := sections.datasetProvenance
     validationSummary := sections.validationSummary
     formulaVersions := sections.formulaVersions
     strategyVersion := sections.strategyVersion },
   { reportId := id, tenantId, assessmentId := assessmentId.text, version
     hazardType := sections.assessmentSummary.hazardType
     hasRiskSummary := sections.riskSummary.isSome
     hasPredictionSummary := 0 < sections.predictorSummary.length
     hasValidationSummary := sections.validationSummary.isSome
     datasetCount := sections.datasetProvenance.length })

def failed (id : ReportId) (tenantId : TenantId) (assessmentId : Spelled UUID) (version : ℕ)
    (error issuedBy : String) (now : Timestamp) : Report × ReportGenerationFailed :=
  ({ id, tenantId, assessmentId, version, status := .failed, generatedAt := now, issuedBy
     error := some error },
   { reportId := id, tenantId, assessmentId := assessmentId.text, version, error })

def finalize (self : Report) (finalizedBy : String) (now : Timestamp) :
    Except ReportingError (Report × ReportFinalized) :=
  if self.status ≠ .draft then
    .error ⟨.illegalReportStatusTransition,
      s!"Report {self.id} is {self.status}, not DRAFT — only a DRAFT report can be finalized"⟩
  else
    .ok ({ self with status := .finalized, finalizedBy := some finalizedBy, finalizedAt := some now },
      { reportId := self.id, tenantId := self.tenantId, assessmentId := self.assessmentId.text
        version := self.version, finalizedBy })

end Report

end GeoRisk.Reporting
