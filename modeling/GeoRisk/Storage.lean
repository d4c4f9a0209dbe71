import GeoRisk.Orchestration.Mappers
import GeoRisk.Prediction.Mappers
import GeoRisk.Reporting.Mappers
import GeoRisk.Validation.Mappers

/-! What the database keeps of an entity: all of it. An entity is written into the columns of a row,
    whatever the row held, and read from them:

        entity ──apply──▶ columns ──to_domain──▶ entity ──apply──▶ the same columns

    The versions of assessments and of validation runs are the database's own.                  -/

namespace GeoRisk

open Orchestration Reporting Prediction Validation.Storage

/-- Of every kind of entity, the columns give back the entity that was written into them, and are
    written again as they were. -/
theorem storage_faithful :
    (∀ (a : Assessment) (m m' : AssessmentModel), a.Storable →
      ∃ a', assessmentToDomain (applyAssessmentToModel a m) = some a' ∧
        a' = { a with version := m.version } ∧
        applyAssessmentToModel a' m' =
          { applyAssessmentToModel a m with version := m'.version }) ∧
    (∀ (t : WorkflowTemplate) (m m' : WorkflowTemplateModel),
      ∃ t', workflowTemplateToDomain (applyWorkflowTemplateToModel t m) = some t' ∧ t' = t ∧
        applyWorkflowTemplateToModel t' m' = applyWorkflowTemplateToModel t m) ∧
    (∀ (r : Report) (m m' : ReportModel), r.Storable →
      ∃ r', reportToDomain (applyReportToModel r m) = some r' ∧ r' = r ∧
        applyReportToModel r' m' = applyReportToModel r m) ∧
    (∀ (v : ValidationRun) (m m' : ValidationRunModel), v.Storable →
      ∃ v', validationRunToDomain (applyValidationRunToModel v m) = some v' ∧
        v' = { v with version := m.version } ∧
        applyValidationRunToModel v' m' =
          { applyValidationRunToModel v m with version := m'.version }) ∧
    (∀ (p : PredictionRun) (m m' : PredictionRunModel), p.Storable →
      ∃ p', predictionRunToDomain (applyPredictionRunToModel p m) = some p' ∧ p' = p ∧
        applyPredictionRunToModel p' m' = applyPredictionRunToModel p m) := by
  refine ⟨fun a m m' h => ?_, fun t m m' => ?_, fun r m m' h => ?_, fun v m m' h => ?_,
    fun p m m' h => ?_⟩
  · exact ⟨_, assessmentToDomain_apply h m, rfl, applyAssessmentToModel_congr a m.version m m'⟩
  · exact ⟨_, workflowTemplateToDomain_apply t m, rfl, applyWorkflowTemplateToModel_congr t m' m⟩
  · exact ⟨_, reportToDomain_apply h m, rfl, applyReportToModel_congr r m' m⟩
  · exact ⟨_, validationRunToDomain_apply h m, rfl,
      applyValidationRunToModel_congr v m.version m m'⟩
  · exact ⟨_, predictionRunToDomain_apply h m, rfl, applyPredictionRunToModel_congr p m' m⟩

/-! A workflow of two stages, with a report on it, the validation of a stage and a correlation. -/

def storedAssessment : Assessment where
  id := ⟨1⟩
  tenantId := ⟨2⟩
  name := "Basin"
  hazardType := .flood
  status := .running
  createdBy := ⟨3⟩
  createdAt := 0
  updatedAt := 7
  workflowTemplateId := some ⟨4⟩
  workflowProgress :=
    { workflowTemplateId := some ⟨4⟩
      entries :=
        [{ stageType := .exposure, status := .failed, attemptCount := 2, startedAt := some 5
           lastError := some "no payload" },
         { stageType := .hazard, status := .complete, attemptCount := 1, startedAt := some 6
           completedAt := some 7, stageResultRef := some "ref" }] }

def storedTemplate : WorkflowTemplate where
  id := ⟨4⟩
  hazardType := .flood
  name := "Flood"
  version := 1
  status := .published
  stageDefinitions :=
    [.initial .hazard .manual,
     { stageType := .exposure, requiredPredecessors := {.hazard, .risk}, maxAttempts := 2 }]
  createdAt := 0

def storedReport : Report where
  id := ⟨5⟩
  tenantId := ⟨2⟩
  assessmentId := ⟨UUID.str 1, 1⟩
  version := 1
  status := .finalized
  generatedAt := 8
  issuedBy := "analyst"
  assessmentSummary := some
    { assessmentId := UUID.str 1, name := "Basin", hazardType := "FLOOD", status := "REPORTED"
      createdAt := 0, aoiVersion := some 2 }
  riskSummary := some { hazardType := "FLOOD", stages :=
    [{ stageType := "HAZARD", status := "COMPLETE", confidenceTier := none
       indicators := [("hazard_score", .finite (1 / 2))], computedAt := 7 }] }
  finalizedBy := some "manager"
  finalizedAt := some 9

def storedValidationRun : ValidationRun where
  id := ⟨6, by decide⟩
  tenantId := ⟨2⟩
  assessmentId := ⟨UUID.str 1, 1⟩
  subjectId := "subject"
  subjectType := .prediction
  mode := .regression
  status := .completed
  thresholds := { minOverallAccuracy := none, minPrecision := none, minRecall := none
                  minF1Score := none, minAuc := none, maxRmse := some (.finite 1), maxMae := none
                  minRSquared := none, minAdjustedRSquared := none }
  metrics := none
  verdict := some .pass
  error := none
  issuedBy := "analyst"
  createdAt := 9
  regressionMetrics := some { sampleSize := 2, rmse := .finite 0, mae := .finite 0
                              mse := .finite 0, rSquared := .finite 1, adjustedRSquared := .finite 0 }
  modelMetadata := some
    { predictionRunId := UUID.str 7, method := "MULTIPLE_LINEAR_REGRESSION"
      formulaVersion := "mlr-ols-v1", predictorVariableCodes := ["rain"]
      dependentVariableCode := some "depth", sampleSize := 2, computedAt := 8 }
  version := 3

def storedPredictionRun : PredictionRun where
  id := ⟨7⟩
  tenantId := ⟨2⟩
  assessmentId := ⟨UUID.str 1, 1⟩
  variableSelectionId := ⟨UUID.str 8, 8⟩
  samplingCampaignId := ⟨UUID.str 9, 9⟩
  method := .pearsonCorrelation
  version := 1
  status := .completed
  modelMetadata := some
    { modelType := .pearsonCorrelation, formulaVersion := "pearson-v1"
      predictorVariableCodes := ["rain", "slope"], dependentVariableCode := none, sampleSize := 2
      computedAt := 8, codes_ne_nil := nofun, sampleSize_pos := by decide }
  correlationResult := some
    { pairs := [{ variableA := "rain", variableB := "slope", coefficient := .finite 1
                  sampleSize := 2 }] }
  regressionResult := none
  error := none
  issuedBy := "analyst"
  createdAt := 8

theorem lt_maxTimestamp {t : Timestamp} (h : t < 10) : t < maxTimestamp :=
  h.trans (by decide)

theorem storedAssessment_storable : storedAssessment.Storable where
  workflowTemplateId := by
    rintro _ ⟨⟩
    decide
  workflowProgress := by
    refine ⟨?_, fun e he => ?_⟩
    · rintro _ ⟨⟩
      decide
    · fin_cases he
      · exact ⟨by rintro _ ⟨⟩; exact lt_maxTimestamp (by decide), nofun⟩
      · exact ⟨by rintro _ ⟨⟩; exact lt_maxTimestamp (by decide),
          by rintro _ ⟨⟩; exact lt_maxTimestamp (by decide)⟩

theorem storedReport_storable : storedReport.Storable where
  assessmentId := rfl
  assessmentSummary := by
    rintro _ ⟨⟩
    exact lt_maxTimestamp (t := 0) (by decide)
  riskSummary := by
    rintro _ ⟨⟩ stage hstage
    obtain rfl := List.mem_singleton.mp hstage
    exact lt_maxTimestamp (t := 7) (by decide)
  datasetProvenance := List.forall_mem_nil _
  validationSummary := by rintro _ ⟨⟩

theorem storedValidationRun_storable : storedValidationRun.Storable where
  assessmentId := rfl
  modelMetadata := by
    rintro _ ⟨⟩
    exact lt_maxTimestamp (t := 8) (by decide)

theorem storedPredictionRun_storable : storedPredictionRun.Storable where
  assessmentId := rfl
  variableSelectionId := rfl
  samplingCampaignId := rfl
  modelMetadata := by
    rintro _ ⟨⟩
    exact lt_maxTimestamp (t := 8) (by decide)

theorem storage_faithful_basin :
    (∃ m m' a', assessmentToDomain (applyAssessmentToModel storedAssessment m) = some a' ∧
      a' = { storedAssessment with version := m.version } ∧
      applyAssessmentToModel a' m' =
        { applyAssessmentToModel storedAssessment m with version := m'.version }) ∧
    (∃ m m' t', workflowTemplateToDomain (applyWorkflowTemplateToModel storedTemplate m) = some t' ∧
      t' = storedTemplate ∧
      applyWorkflowTemplateToModel t' m' = applyWorkflowTemplateToModel storedTemplate m) ∧
    (∃ m m' r', reportToDomain (applyReportToModel storedReport m) = some r' ∧ r' = storedReport ∧
      applyReportToModel r' m' = applyReportToModel storedReport m) ∧
    (∃ m m' v', validationRunToDomain (applyValidationRunToModel storedValidationRun m) = some v' ∧
      v' = { storedValidationRun with version := m.version } ∧
      applyValidationRunToModel v' m' =
        { applyValidationRunToModel storedValidationRun m with version := m'.version }) ∧
    (∃ m m' p', predictionRunToDomain (applyPredictionRunToModel storedPredictionRun m) = some p' ∧
      p' = storedPredictionRun ∧
      applyPredictionRunToModel p' m' = applyPredictionRunToModel storedPredictionRun m) := by
  obtain ⟨assessments, templates, reports, validationRuns, predictionRuns⟩ := storage_faithful
  refine ⟨⟨⟨0, 0, "", "", "", 0, 0, 0, "", 4, none, .null⟩,
      ⟨0, 0, "", "", "", 0, 0, 0, "", 5, none, .null⟩, assessments _ _ _ storedAssessment_storable⟩,
    ⟨⟨0, "", "", 0, "", .null, 0⟩, ⟨1, "", "", 0, "", .null, 0⟩, templates _ _ _⟩,
    ⟨⟨0, 0, 0, 0, "", 0, "", none, none, none, none, none, none, none, none, none, none⟩,
      ⟨1, 0, 0, 0, "", 0, "", none, none, none, none, none, none, none, none, none, none⟩,
      reports _ _ _ storedReport_storable⟩,
    ⟨⟨0, by decide, 0, 0, "", "", "", "", .null, none, none, none, none, none, "", 0, 3⟩,
      ⟨1, by decide, 0, 0, "", "", "", "", .null, none, none, none, none, none, "", 0, 4⟩,
      validationRuns _ _ _ storedValidationRun_storable⟩,
    ⟨⟨0, 0, 0, 0, 0, "", 0, "", none, none, none, none, "", 0⟩,
      ⟨1, 0, 0, 0, 0, "", 0, "", none, none, none, none, "", 0⟩, predictionRuns _ _ _ storedPredictionRun_storable⟩⟩

end GeoRisk
