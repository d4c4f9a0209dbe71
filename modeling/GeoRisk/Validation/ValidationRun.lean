import Mathlib
import GeoRisk.Lib.Pages
import GeoRisk.Lib.Table
import GeoRisk.SharedKernel

/-! Validation runs, each written once, and their listing: the runs of an assessment, oldest first, page
    by page. Of a run this keeps what its readers look at. -/

namespace GeoRisk.Validation

@[ext] structure ValidationRunId where
  value : UUID
  isUuid : value < 2 ^ 128

instance : DecidableEq ValidationRunId := fun _ _ => decidable_of_iff _ ValidationRunId.ext_iff.symm

instance : ToString ValidationRunId := ⟨fun i => UUID.str i.value⟩

inductive SubjectType where
  | stageResult | prediction
  deriving DecidableEq

def SubjectType.value : SubjectType → String
  | .stageResult => "STAGE_RESULT"
  | .prediction => "PREDICTION"

inductive ValidationMode where
  | classification | regression
  deriving DecidableEq

def ValidationMode.value : ValidationMode → String
  | .classification => "CLASSIFICATION"
  | .regression => "REGRESSION"

inductive ValidationRunStatus where
  | completed | failed
  deriving DecidableEq

inductive Verdict where
  | pass | fail
  deriving DecidableEq

def Verdict.value : Verdict → String
  | .pass => "PASS"
  | .fail => "FAIL"

structure MetricSet where
  sampleSize : ℕ
  overallAccuracy : Option PyFloat
  precision : Option PyFloat
  «recall» : Option PyFloat
  specificity : Option PyFloat
  f1Score : Option PyFloat
  kappa : Option PyFloat
  auc : Option PyFloat
  optimalThreshold : Option PyFloat
  deriving DecidableEq

structure RegressionMetricSet where
  sampleSize : ℕ
  rmse : PyFloat
  mae : PyFloat
  mse : PyFloat
  rSquared : PyFloat
  adjustedRSquared : PyFloat
  deriving DecidableEq

structure ValidationRun where
  id : ValidationRunId
  tenantId : TenantId
  assessmentId : UUID
  subjectType : SubjectType
  mode : ValidationMode
  status : ValidationRunStatus
  metrics : Option MetricSet
  regressionMetrics : Option RegressionMetricSet
  verdict : Option Verdict
  createdAt : Timestamp
  deriving DecidableEq

/-- `getattr(metrics, code, None)`, for the attributes that are numbers. -/
def MetricSet.attribute (self : MetricSet) (code : String) : Option PyFloat :=
  if code = "sample_size" then some (.finite self.sampleSize)
  else if code = "overall_accuracy" then self.overallAccuracy
  else if code = "precision" then self.precision
  else if code = "recall" then self.recall
  else if code = "specificity" then self.specificity
  else if code = "f1_score" then self.f1Score
  else if code = "kappa" then self.kappa
  else if code = "auc" then self.auc
  else if code = "optimal_threshold" then self.optimalThreshold
  else none

/-- `getattr(regression_metrics, code, None)`. -/
def RegressionMetricSet.attribute (self : RegressionMetricSet) (code : String) : Option PyFloat :=
  if code = "sample_size" then some (.finite self.sampleSize)
  else if code = "rmse" then some self.rmse
  else if code = "mae" then some self.mae
  else if code = "mse" then some self.mse
  else if code = "r_squared" then some self.rSquared
  else if code = "adjusted_r_squared" then some self.adjustedRSquared
  else none

/-! ### Repository -/

structure Db where
  validationRuns : Lib.Table ValidationRun.id

namespace Db

/-- A cursor names a time and a run: the runs are ordered by both. -/
abbrev Cursor := Timestamp ×ₗ UUID

def key (r : ValidationRun) : Cursor := toLex (r.createdAt, r.id.value)

/-- The runs of a tenant on an assessment. -/
def runs (db : Db) (tenantId : TenantId) (assessmentId : UUID) : List ValidationRun :=
  db.validationRuns.rows.filter fun r => r.tenantId = tenantId ∧ r.assessmentId = assessmentId

/-- `SqlAlchemyValidationRunRepository.list_by_assessment`. -/
def listByAssessment (db : Db) (tenantId : TenantId) (assessmentId : UUID) (limit : ℕ)
    (cursor : Option Cursor) : List ValidationRun × Option Cursor × Bool :=
  Lib.keysetPage key (db.runs tenantId assessmentId) limit cursor

theorem nodup_keys (db : Db) (tenantId : TenantId) (assessmentId : UUID) :
    ((db.runs tenantId assessmentId).map key).Nodup := by
  refine db.validationRuns.nodup_map_filter
    (fun r => r.tenantId = tenantId ∧ r.assessmentId = assessmentId) fun r r' hkey => ?_
  have hvalue : r.id.value = r'.id.value := congrArg (fun k => (ofLex k).2) hkey
  cases hr : r.id
  cases hr' : r'.id
  simpa [hr, hr'] using hvalue

end Db

end GeoRisk.Validation
