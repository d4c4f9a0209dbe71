import Mathlib
import GeoRisk.Uuid
import GeoRisk.Reporting.Report
import GeoRisk.Validation.ValidationRun

/-! The latest validation of an assessment, as three readers of the composition root find it: the report,
    the alerts and the dashboard each take the last completed run of the first page of the listing.
    As the listing is oldest first, they agree with each other, and with the truth for as long as no
    completed run is behind the page:

        oldest ── page of 1000 ── │ ── newer runs
                  last completed ┘     seen by none of the three -/

namespace GeoRisk.Api

open Validation

/-- The `limit` that all three readers ask for. -/
def validationPage : ℕ := 1000

/-- The completed runs of the first page, oldest first. -/
def completedRuns (db : Db) (tenantId : TenantId) (assessmentId : UUID) : List ValidationRun :=
  (db.listByAssessment tenantId assessmentId validationPage none).1.filter (·.status = .completed)

/-! ### The report -/

def reportInfo (latest : ValidationRun) : Reporting.ValidationRunInfo :=
  match latest.mode with
  | .regression =>
    let regression := latest.regressionMetrics
    { validationRunId := toString latest.id
      subjectType := latest.subjectType.value
      verdict := latest.verdict.map Verdict.value
      sampleSize := (regression.map (·.sampleSize)).getD 0
      computedAt := latest.createdAt
      mode := latest.mode.value
      rmse := regression.map (·.rmse)
      mae := regression.map (·.mae)
      mse := regression.map (·.mse)
      rSquared := regression.map (·.rSquared)
      adjustedRSquared := regression.map (·.adjustedRSquared) }
  | .classification =>
    let metrics := latest.metrics
    { validationRunId := toString latest.id
      subjectType := latest.subjectType.value
      verdict := latest.verdict.map Verdict.value
      sampleSize := (metrics.map (·.sampleSize)).getD 0
      computedAt := latest.createdAt
      mode := latest.mode.value
      overallAccuracy := metrics.bind (·.overallAccuracy)
      precision := metrics.bind (·.precision)
      «recall» := metrics.bind (·.recall)
      f1Score := metrics.bind (·.f1Score)
      kappa := metrics.bind (·.kappa)
      auc := metrics.bind (·.auc) }

/-- `CompositionRootValidationReader.get_latest_validation`, of the reports. -/
def getLatestValidation (db : Db) (tenantId : TenantId) (assessmentId : UUID) :
    Option Reporting.ValidationRunInfo :=
  (completedRuns db tenantId assessmentId).getLast?.map reportInfo

/-! ### The alerts -/

/-- The value of a metric: of the regression, if it has one, else of the classification. -/
def metricValue (latest : ValidationRun) (metricCode : String) : Option PyFloat :=
  match latest.regressionMetrics.bind (·.attribute metricCode) with
  | some value => some value
  | none => latest.metrics.bind (·.attribute metricCode)

/-- `CompositionRootAlertMetricReader._read_validation_metric`. -/
def readValidationMetric (db : Db) (tenantId : TenantId) (assessmentId : UUID)
    (metricCode : String) : Option PyFloat :=
  (completedRuns db tenantId assessmentId).getLast?.bind (metricValue · metricCode)

/-! ### The dashboard -/

/-- `ValidationRunInfo` of the dashboard. -/
structure DashboardValidationRunInfo where
  validationRunId : String
  mode : String
  verdict : Option String
  computedAt : Timestamp
  deriving DecidableEq

def dashboardInfo (run : ValidationRun) : DashboardValidationRunInfo where
  validationRunId := toString run.id
  mode := run.mode.value
  verdict := run.verdict.map Verdict.value
  computedAt := run.createdAt

/-- `CompositionRootValidationReader.list_validation_runs`, of the dashboard. -/
def listValidationRuns (db : Db) (tenantId : TenantId) (assessmentId : UUID) :
    List DashboardValidationRunInfo :=
  ((completedRuns db tenantId assessmentId).map dashboardInfo).reverse

/-! ### What they read -/

/-- The three readers read the completed run that is greatest in time and identifier. -/
structure ReadLatest (db : Db) (tenantId : TenantId) (assessmentId : UUID)
    (latest : Option ValidationRun) : Prop where
  newest : Lib.IsNewest Db.key (·.status = .completed) (db.runs tenantId assessmentId) latest
  report : getLatestValidation db tenantId assessmentId = latest.map reportInfo
  alert : ∀ metricCode, readValidationMetric db tenantId assessmentId metricCode =
    latest.bind (metricValue · metricCode)
  dashboard : (listValidationRuns db tenantId assessmentId).head? = latest.map dashboardInfo

/-- Every completed run has fewer than `validationPage` runs before it. -/
def OnFirstPage (db : Db) (tenantId : TenantId) (assessmentId : UUID) : Prop :=
  ∀ r ∈ db.runs tenantId assessmentId, r.status = .completed →
    ((db.runs tenantId assessmentId).filter fun r' => Db.key r' < Db.key r).length <
      validationPage

variable {db : Db} {tenantId : TenantId} {assessmentId : UUID}

/-- The last completed run of the page is the newest one iff none is behind the page. -/
theorem newest_iff_onFirstPage :
    Lib.IsNewest Db.key (·.status = .completed) (db.runs tenantId assessmentId)
      (completedRuns db tenantId assessmentId).getLast? ↔ OnFirstPage db tenantId assessmentId := by
  have hnodup := db.nodup_keys tenantId assessmentId
  rw [Lib.isNewest_iff hnodup, eq_comm, completedRuns, Db.listByAssessment, Lib.keysetPage_none,
    Lib.getLast_page_iff hnodup]
  constructor
  · intro h r hr hcompleted
    by_contra hbehind
    have hdrop := (Lib.mem_drop_ordered hnodup).mpr ⟨hr, not_lt.mp hbehind⟩
    exact absurd hcompleted (of_decide_eq_false (h r hdrop))
  · intro h r hr
    obtain ⟨hr, hbehind⟩ := (Lib.mem_drop_ordered hnodup).mp hr
    exact decide_eq_false fun hcompleted => absurd (h r hr hcompleted) (not_lt.mpr hbehind)

theorem reportInfo_id (r : ValidationRun) : (reportInfo r).validationRunId = toString r.id := by
  unfold reportInfo
  split <;> rfl

/-- What the report shows tells which run it is. -/
theorem eq_of_reportInfo {r r' : ValidationRun} (hr : r ∈ db.validationRuns.rows)
    (hr' : r' ∈ db.validationRuns.rows) (h : reportInfo r = reportInfo r') : r = r' := by
  have hstr : UUID.str r.id.value = UUID.str r'.id.value := by
    have hid := congrArg Reporting.ValidationSummary.validationRunId h
    rwa [reportInfo_id, reportInfo_id] at hid
  have hvalue : r.id.value = r'.id.value := by
    have hread := congrArg UUID.fromString hstr
    rw [UUID.fromString_str r.id.isUuid, UUID.fromString_str r'.id.isUuid] at hread
    exact Option.some.inj hread
  have hid : r.id = r'.id := by
    cases hi : r.id
    cases hi' : r'.id
    simpa [hi, hi'] using hvalue
  exact List.inj_on_of_nodup_map db.validationRuns.nodup hr hr' hid

/-- What the three readers show is the last completed run of the page. -/
theorem ReadLatest.eq {latest : Option ValidationRun}
    (h : ReadLatest db tenantId assessmentId latest) :
    (completedRuns db tenantId assessmentId).getLast? = latest := by
  have hrows : ∀ r, (completedRuns db tenantId assessmentId).getLast? = some r →
      r ∈ db.validationRuns.rows := by
    intro r hr
    have hmem := List.mem_of_mem_filter (List.mem_of_getLast? hr)
    rw [Db.listByAssessment, Lib.keysetPage_none] at hmem
    exact List.mem_of_mem_filter (Lib.mem_ordered.mp (List.mem_of_mem_take hmem))
  have hreport := h.report
  rw [getLatestValidation] at hreport
  cases hlast : (completedRuns db tenantId assessmentId).getLast? with
  | none =>
    rw [hlast, Option.map_none, eq_comm, Option.map_eq_none_iff] at hreport
    exact hreport.symm
  | some r =>
    rw [hlast, Option.map_some] at hreport
    obtain ⟨r', rfl, hinfo⟩ := Option.map_eq_some_iff.mp hreport.symm
    rw [eq_of_reportInfo (hrows r hlast) (List.mem_of_mem_filter h.newest.1) hinfo.symm]

/-- The report, the alerts and the dashboard read the latest completed validation of an assessment,
    or none if there is none, iff no completed run has a whole page of runs before it. -/
theorem readLatest_iff (db : Db) (tenantId : TenantId) (assessmentId : UUID) :
    (∃ latest, ReadLatest db tenantId assessmentId latest) ↔
      OnFirstPage db tenantId assessmentId := by
  rw [← newest_iff_onFirstPage]
  constructor
  · rintro ⟨latest, h⟩
    rw [h.eq]
    exact h.newest
  · intro hnewest
    refine ⟨_, hnewest, rfl, fun _ => rfl, ?_⟩
    rw [listValidationRuns, List.head?_reverse, List.getLast?_map]

/-! ### One run too many -/

/-- The completed run of the `n`-th day. -/
def dailyRun (n : ℕ) : ValidationRun where
  id := ⟨n % 2 ^ 128, mod_isUuid n⟩
  tenantId := ⟨1⟩
  assessmentId := 1
  subjectType := .prediction
  mode := .regression
  status := .completed
  metrics := none
  regressionMetrics := none
  verdict := some .pass
  createdAt := n

/-- A run a day. -/
def dailyRuns (days : ℕ) (h : days ≤ 2 ^ 128) : Db where
  validationRuns := {
    rows := (List.range days).map dailyRun
    nodup := by
      rw [List.map_map]
      refine List.Nodup.map_on (fun a ha b hb heq => ?_) List.nodup_range
      rw [List.mem_range] at ha hb
      have hvalue : a % 2 ^ 128 = b % 2 ^ 128 := congrArg ValidationRunId.value heq
      omega }

theorem mem_dailyRuns {days n : ℕ} (h : days ≤ 2 ^ 128) (hn : n < days) :
    dailyRun n ∈ (dailyRuns days h).runs ⟨1⟩ 1 := by
  refine List.mem_filter.mpr ⟨?_, by simp [dailyRun]⟩
  exact List.mem_map.mpr ⟨n, List.mem_range.mpr hn, rfl⟩

/-- With one run more than fit on a page, the newest is on nobody's. -/
theorem newest_run_unread : ¬ ∀ (db : Db) (tenantId : TenantId) (assessmentId : UUID),
    ∃ latest, ReadLatest db tenantId assessmentId latest := by
  intro h
  obtain ⟨latest, hread⟩ := h (dailyRuns 1001 (by decide)) ⟨1⟩ 1
  have hpage : OnFirstPage (dailyRuns 1001 (by decide)) ⟨1⟩ 1 := by
    rw [← newest_iff_onFirstPage, hread.eq]
    exact hread.newest
  have hbefore := hpage _ (mem_dailyRuns (n := 1000) (by decide) (by decide)) rfl
  revert hbefore
  decide +kernel

end GeoRisk.Api
