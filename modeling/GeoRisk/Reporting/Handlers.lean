import Mathlib
import GeoRisk.Lib.Table
import GeoRisk.Reporting.Report

/-! The two commands on reports, and the query of the dashboard. `generateReport` always saves a
    report, under the next version of its tenant and assessment: a draft, or, when the readers find
    no assessment or raise, a failed report. It does not ask whose assessment it is given. -/

namespace GeoRisk.Reporting

structure Db where
  reports : Lib.Table Report.id
  outbox : List (OutboxEvent ReportEvent)

/-! ### Repository -/

/-- The row of a report: the identifier of the assessment is stored as a UUID. -/
def Report.toRow (self : Report) : Report :=
  { self with assessmentId := ⟨UUID.str self.assessmentId.id, self.assessmentId.id⟩ }

namespace Db

def empty : Db := ⟨.empty, []⟩

/-- The versions of the reports of one tenant on one assessment. -/
def versions (db : Db) (tenantId : TenantId) (assessmentId : UUID) : List ℕ :=
  (db.reports.rows.filter fun r =>
    r.tenantId = tenantId ∧ r.assessmentId.id = assessmentId).map (·.version)

/-- `coalesce(max(version), 0)`. -/
def maxVersion (db : Db) (tenantId : TenantId) (assessmentId : UUID) : ℕ :=
  (db.versions tenantId assessmentId).max?.getD 0

def nextVersion (db : Db) (tenantId : TenantId) (assessmentId : UUID) : ℕ :=
  db.maxVersion tenantId assessmentId + 1

/-- The rows of the tenant, grouped by assessment, each with its highest version. -/
def latestVersions (db : Db) (tenantId : TenantId) : List (UUID × ℕ) :=
  ((db.reports.rows.filter (·.tenantId = tenantId)).map (·.assessmentId.id)).dedup.map
    fun assessmentId => (assessmentId, db.maxVersion tenantId assessmentId)

/-- All reports, joined with the latest versions of the tenant. -/
def listLatestByTenant (db : Db) (tenantId : TenantId) : List Report :=
  db.reports.rows.flatMap fun r =>
    ((db.latestVersions tenantId).filter fun (assessmentId, version) =>
      r.assessmentId.id = assessmentId ∧ r.version = version).map fun _ => r

def save (db : Db) (report : Report) : Db := { db with reports := db.reports.put report.toRow }

def append (db : Db) (id : ReportId) (event : ReportEvent) (tenantId : TenantId)
    (now : Timestamp) : Db :=
  { db with outbox := appendEvent db.outbox "Report" (toString id) event (some tenantId) now }

end Db

/-! ### Handlers -/

/-- What the readers of the other contexts answer, or raise, during one call. -/
structure Upstream where
  assessmentInfo : Except String (Option AssessmentInfo)
  stageResults : Except String (List StageResultInfo)
  predictionRuns : Except String (List PredictionRunInfo)
  datasets : Except String (List DatasetInfo)
  validation : Except String (Option ValidationRunInfo)

/-- The sections of a report, or the text of what is raised on the way. -/
def gather (assessmentId : Spelled UUID) (upstream : Upstream) : Except String Sections := do
  match ← upstream.assessmentInfo with
  | none => throw s!"Assessment {assessmentId.text} not found"
  | some assessmentInfo =>
    let (riskSummary, formulaVersions, strategyVersion) :=
      buildRiskSummary assessmentInfo.hazardType (← upstream.stageResults)
    return {
      assessmentSummary := assessmentInfo
      riskSummary, formulaVersions, strategyVersion
      predictorSummary := ← upstream.predictionRuns
      datasetProvenance := ← upstream.datasets
      validationSummary := ← upstream.validation }

/-- `GenerateReportHandler.handle`. -/
def generateReport (tenantId : TenantId) (assessmentId : Spelled UUID) (issuedBy : String)
    (upstream : Upstream) (id : ReportId) (now : Timestamp) (db : Db) : Db × Report :=
  let version := db.nextVersion tenantId assessmentId.id
  let (result, event) := match gather assessmentId upstream with
    | .ok sections =>
      let (report, event) :=
        Report.generate id tenantId assessmentId version sections issuedBy now
      (report, ReportEvent.generated event)
    | .error e =>
      let (report, event) := Report.failed id tenantId assessmentId version e issuedBy now
      (report, ReportEvent.generationFailed event)
  ((db.save result).append id event tenantId now, result)

/-- `FinalizeReportHandler.handle`. -/
def finalizeReport (tenantId : TenantId) (reportId : Spelled ReportId) (finalizedBy : String)
    (now : Timestamp) (db : Db) : Except ReportingError (Db × Report) :=
  match db.reports.get reportId.id with
  | none => .error ⟨.reportNotFound, s!"Report {reportId.text} not found"⟩
  | some report =>
    if report.tenantId ≠ tenantId then
      .error ⟨.reportNotFound, s!"Report {reportId.text} not found"⟩
    else do
      let (report, event) ← report.finalize finalizedBy now
      return ((db.save report).append report.id (.finalized event) tenantId now, report)

/-- The commands on reports, with what each call draws and reads from outside. -/
inductive Command where
  | generateReport (tenantId : TenantId) (assessmentId : Spelled UUID) (issuedBy : String)
      (upstream : Upstream) (id : ReportId) (now : Timestamp)
  | finalizeReport (tenantId : TenantId) (reportId : Spelled ReportId) (finalizedBy : String)
      (now : Timestamp)

def Command.tenantId : Command → TenantId
  | .generateReport tenantId .. => tenantId
  | .finalizeReport tenantId .. => tenantId

/-- The tables after a request; one that raises leaves them as they are. -/
def Db.step (db : Db) : Command → Db
  | .generateReport tenantId assessmentId issuedBy upstream id now =>
    (generateReport tenantId assessmentId issuedBy upstream id now db).1
  | .finalizeReport tenantId reportId finalizedBy now =>
    match finalizeReport tenantId reportId finalizedBy now db with
    | .ok (db, _) => db
    | .error _ => db

end GeoRisk.Reporting
