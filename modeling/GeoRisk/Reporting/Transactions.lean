import Mathlib
import GeoRisk.Lib.Results
import GeoRisk.Lib.Traces
import GeoRisk.Reporting.Handlers

/-! The two commands on reports as transactions at READ COMMITTED. Both read once and write at the
    commit: a new report is inserted under a key that must not be in use; a finalized one is written
    back column by column, whatever has become of its row.

        generate:  max version ─▶ commit: insert
        finalize:  load ─▶ DRAFT? ─▶ commit: update

    What a transaction commits to, with what it has read, is `Work`. -/

namespace GeoRisk.Reporting

/-! ### Rows -/

/-- The row `current` after the report loaded as `loaded` and saved as `report` is flushed. -/
def Report.flush (loaded report current : Report) : Report where
  id := current.id
  tenantId := Lib.flushed loaded.tenantId report.tenantId current.tenantId
  assessmentId := current.assessmentId
  version := Lib.flushed loaded.version report.version current.version
  status := Lib.flushed loaded.status report.status current.status
  generatedAt := Lib.flushed loaded.generatedAt report.generatedAt current.generatedAt
  issuedBy := Lib.flushed loaded.issuedBy report.issuedBy current.issuedBy
  assessmentSummary :=
    Lib.flushed loaded.assessmentSummary report.assessmentSummary current.assessmentSummary
  riskSummary := Lib.flushed loaded.riskSummary report.riskSummary current.riskSummary
  predictorSummary :=
    Lib.flushed loaded.predictorSummary report.predictorSummary current.predictorSummary
  datasetProvenance :=
    Lib.flushed loaded.datasetProvenance report.datasetProvenance current.datasetProvenance
  validationSummary :=
    Lib.flushed loaded.validationSummary report.validationSummary current.validationSummary
  formulaVersions := Lib.flushed loaded.formulaVersions report.formulaVersions current.formulaVersions
  strategyVersion := Lib.flushed loaded.strategyVersion report.strategyVersion current.strategyVersion
  error := Lib.flushed loaded.error report.error current.error
  finalizedBy := Lib.flushed loaded.finalizedBy report.finalizedBy current.finalizedBy
  finalizedAt := Lib.flushed loaded.finalizedAt report.finalizedAt current.finalizedAt

/-- The report as `finalize` leaves it. -/
def Report.asFinalized (self : Report) (finalizedBy : String) (now : Timestamp) : Report :=
  { self with status := .finalized, finalizedBy := some finalizedBy, finalizedAt := some now }

namespace Db

/-- The insert of a new report, with its event. -/
def insert (report : Report) (event : ReportEvent) (now : Timestamp) (db : Db) : Option Db :=
  if (db.reports.get report.id).isSome then none
  else some ((db.save report).append report.id event report.tenantId now)

/-- The update of a report loaded as `loaded` and saved as `report`, with its event. -/
def update (loaded report : Report) (event : ReportEvent) (now : Timestamp) (db : Db) : Option Db :=
  (db.reports.get loaded.id).map fun current =>
    ({ db with reports := db.reports.put (loaded.flush report current) }).append report.id event
      report.tenantId now

end Db

/-! ### Transactions -/

/-- The report that `generate` saves under a version, or the failed one, with its event. -/
def reportFor (tenantId : TenantId) (assessmentId : Spelled UUID) (issuedBy : String)
    (upstream : Upstream) (id : ReportId) (now : Timestamp) (version : ℕ) : Report × ReportEvent :=
  match gather assessmentId upstream with
  | .ok sections =>
    let (report, event) := Report.generate id tenantId assessmentId version sections issuedBy now
    (report, .generated event)
  | .error e =>
    let (report, event) := Report.failed id tenantId assessmentId version e issuedBy now
    (report, .generationFailed event)

abbrev ReportTxn := Lib.Txn Db Unit (Except ReportingError Report)

/-- `GenerateReportHandler.handle`. -/
def generateTxn (tenantId : TenantId) (assessmentId : Spelled UUID) (issuedBy : String)
    (upstream : Upstream) (id : ReportId) (now : Timestamp) : ReportTxn :=
  .query fun _ db =>
    let version := db.nextVersion tenantId assessmentId.id
    let (report, event) := reportFor tenantId assessmentId issuedBy upstream id now version
    .commit (Db.insert report event now) (.ok report)

/-- `FinalizeReportHandler.handle`. -/
def finalizeTxn (tenantId : TenantId) (reportId : Spelled ReportId) (finalizedBy : String)
    (now : Timestamp) : ReportTxn :=
  .query fun _ db =>
    match db.reports.get reportId.id with
    | none => .rollback (.error ⟨.reportNotFound, s!"Report {reportId.text} not found"⟩)
    | some loaded =>
      if loaded.tenantId ≠ tenantId then
        .rollback (.error ⟨.reportNotFound, s!"Report {reportId.text} not found"⟩)
      else
        match loaded.finalize finalizedBy now with
        | .error e => .rollback (.error e)
        | .ok (report, event) =>
          .commit (Db.update loaded report (.finalized event) now) (.ok report)

def Command.txn : Command → ReportTxn
  | .generateReport tenantId assessmentId issuedBy upstream id now =>
    generateTxn tenantId assessmentId issuedBy upstream id now
  | .finalizeReport tenantId reportId finalizedBy now =>
    finalizeTxn tenantId reportId finalizedBy now

/-! ### A transaction alone -/

section Alone

variable {tenantId : TenantId} {assessmentId : Spelled UUID} {issuedBy finalizedBy : String}
  {upstream : Upstream} {id : ReportId} {reportId : Spelled ReportId} {now : Timestamp} {db db' : Db}
  {version : ℕ} {report : Report}

/-- Whatever is generated is the report of the command, under its version, and no report begins
    finalized. -/
theorem reportFor_spec (h : (reportFor tenantId assessmentId issuedBy upstream id now version).1 =
    report) : report.id = id ∧ report.tenantId = tenantId ∧ report.assessmentId = assessmentId ∧
      report.version = version ∧ report.status ≠ .finalized := by
  subst h
  unfold reportFor
  split <;> simp [Report.generate, Report.failed]

theorem generateReport_eq : generateReport tenantId assessmentId issuedBy upstream id now db =
    ((db.save (reportFor tenantId assessmentId issuedBy upstream id now
        (db.nextVersion tenantId assessmentId.id)).1).append id
      (reportFor tenantId assessmentId issuedBy upstream id now
        (db.nextVersion tenantId assessmentId.id)).2 tenantId now,
     (reportFor tenantId assessmentId issuedBy upstream id now
        (db.nextVersion tenantId assessmentId.id)).1) :=
  rfl

/-- Under a fresh key a report is generated as `generateReport` does it. -/
theorem generateTxn_exec (hfresh : db.reports.get id = none) :
    (generateTxn tenantId assessmentId issuedBy upstream id now).exec () db =
      ((generateReport tenantId assessmentId issuedBy upstream id now db).1,
        some (.ok (generateReport tenantId assessmentId issuedBy upstream id now db).2)) := by
  rw [generateReport_eq]
  simp only [generateTxn, Lib.Txn.exec, Db.insert]
  generalize hp : reportFor tenantId assessmentId issuedBy upstream id now
    (db.nextVersion tenantId assessmentId.id) = p
  obtain ⟨hid, htenant, -⟩ := reportFor_spec (congrArg Prod.fst hp)
  simp [hid, htenant, hfresh]

theorem finalize_ok {event : ReportFinalized} {report' : Report} :
    report.finalize finalizedBy now = .ok (report', event) ↔
      report.status = .draft ∧
      report' = report.asFinalized finalizedBy now ∧
      event = ⟨report.id, report.tenantId, report.assessmentId.text, report.version, finalizedBy⟩ := by
  unfold Report.finalize Report.asFinalized
  split
  · next h => simp [h]
  · next h =>
    simp only [Except.ok.injEq, Prod.mk.injEq, not_not.mp h, true_and]
    exact ⟨fun ⟨h₁, h₂⟩ => ⟨h₁.symm, h₂.symm⟩, fun ⟨h₁, h₂⟩ => ⟨h₁.symm, h₂.symm⟩⟩

/-- Over rows as they are stored a report is finalized as `finalizeReport` does it. -/
theorem finalizeTxn_exec (hrows : ∀ r ∈ db.reports.rows, r.toRow = r)
    (h : finalizeReport tenantId reportId finalizedBy now db = .ok (db', report)) :
    (finalizeTxn tenantId reportId finalizedBy now).exec () db = (db', some (.ok report)) := by
  unfold finalizeReport at h
  unfold finalizeTxn
  simp only [Lib.Txn.exec]
  cases hget : db.reports.get reportId.id with
  | none => rw [hget] at h; cases h
  | some loaded =>
    simp only [hget] at h ⊢
    split at h
    · cases h
    · next htenant =>
      obtain ⟨⟨report₁, event⟩, hfinalize, h⟩ := Lib.bind_ok.mp h
      obtain ⟨-, rfl, -⟩ := finalize_ok.mp hfinalize
      cases h
      have hload : db.reports.get loaded.id = some loaded := Lib.Table.get_of_mem (Lib.Table.mem_of_get hget)
      have hrow := congrArg Report.assessmentId (hrows loaded (Lib.Table.mem_of_get hget))
      simp only [Report.toRow] at hrow
      rw [if_neg htenant, hfinalize]
      simp [Lib.Txn.exec, Db.update, hload, Report.flush, Report.asFinalized, Db.save, Report.toRow, hrow,
        not_not.mp htenant]

end Alone

/-! ### What a transaction commits to -/

/-- With these reads the command comes to a commit of this write and this result. -/
inductive Work : Command → List (Unit × Db) → (Db → Option Db) → Except ReportingError Report → Prop
  | generate {tenantId assessmentId issuedBy upstream id now db report event}
      (hreport : reportFor tenantId assessmentId issuedBy upstream id now
        (db.nextVersion tenantId assessmentId.id) = (report, event)) :
    Work (.generateReport tenantId assessmentId issuedBy upstream id now) [((), db)]
      (Db.insert report event now) (.ok report)
  | finalize {tenantId reportId finalizedBy now db loaded event}
      (hload : db.reports.get reportId.id = some loaded) (hdraft : loaded.status = .draft) :
    Work (.finalizeReport tenantId reportId finalizedBy now) [((), db)]
      (Db.update loaded (loaded.asFinalized finalizedBy now) event now)
      (.ok (loaded.asFinalized finalizedBy now))

theorem command_ends (command : Command) : command.txn.Ends (Work command) (fun _ => True) [] := by
  cases command with
  | generateReport tenantId assessmentId issuedBy upstream id now =>
    intro _ db
    exact .generate rfl
  | finalizeReport tenantId reportId finalizedBy now =>
    intro _ db
    dsimp only
    cases hload : db.reports.get reportId.id with
    | none => trivial
    | some loaded =>
      dsimp only
      split
      · trivial
      · split
        · trivial
        · next report event hfinalize =>
          obtain ⟨hdraft, rfl, -⟩ := finalize_ok.mp hfinalize
          exact .finalize hload hdraft

end GeoRisk.Reporting
