import Mathlib
import GeoRisk.Lib.Numbering
import GeoRisk.Reporting.Transactions

/-! How the handlers of the reporting context number their reports: a generated report, or one whose
    generation has failed, is inserted under the next version of its tenant and assessment; a
    finalization numbers nothing. -/

namespace GeoRisk.Reporting

/-- What the reports are versioned under. -/
structure ReportKey where
  tenantId : TenantId
  assessmentId : UUID
  deriving DecidableEq

def Report.key (self : Report) : ReportKey := ⟨self.tenantId, self.assessmentId.id⟩

/-- The versions under a key. -/
def Db.versionsOf (k : ReportKey) (db : Db) : List ℕ :=
  Lib.numbersUnder Report.key (·.version) db.reports.rows k

/-- An answer of `get_latest`. -/
def Db.LatestReport (db : Db) (k : ReportKey) (r : Report) : Prop :=
  Lib.IsLatest (·.version) (db.reports.rows.filter (·.key = k)) r

/-- What a command inserts a report under, if it does. -/
def Command.versionKey : Command → Option ReportKey
  | .generateReport tenantId assessmentId .. => some ⟨tenantId, assessmentId.id⟩
  | .finalizeReport .. => none

variable {db db' : Db} {tenantId : TenantId} {assessmentId : UUID}

theorem versionsOf_eq : db.versionsOf ⟨tenantId, assessmentId⟩ = db.versions tenantId assessmentId := by
  unfold Db.versionsOf Db.versions Lib.numbersUnder
  simp only [Report.key, ReportKey.mk.injEq]

theorem nextVersion_eq : db.nextVersion tenantId assessmentId =
    Lib.nextNumber (db.versionsOf ⟨tenantId, assessmentId⟩) := by
  rw [versionsOf_eq, Lib.nextNumber_eq]
  rfl

/-- The update of a finalization keeps the version of its row. -/
theorem versionsOf_update {loaded : Report} {finalizedBy : String} {event : ReportEvent}
    {now : Timestamp} (h : db.update loaded (loaded.asFinalized finalizedBy now) event now = some db')
    (k : ReportKey) : db'.versionsOf k = db.versionsOf k := by
  obtain ⟨current, hcurrent, rfl⟩ := Option.map_eq_some_iff.mp h
  have hold : db.reports.get (loaded.flush (loaded.asFinalized finalizedBy now) current).id =
      some current := Lib.Table.get_of_mem (Lib.Table.mem_of_get hcurrent)
  refine Lib.numbersUnder_put_same hold ?_ ?_ k
  · simp [Report.key, Report.flush, Report.asFinalized]
  · simp [Report.flush, Report.asFinalized]

theorem command_numbers (command : Command) : command.txn.Ends
    (fun reads write _ => Lib.InsertsNext Db.versionsOf command.versionKey reads write)
    (fun _ => True) [] := by
  cases command with
  | generateReport tenantId assessmentId issuedBy upstream id now =>
    intro _ db
    dsimp only
    generalize hp : reportFor tenantId assessmentId issuedBy upstream id now
      (db.nextVersion tenantId assessmentId.id) = p
    obtain ⟨-, htenant, hassessment, hversion, -⟩ := reportFor_spec (congrArg Prod.fst hp)
    have hkey : p.1.toRow.key = ⟨tenantId, assessmentId.id⟩ := by
      simp [Report.key, Report.toRow, htenant, hassessment]
    refine .of_put (fun k => k) (fun _ _ => rfl) (fun d d' h => ?_) hkey
      (hversion.trans nextVersion_eq)
    unfold Db.insert at h
    split at h
    · cases h
    · next hfresh =>
      cases h
      exact ⟨Option.not_isSome_iff_eq_none.mp hfresh, rfl, fun k' hk' => absurd rfl (hk' k')⟩
  | finalizeReport tenantId reportId finalizedBy now =>
    intro _ db
    dsimp only
    cases hload : db.reports.get reportId.id with
    | none => trivial
    | some loaded =>
      dsimp only
      split
      · trivial
      · split
        · trivial
        · next report event hfinalize =>
          obtain ⟨-, rfl, -⟩ := finalize_ok.mp hfinalize
          exact ⟨fun k hk => (by cases hk), fun k _ d d' h => versionsOf_update h k⟩

end GeoRisk.Reporting
