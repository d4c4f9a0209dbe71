import Mathlib
import GeoRisk.Analysis.Versions
import GeoRisk.Prediction.Transactions
import GeoRisk.Reporting.Versions

/-! The evidence of an assessment (stage results, risk layers, prediction runs, reports), each table
    numbered under its own keys. Over any interleaving of the handlers of the three contexts the
    versions under a key are 1, …, n, and a latest version belongs to one row only, exactly as long as
    every commit finds the versions under its key as they were when its handler drew the next:

        max(version) + 1 = 1 ────────────────────────▶ commit  version 1
                      max(version) + 1 = 1 ──▶ commit  version 1 -/

namespace GeoRisk

/-- The tables of the three contexts. -/
structure EvidenceDb where
  analysis : Analysis.Db
  prediction : Prediction.Db
  reporting : Reporting.Db

def EvidenceDb.empty : EvidenceDb := ⟨.empty, .empty, .empty⟩

/-- What evidence is versioned under. -/
inductive EvidenceKey where
  | stageResult (k : Analysis.StageKey)
  | riskLayer (k : Analysis.StageKey)
  | predictionRun (k : Prediction.RunKey)
  | report (k : Reporting.ReportKey)
  deriving DecidableEq

namespace EvidenceKey

/-- The key of the analysis context. -/
def ofAnalysis : Analysis.VersionKey → EvidenceKey
  | .result k => .stageResult k
  | .layer k => .riskLayer k

/-- The versions stored under a key. -/
def versions : EvidenceKey → EvidenceDb → List ℕ
  | .stageResult k, db => db.analysis.versions (.result k)
  | .riskLayer k, db => db.analysis.versions (.layer k)
  | .predictionRun k, db => db.prediction.versions k
  | .report k, db => db.reporting.versionsOf k

/-- The latest-version query of the repository has one answer at most: among the complete results, the
    layers, the runs, or the reports under the key. -/
def LatestUnique : EvidenceKey → EvidenceDb → Prop
  | .stageResult k, db => ∀ r r', db.analysis.LatestResult k r → db.analysis.LatestResult k r' → r = r'
  | .riskLayer k, db => ∀ r r', db.analysis.LatestLayer k r → db.analysis.LatestLayer k r' → r = r'
  | .predictionRun k, db => ∀ r r', db.prediction.LatestRun k r → db.prediction.LatestRun k r' → r = r'
  | .report k, db => ∀ r r', db.reporting.LatestReport k r → db.reporting.LatestReport k r' → r = r'

end EvidenceKey

/-! ### Requests -/

/-- The requests that insert evidence, and the finalization of a report. -/
inductive EvidenceCommand where
  | analysis (command : Analysis.Command)
  | runPrediction (ports : Prediction.Ports) (c : Prediction.RunPrediction)
      (id : Prediction.PredictionRunId) (now : Timestamp)
  | reporting (command : Reporting.Command)

/-- What a request comes back with. -/
inductive EvidenceReply where
  | analysis (reply : Except Analysis.AnalysisError Analysis.Reply)
  | prediction (run : Prediction.PredictionRun)
  | reporting (report : Except Reporting.ReportingError Reporting.Report)

namespace EvidenceCommand

def txn : EvidenceCommand → Lib.Txn EvidenceDb Unit EvidenceReply
  | .analysis command =>
    command.txn.zoom EvidenceDb.analysis (fun analysis db => { db with analysis }) .analysis
  | .runPrediction ports c id now => (Prediction.runPredictionTxn ports c id now).zoom
      EvidenceDb.prediction (fun prediction db => { db with prediction }) .prediction
  | .reporting command =>
    command.txn.zoom EvidenceDb.reporting (fun reporting db => { db with reporting }) .reporting

/-- What a request inserts a row under, if it does. -/
def versionKey : EvidenceCommand → Option EvidenceKey
  | .analysis command => some (.ofAnalysis command.versionKey)
  | .runPrediction _ c _ _ => some (.predictionRun c.key)
  | .reporting command => command.versionKey.map .report

/-- Whatever a request does before, it inserts the next version over what it has read last. -/
theorem numbers (command : EvidenceCommand) : command.txn.Ends
    (fun reads write _ => Lib.InsertsNext EvidenceKey.versions command.versionKey reads write)
    (fun _ => True) [] := by
  cases command with
  | analysis command =>
    refine (Analysis.command_ends command).zoom (fun reads write _ h => ?_) fun _ _ => trivial
    refine h.zoom EvidenceKey.ofAnalysis (fun _ _ => rfl) (fun k _ => ?_) fun k' hk' _ _ => ?_
    · cases k <;> rfl
    · cases k' with
      | stageResult k => exact absurd rfl (hk' (.result k))
      | riskLayer k => exact absurd rfl (hk' (.layer k))
      | predictionRun | report => rfl
  | runPrediction ports c id now =>
    refine (Prediction.runPredictionTxn_ends ports c id now).zoom (fun reads write _ h => ?_)
      fun _ _ => trivial
    refine h.zoom EvidenceKey.predictionRun (fun _ _ => rfl) (fun _ _ => rfl) fun k' hk' _ _ => ?_
    cases k' with
    | predictionRun k => exact absurd rfl (hk' k)
    | stageResult | riskLayer | report => rfl
  | reporting command =>
    refine (Reporting.command_numbers command).zoom (fun reads write _ h => ?_) fun _ _ => trivial
    refine h.zoom EvidenceKey.report (fun _ _ => rfl) (fun _ _ => rfl) fun k' hk' _ _ => ?_
    cases k' with
    | report k => exact absurd rfl (hk' k)
    | stageResult | riskLayer | predictionRun => rfl

end EvidenceCommand

/-! ### Every interleaving -/

section Interleaving

variable {ι : Type} (commands : ι → EvidenceCommand) (k : EvidenceKey)

abbrev EvidenceTrace (ι : Type) := Lib.Traced ι EvidenceDb Unit EvidenceReply

/-- Every request is about to begin. -/
def evidenceStart (db : EvidenceDb) : EvidenceTrace ι := .start (fun i => (commands i).txn) db

/-- The versions under the key are 1, …, n, each once, and the latest row is one. -/
structure VersionsDense (s : EvidenceTrace ι) : Prop where
  dense : Lib.Dense (k.versions s.world.db)
  latest : k.LatestUnique s.world.db

/-- If the step inserts a row under the key, no other has been inserted since its handler drew the
    version. -/
def InsertsUndisturbed : EvidenceTrace ι → ι × Unit → Prop :=
  Lib.Undisturbed k.versions fun i => Lib.lastDrawn (commands i).versionKey k

variable {k}

/-- Rows of different versions have one latest row. -/
theorem latestUnique_of_dense {db : EvidenceDb} (h : Lib.Dense (k.versions db)) :
    k.LatestUnique db := by
  cases k with
  | stageResult k => exact fun r r' => Analysis.latestResult_unique h.nodup
  | riskLayer k | predictionRun k | report k =>
    exact fun r r' => Lib.isLatest_unique h.nodup (List.Subset.refl _)

variable [DecidableEq ι] (k)

/-- The versions of any evidence are unique and dense throughout iff every insert is undisturbed. -/
theorem versionsDense_iff_undisturbed {db : EvidenceDb} (hdb : Lib.Dense (k.versions db))
    (schedule : List (ι × Unit)) :
    Lib.AllStates Lib.Traced.step (VersionsDense k) (evidenceStart commands db) schedule ↔
      Lib.AllSteps Lib.Traced.step (InsertsUndisturbed commands k) (evidenceStart commands db)
        schedule := by
  have hends : ∀ i, (commands i).txn.Ends (fun reads write _ => Lib.AddsDrawn k.versions
      (Lib.lastDrawn (commands i).versionKey k reads) reads write) (fun _ => True) [] :=
    fun i => (commands i).numbers.mono fun _ _ _ h => h.addsDrawn k
  rw [InsertsUndisturbed, evidenceStart, ← Lib.dense_iff_undisturbed hdb hends schedule]
  constructor
  · exact Lib.AllStates.mono fun _ h => h.dense
  · exact Lib.AllStates.mono fun _ h => ⟨h, latestUnique_of_dense h⟩

end Interleaving

/-! ### Two reports at once -/

open Reporting

/-- Readers that find no assessment. -/
def emptyUpstream : Upstream where
  assessmentInfo := .ok none
  stageResults := .ok []
  predictionRuns := .ok []
  datasets := .ok []
  validation := .ok none

/-- Two reports on one assessment; both will be failed ones. -/
def reportTwice : Bool → EvidenceCommand
  | false => .reporting (.generateReport ⟨1⟩ ⟨UUID.str 1, 1⟩ "alice" emptyUpstream ⟨10⟩ 0)
  | true => .reporting (.generateReport ⟨1⟩ ⟨UUID.str 1, 1⟩ "bob" emptyUpstream ⟨11⟩ 0)

/-- Both draw their version before either commits. -/
def reportsTogether : List (Bool × Unit) := [(false, ()), (true, ()), (false, ()), (true, ())]

theorem versionsDense_iff_undisturbed_reports :
    Lib.AllStates Lib.Traced.step (VersionsDense (.report ⟨⟨1⟩, 1⟩))
        (evidenceStart reportTwice .empty) reportsTogether ↔
      Lib.AllSteps Lib.Traced.step (InsertsUndisturbed reportTwice (.report ⟨⟨1⟩, 1⟩))
        (evidenceStart reportTwice .empty) reportsTogether :=
  versionsDense_iff_undisturbed reportTwice (.report ⟨⟨1⟩, 1⟩) (by decide) reportsTogether

/-- Both reports have version 1. -/
theorem one_version_twice : ¬ ∀ (commands : Bool → EvidenceCommand) (k : EvidenceKey)
    (schedule : List (Bool × Unit)),
    Lib.AllStates Lib.Traced.step (VersionsDense k) (evidenceStart commands .empty) schedule := by
  intro h
  have hlast := (h reportTwice (.report ⟨⟨1⟩, 1⟩) reportsTogether).last.dense
  have hversions : EvidenceKey.versions (.report ⟨⟨1⟩, 1⟩)
      (reportsTogether.foldl Lib.Traced.step (evidenceStart reportTwice .empty)).world.db = [1, 1] := by
    decide
  rw [hversions] at hlast
  exact absurd hlast (by decide)

end GeoRisk
