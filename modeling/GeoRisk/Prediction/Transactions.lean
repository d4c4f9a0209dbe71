import Mathlib
import GeoRisk.Lib.Numbering
import GeoRisk.Prediction.Handlers

/-! A prediction as a transaction at READ COMMITTED. The ports are asked and the model is fitted first;
    then the version is drawn, whether the run has completed or failed, and the run is inserted at the
    commit. Alone, it is `runPrediction`. -/

namespace GeoRisk.Prediction

/-- What the runs of an assessment are versioned under. -/
structure RunKey where
  tenantId : TenantId
  assessmentId : UUID
  variableSelectionId : UUID
  method : PredictionMethod
  deriving DecidableEq

def PredictionRun.key (self : PredictionRun) : RunKey :=
  ⟨self.tenantId, self.assessmentId.id, self.variableSelectionId.id, self.method⟩

def RunPrediction.key (c : RunPrediction) : RunKey :=
  ⟨c.tenantId, c.assessmentId.id, c.variableSelectionId.id, c.method⟩

/-- The versions of the runs under a key. -/
def Db.versions (k : RunKey) (db : Db) : List ℕ :=
  Lib.numbersUnder PredictionRun.key (·.version) db.predictionRuns.rows k

/-- A run of the greatest version under a key. -/
def Db.LatestRun (db : Db) (k : RunKey) (r : PredictionRun) : Prop :=
  Lib.IsLatest (·.version) (db.predictionRuns.rows.filter (·.key = k)) r

/-- The insert of a new run, with its event. -/
def Db.insert (run : PredictionRun) (event : PredictionEvent) (now : Timestamp) (db : Db) :
    Option Db :=
  if (db.predictionRuns.get run.id).isSome then none else some (db.save run event now)

abbrev PredictionTxn := Lib.Txn Db Unit PredictionRun

/-- `RunPredictionHandler.handle`. -/
def runPredictionTxn (ports : Ports) (c : RunPrediction) (id : PredictionRunId) (now : Timestamp) :
    PredictionTxn :=
  .query fun _ db =>
    let (run, event) := resultOf ports c id (db.nextVersion c) now
    .commit (Db.insert run event now) run

section Transactions

variable {ports : Ports} {c : RunPrediction} {id : PredictionRunId} {now : Timestamp} {db : Db}
  {version : ℕ} {run : PredictionRun}

theorem nextVersion_eq : db.nextVersion c = Lib.nextNumber (db.versions c.key) := by
  unfold Db.nextVersion Db.versions Lib.nextNumber Lib.numbersUnder
  simp only [PredictionRun.key, RunPrediction.key, RunKey.mk.injEq]

/-- Whatever becomes of the run, it is one of the command, under its version. -/
theorem resultOf_spec (h : (resultOf ports c id version now).1 = run) :
    run.id = id ∧ run.key = c.key ∧ run.version = version := by
  subst h
  unfold resultOf
  simp only
  split
  · next run event houtcome =>
    obtain ⟨⟨selection, rows⟩, -, h⟩ := Lib.bind_ok.mp houtcome
    split at h
    · next hmethod =>
      obtain ⟨⟨metadata, result⟩, -, h⟩ := Lib.bind_ok.mp h
      cases h
      simp [PredictionRun.ofCommand, PredictionRun.key, RunPrediction.key, hmethod]
    · obtain ⟨⟨metadata, result⟩, -, h⟩ := Lib.bind_ok.mp h
      cases h
      simp [PredictionRun.ofCommand, PredictionRun.key, RunPrediction.key]
  · simp [PredictionRun.failed, PredictionRun.ofCommand, PredictionRun.key, RunPrediction.key]

/-- Under a fresh key a prediction is run as `runPrediction` does it. -/
theorem runPredictionTxn_exec (hfresh : db.predictionRuns.get id = none) :
    (runPredictionTxn ports c id now).exec () db =
      ((runPrediction ports c id now db).1, some (runPrediction ports c id now db).2) := by
  obtain ⟨hid, -⟩ := resultOf_spec (rfl : (resultOf ports c id (db.nextVersion c) now).1 = _)
  simp [runPredictionTxn, runPrediction, Lib.Txn.exec, Db.insert, hid, hfresh]

theorem runPredictionTxn_ends (ports : Ports) (c : RunPrediction) (id : PredictionRunId)
    (now : Timestamp) : (runPredictionTxn ports c id now).Ends
      (fun reads write _ => Lib.InsertsNext Db.versions (some c.key) reads write)
      (fun _ => True) [] := by
  intro _ db
  dsimp only
  generalize hp : resultOf ports c id (db.nextVersion c) now = p
  obtain ⟨-, hkey, hversion⟩ := resultOf_spec (congrArg Prod.fst hp)
  refine .of_put (fun k => k) (fun _ _ => rfl) (fun d d' h => ?_) hkey
    (hversion.trans nextVersion_eq)
  unfold Db.insert at h
  split at h
  · cases h
  · next hfresh =>
    cases h
    exact ⟨Option.not_isSome_iff_eq_none.mp hfresh, rfl, fun k' hk' => absurd rfl (hk' k')⟩

end Transactions

end GeoRisk.Prediction
