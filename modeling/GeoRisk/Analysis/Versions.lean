import Mathlib
import GeoRisk.Lib.Numbering
import GeoRisk.Analysis.Handlers

/-! How the handlers of the analysis context number their rows. Every way through `recordStageResult`
    ends by drawing a version, the failures too; a risk layer draws one before it is built. Whatever
    they have read before, the draw is the last thing they read. -/

namespace GeoRisk.Analysis

/-- What the rows of the context are numbered under. -/
inductive VersionKey where
  | result (k : StageKey)
  | layer (k : StageKey)
  deriving DecidableEq

def Db.versions : VersionKey → Db → List ℕ
  | .result k, db => Lib.numbersUnder StageResult.key (·.version) db.stageResults.rows k
  | .layer k, db => Lib.numbersUnder RiskLayer.key (·.version) db.riskLayers.rows k

/-- What a command inserts a row under, if it comes to that. -/
def Command.versionKey : Command → VersionKey
  | .recordStageResult _ c _ _ _ => .result c.key
  | .generateRiskLayer _ c _ _ => .layer ⟨c.tenantId, c.assessmentId.id, .risk⟩

/-- A commit that inserts the next version under a key. -/
abbrev Inserts (key : VersionKey) (reads : List (Unit × Db)) (write : Db → Option Db)
    (_ : Except AnalysisError Reply) : Prop :=
  Lib.InsertsNext Db.versions (some key) reads write

section Inserts

variable {reads : List (Unit × Db)} {db : Db} {now : Timestamp} {event : AnalysisEvent}

theorem insertResult_inserts {result : StageResult} {key : StageKey} (hkey : result.key = key)
    (hversion : result.version = db.nextResultVersion key) :
    Lib.InsertsNext Db.versions (some (.result key)) (reads ++ [((), db)])
      (Db.insertResult result event now) := by
  refine .of_put VersionKey.result (fun _ _ => rfl) (fun d d' h => ?_) hkey hversion
  unfold Db.insertResult at h
  split at h
  · cases h
  · next hfresh =>
    cases h
    refine ⟨Option.not_isSome_iff_eq_none.mp hfresh, rfl, fun k' hk' => ?_⟩
    cases k' with
    | result k => exact absurd rfl (hk' k)
    | layer k => rfl

theorem insertLayer_inserts {layer : RiskLayer} {key : StageKey} (hkey : layer.key = key)
    (hversion : layer.version = db.nextLayerVersion key) :
    Lib.InsertsNext Db.versions (some (.layer key)) (reads ++ [((), db)])
      (Db.insertLayer layer event now) := by
  refine .of_put VersionKey.layer (fun _ _ => rfl) (fun d d' h => ?_) hkey hversion
  unfold Db.insertLayer at h
  split at h
  · cases h
  · next hfresh =>
    cases h
    refine ⟨Option.not_isSome_iff_eq_none.mp hfresh, rfl, fun k' hk' => ?_⟩
    cases k' with
    | result k => rfl
    | layer k => exact absurd rfl (hk' k)

end Inserts

/-! ### The handlers -/

section Handlers

variable {registry : StrategyRegistry} {c : RecordStageResult} {reads : List (Unit × Db)}
  {id : StageResultId} {now : Timestamp}

/-- From here on the transaction will insert the next version under the key of the command. -/
abbrev WillInsert (key : VersionKey) (reads : List (Unit × Db)) (txn : AnalysisTxn) : Prop :=
  txn.Ends (Inserts key) (fun _ => True) reads

theorem drawResult_ends {build : ℕ → StageResult × AnalysisEvent}
    (hbuild : ∀ version, (build version).1.key = c.key ∧ (build version).1.version = version)
    (reads : List (Unit × Db)) : WillInsert (.result c.key) reads (drawResult c build now) := by
  intro _ db
  obtain ⟨hkey, hversion⟩ := hbuild (db.nextResultVersion c.key)
  exact insertResult_inserts hkey hversion

theorem recordFailure_ends (strategy : Option HazardStrategy) (calculator : Option StageCalculator)
    (error : String) (reads : List (Unit × Db)) :
    WillInsert (.result c.key) reads (recordFailure c strategy calculator error id now) :=
  drawResult_ends (fun _ => ⟨rfl, rfl⟩) reads

theorem gatherDependencies_ends {dependencies : List (StageType × List (String × String))}
    {next : Except String Inputs → AnalysisTxn}
    (hnext : ∀ inputs reads, WillInsert (.result c.key) reads (next inputs))
    (rest : List (StageType × List (String × String))) (inputs : Inputs) (missing : List StageType)
    (reads : List (Unit × Db)) : WillInsert (.result c.key) reads
      (gatherDependencies c dependencies next rest inputs missing) := by
  induction rest generalizing inputs missing reads with
  | nil =>
    unfold gatherDependencies
    split
    · exact hnext _ _
    · exact hnext _ _
  | cons dependency rest ih =>
    intro _ db
    dsimp only
    split
    · exact ih _ _ _
    · exact ih _ _ _

theorem gatherInputs_ends (strategy : HazardStrategy) (provided : Except String Inputs)
    {next : Except String Inputs → AnalysisTxn}
    (hnext : ∀ inputs reads, WillInsert (.result c.key) reads (next inputs))
    (reads : List (Unit × Db)) :
    WillInsert (.result c.key) reads (gatherInputs c strategy provided next) := by
  unfold gatherInputs
  dsimp only
  split
  · exact hnext _ _
  · exact gatherDependencies_ends hnext _ _ _ _

theorem withHistory_ends (strategy : HazardStrategy) {next : List Inputs → AnalysisTxn}
    (hnext : ∀ historical reads, WillInsert (.result c.key) reads (next historical))
    (reads : List (Unit × Db)) :
    WillInsert (.result c.key) reads (withHistory c strategy next) := by
  unfold withHistory
  split
  · intro _ db
    exact hnext _ _
  · exact hnext _ _

theorem recordStageResult_ends (registry : StrategyRegistry) (c : RecordStageResult)
    (provided : Except String Inputs) (id : StageResultId) (now : Timestamp) :
    WillInsert (.result c.key) [] (recordStageResult registry c provided id now) := by
  unfold recordStageResult
  split
  · exact recordFailure_ends _ _ _ _
  · split
    · exact recordFailure_ends _ _ _ _
    · refine gatherInputs_ends _ _ (fun inputs reads => ?_) _
      cases inputs with
      | error e => exact recordFailure_ends _ _ _ _
      | ok rawInputs =>
        refine withHistory_ends _ (fun historical reads => ?_) _
        dsimp only
        split
        · exact recordFailure_ends _ _ _ _
        · exact drawResult_ends (fun _ => ⟨rfl, rfl⟩) _

theorem generateRiskLayer_ends (buildRiskLayer : LayerBuilder) (c : GenerateRiskLayer)
    (id : RiskLayerId) (now : Timestamp) :
    WillInsert (.layer ⟨c.tenantId, c.assessmentId.id, .risk⟩) []
      (generateRiskLayer buildRiskLayer c id now) := by
  intro _ db
  dsimp only
  split
  · trivial
  · next stageResult hget =>
    split
    · trivial
    · split
      · trivial
      · next hrisk =>
        split
        · split
          · trivial
          · trivial
          · intro _ db'
            dsimp only
            split
            · trivial
            · next built hbuilt =>
              have hkey : StageKey.mk c.tenantId c.assessmentId.id stageResult.stageType =
                  ⟨c.tenantId, c.assessmentId.id, .risk⟩ := by rw [not_not.mp hrisk]
              exact insertLayer_inserts hkey (congrArg db'.nextLayerVersion hkey)
        · trivial

theorem command_ends (command : Command) : WillInsert command.versionKey [] command.txn := by
  cases command with
  | recordStageResult registry c provided id now => exact recordStageResult_ends _ _ _ _ _
  | generateRiskLayer buildRiskLayer c id now => exact generateRiskLayer_ends _ _ _ _

end Handlers

/-! ### The latest version -/

/-- An answer of `get_latest` on stage results. -/
def Db.LatestResult (db : Db) (k : StageKey) (r : StageResult) : Prop :=
  Lib.IsLatest (·.version) (db.stageResults.rows.filter fun r => r.key = k ∧ r.status = .complete) r

/-- An answer of `get_latest` on risk layers. -/
def Db.LatestLayer (db : Db) (k : StageKey) (r : RiskLayer) : Prop :=
  Lib.IsLatest (·.version) (db.riskLayers.rows.filter (·.key = k)) r

theorem latestResult_of_getLatest {db : Db} {k : StageKey} {r : StageResult}
    (h : db.getLatest k = some r) : db.LatestResult k r :=
  ⟨List.argmax_mem h, fun _ hr' => List.le_of_mem_argmax hr' h⟩

theorem latestResult_unique {db : Db} {k : StageKey} {r r' : StageResult}
    (h : (db.versions (.result k)).Nodup) (hr : db.LatestResult k r) (hr' : db.LatestResult k r') :
    r = r' := by
  refine Lib.isLatest_unique h (fun r hr => ?_) hr hr'
  simp only [List.mem_filter, decide_eq_true_eq] at hr ⊢
  exact ⟨hr.1, hr.2.1⟩

end GeoRisk.Analysis
