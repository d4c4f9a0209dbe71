import Mathlib
import GeoRisk.Lib.ReadCommitted
import GeoRisk.Lib.Table
import GeoRisk.Analysis.StageResult

/-! The handlers that record a stage result and generate a risk layer, each a transaction at READ
    COMMITTED. A stage is computed from what an indicator provider answers, or from the indicators of
    the stages it depends on; whatever is raised on the way becomes a failed result. The version is
    drawn after the computation, and the row is inserted at the commit:

        strategy ▶ calculator ▶ inputs ▶ history ▶ compute ─▶ max version ─▶ commit: COMPLETE
            └──────────┴──────────┴─────────────────┴───────▶ max version ─▶ commit: FAILED

    A strategy, which holds the formulas of a hazard, is any value with the operations the handlers
    use; so is the generator that builds the layer from its features. -/

namespace GeoRisk.Analysis

structure StageCalculator where
  compute : ComputationSnapshot → Except String IndicatorSet
  formulaVersion : String

structure HazardStrategy where
  supportedStages : List StageType
  getCalculator : StageType → Except String StageCalculator
  /-- For each prior stage, its indicators and the keys they are given to the stage under. -/
  inputDependencies : StageType → List (StageType × List (String × String))
  historicalStages : List StageType
  strategyVersion : String

/-- `StrategyRegistry`. -/
abbrev StrategyRegistry := List (HazardType × HazardStrategy)

namespace StrategyRegistry

def getStrategy (self : StrategyRegistry) (hazardType : HazardType) : Except String HazardStrategy :=
  match self.lookup hazardType with
  | none => .error s!"No HazardStrategy registered for hazard type {hazardType}"
  | some strategy => .ok strategy

def resolve (self : StrategyRegistry) (hazardType : HazardType) (stageType : StageType) :
    Except String StageCalculator := do
  let strategy ← self.getStrategy hazardType
  if stageType ∉ strategy.supportedStages then
    throw s!"HazardStrategy for {hazardType} does not support stage {stageType}"
  strategy.getCalculator stageType

end StrategyRegistry

/-! ### Repositories -/

structure Db where
  stageResults : Lib.Table StageResult.id
  riskLayers : Lib.Table RiskLayer.id
  outbox : List (OutboxEvent AnalysisEvent)

/-- What the stage results of an assessment are versioned under, and its risk layers too. -/
structure StageKey where
  tenantId : TenantId
  assessmentId : UUID
  stageType : StageType
  deriving DecidableEq

def StageResult.key (self : StageResult) : StageKey :=
  ⟨self.tenantId, self.assessmentId.id, self.stageType⟩

def RiskLayer.key (self : RiskLayer) : StageKey :=
  ⟨self.tenantId, self.assessmentId.id, self.stageType⟩

namespace Db

def empty : Db := ⟨.empty, .empty, []⟩

/-- `SqlAlchemyStageResultRepository.next_version`. -/
def nextResultVersion (db : Db) (key : StageKey) : ℕ :=
  ((db.stageResults.rows.filter (·.key = key)).map (·.version)).foldl max 0 + 1

/-- `SqlAlchemyRiskLayerRepository.next_version`. -/
def nextLayerVersion (db : Db) (key : StageKey) : ℕ :=
  ((db.riskLayers.rows.filter (·.key = key)).map (·.version)).foldl max 0 + 1

/-- `get_latest`: a complete result of the greatest version; of several, which one is up to the
    database. -/
def getLatest (db : Db) (key : StageKey) : Option StageResult :=
  (db.stageResults.rows.filter fun r => r.key = key ∧ r.status = .complete).argmax (·.version)

/-- `list_historical_indicators`. -/
def listHistoricalIndicators (db : Db) (c : RecordStageResult) (limit : ℕ := 200) : List Inputs :=
  ((((db.stageResults.rows.filter fun r =>
      r.tenantId = c.tenantId ∧ r.hazardType = c.hazardType ∧ r.stageType = c.stageType ∧
        r.status = .complete ∧ r.assessmentId.id ≠ c.assessmentId.id).insertionSort
    fun r r' => r'.createdAt ≤ r.createdAt).take limit).map (·.snapshot.inputs))

def append (aggregateType aggregateId : String) (event : AnalysisEvent) (tenantId : TenantId)
    (now : Timestamp) (db : Db) : Db :=
  { db with outbox := appendEvent db.outbox aggregateType aggregateId event (some tenantId) now }

/-- The insert of a stage result, with its event. -/
def insertResult (result : StageResult) (event : AnalysisEvent) (now : Timestamp) (db : Db) :
    Option Db :=
  if (db.stageResults.get result.id).isSome then none
  else some ({ db with stageResults := db.stageResults.put result }.append "StageResult"
    (toString result.id) event result.tenantId now)

/-- The insert of a risk layer, with its event. -/
def insertLayer (layer : RiskLayer) (event : AnalysisEvent) (now : Timestamp) (db : Db) : Option Db :=
  if (db.riskLayers.get layer.id).isSome then none
  else some ({ db with riskLayers := db.riskLayers.put layer }.append "RiskLayer"
    (toString layer.id) event layer.tenantId now)

end Db

/-! ### Recording a stage result -/

inductive AnalysisErrorKind where
  | stageResultNotFound | riskLayerGeneration | valueError
  deriving DecidableEq

structure AnalysisError where
  kind : AnalysisErrorKind
  message : String
  deriving DecidableEq

inductive Reply where
  | stageResult (result : StageResult)
  | riskLayer (layer : RiskLayer)

abbrev AnalysisTxn := Lib.Txn Db Unit (Except AnalysisError Reply)

/-- `str.title` of an upper-case name: letters after a letter are lowered. -/
def title (s : String) : String :=
  String.ofList (s.toList.foldl (fun (out, inWord) c =>
    (out ++ [if inWord then c.toLower else c], c.isAlpha)) ([], false)).1

/-- `_join_with_and`. -/
def joinWithAnd : List String → String
  | [a] => a
  | [a, b] => s!"{a} and {b}"
  | items => String.intercalate ", " items.dropLast ++ ", and " ++ items.getLastD ""

section Record

variable (registry : StrategyRegistry) (c : RecordStageResult)

/-- What the command's results are versioned under. -/
def RecordStageResult.key : StageKey := ⟨c.tenantId, c.assessmentId.id, c.stageType⟩

/-- The version is drawn, and the row and its event are inserted at the commit. -/
def drawResult (build : ℕ → StageResult × AnalysisEvent) (now : Timestamp) : AnalysisTxn :=
  .query fun _ db =>
    let (result, event) := build (db.nextResultVersion c.key)
    .commit (Db.insertResult result event now) (.ok (.stageResult result))

/-- The `except` branch: a failed result under the next version. -/
def recordFailure (strategy : Option HazardStrategy) (calculator : Option StageCalculator)
    (error : String) (id : StageResultId) (now : Timestamp) : AnalysisTxn :=
  drawResult c (fun version =>
    let (result, event) := StageResult.failed c id version ⟨[], [], 0⟩ error
      (strategy.map (·.strategyVersion)) (calculator.map (·.formulaVersion)) now
    (result, .stageResultFailed event)) now

/-- The indicators of prior stages, each read from its latest result. -/
def gatherDependencies (dependencies : List (StageType × List (String × String)))
    (next : Except String Inputs → AnalysisTxn) :
    List (StageType × List (String × String)) → Inputs → List StageType → AnalysisTxn
  | [], inputs, missing =>
    if missing = [] then next (.ok inputs)
    else
      let labels := ((dependencies.map Prod.fst).filter (· ∈ missing)).map (title ·.value)
      next (.error s!"{title c.stageType.value} requires completed {joinWithAnd labels} results")
  | (stageType, indicatorMap) :: rest, inputs, missing =>
    .query fun _ db =>
      match (db.getLatest { c.key with stageType }).bind (·.indicators) with
      | none => gatherDependencies dependencies next rest inputs (missing ++ [stageType])
      | some indicators =>
        let inputs := indicatorMap.foldl (fun d (sourceCode, targetKey) =>
          setItem d targetKey ((indicators.value sourceCode).elim .null .float)) inputs
        gatherDependencies dependencies next rest inputs missing

/-- `_gather_inputs`; `provided` is what the indicator provider answers, or raises. -/
def gatherInputs (strategy : HazardStrategy) (provided : Except String Inputs)
    (next : Except String Inputs → AnalysisTxn) : AnalysisTxn :=
  let dependencies := strategy.inputDependencies c.stageType
  if dependencies = [] then next provided
  else gatherDependencies c dependencies next dependencies [] []

/-- The history, for a stage that is compared with it. -/
def withHistory (strategy : HazardStrategy) (next : List Inputs → AnalysisTxn) : AnalysisTxn :=
  if c.stageType ∈ strategy.historicalStages then
    .query fun _ db => next (db.listHistoricalIndicators c)
  else next []

/-- `RecordStageResultHandler.handle`. -/
def recordStageResult (provided : Except String Inputs) (id : StageResultId) (now : Timestamp) :
    AnalysisTxn :=
  match registry.getStrategy c.hazardType with
  | .error e => recordFailure c none none e id now
  | .ok strategy =>
    match registry.resolve c.hazardType c.stageType with
    | .error e => recordFailure c (some strategy) none e id now
    | .ok calculator =>
      gatherInputs c strategy provided fun
        | .error e => recordFailure c (some strategy) (some calculator) e id now
        | .ok rawInputs =>
          withHistory c strategy fun historical =>
            match calculator.compute ⟨rawInputs, historical, 0⟩ with
            | .error e => recordFailure c (some strategy) (some calculator) e id now
            | .ok indicators =>
              drawResult c (fun version =>
                let confidence := confidenceTierForSampleSize (historical.length + 1)
                let snapshot := ⟨rawInputs.update indicators.asDict, [], historical.length⟩
                let (result, event) := StageResult.complete c id version indicators confidence
                  snapshot strategy.strategyVersion calculator.formulaVersion now
                (result, .stageResultComputed event)) now

end Record

/-! ### Generating a risk layer -/

/-- `build_risk_layer`, which returns or raises, of a command, the stage result, the index, and the
    attributes of every feature. -/
abbrev LayerBuilder := GenerateRiskLayer → StageResult → (riskIndex : PyFloat) →
  (attributes : List (String × PyFloat)) → Except String RiskLayerFeatureCollection

/-- `GenerateRiskLayerHandler.handle`. -/
def generateRiskLayer (buildRiskLayer : LayerBuilder) (c : GenerateRiskLayer) (id : RiskLayerId)
    (now : Timestamp) : AnalysisTxn :=
  .query fun _ db =>
    match db.stageResults.get c.stageResultId.id with
    | none => .rollback (.error ⟨.stageResultNotFound,
        s!"StageResult {c.stageResultId.text} not found"⟩)
    | some stageResult =>
      if stageResult.tenantId ≠ c.tenantId then
        .rollback (.error ⟨.stageResultNotFound, s!"StageResult {c.stageResultId.text} not found"⟩)
      else if stageResult.stageType ≠ .risk then
        .rollback (.error ⟨.riskLayerGeneration, "Risk layers are only generated from the RISK " ++
          s!"stage, not {stageResult.stageType.value}"⟩)
      else
        match stageResult.status, stageResult.indicators with
        | .complete, some indicators =>
          match indicators.indicators, stageResult.formulaVersion with
          | [], _ => .rollback (.error ⟨.riskLayerGeneration,
              s!"StageResult {c.stageResultId.text} has no indicators to derive a risk index from"⟩)
          | _ :: _, none => .rollback (.error ⟨.riskLayerGeneration,
              s!"StageResult {c.stageResultId.text} has no recorded formula_version"⟩)
          | indicator :: _, some formulaVersion =>
            .query fun _ db =>
              let version :=
                db.nextLayerVersion ⟨c.tenantId, c.assessmentId.id, stageResult.stageType⟩
              match buildRiskLayer c stageResult indicator.value indicators.asDict with
              | .error e => .rollback (.error ⟨.valueError, e⟩)
              | .ok built =>
                let (layer, event) :=
                  RiskLayer.generate c stageResult id version built formulaVersion now
                .commit (Db.insertLayer layer (.riskLayerGenerated event) now)
                  (.ok (.riskLayer layer))
        | _, _ => .rollback (.error ⟨.riskLayerGeneration,
            s!"StageResult {c.stageResultId.text} is not a COMPLETE result with indicators"⟩)

/-- The commands of the context, with what each call draws and reads from outside. -/
inductive Command where
  | recordStageResult (registry : StrategyRegistry) (c : RecordStageResult)
      (provided : Except String Inputs) (id : StageResultId) (now : Timestamp)
  | generateRiskLayer (buildRiskLayer : LayerBuilder) (c : GenerateRiskLayer) (id : RiskLayerId)
      (now : Timestamp)

def Command.txn : Command → AnalysisTxn
  | .recordStageResult registry c provided id now =>
    Analysis.recordStageResult registry c provided id now
  | .generateRiskLayer buildRiskLayer c id now => Analysis.generateRiskLayer buildRiskLayer c id now

/-- An execution of `RecordStageResultHandler`: the command, what the provider of raw inputs answers,
    and what is drawn for it. -/
structure Execution where
  command : RecordStageResult
  provided : Except String Inputs
  id : StageResultId
  now : Timestamp

def Execution.run (registry : StrategyRegistry) (e : Execution) : Command :=
  .recordStageResult registry e.command e.provided e.id e.now

end GeoRisk.Analysis
