import GeoRisk.Analysis.DerivedRuns
import GeoRisk.Analysis.RiskLayerGenerator
import GeoRisk.Orchestration.StageOrder

/-! The workflow engine and the analysis engine, as the composition root puts them together. The executor
    of a stage is routed by its type; that of a hazard stage loads the assessment, records a result in a
    session of its own, draws a risk layer in another one if the result is a complete risk, and answers:

        workflow call                                        analysis sessions
        callExecutor ─ begin ─▶ recording j ─ ─ ─ ─ ─ ─ ─ ─▶ recordStageResult
             ▲                      │ COMPLETE risk
             │                      ├─ layer ─▶ layering k ─▶ generateRiskLayer
             └────── answer ◀───────┴──────────────┘

    Each engine takes steps of its own; what one sees of the other is the row of the assessment, and the
    outcome. -/

namespace GeoRisk.Api.StageExecutors

open Lib
open Orchestration (Assessment Target StageExecutionOutcome ExecutorReply)
open Analysis (RecordStageResult GenerateRiskLayer StageResult RiskLayerId LayerBuilder)

/-! ### Values across the contexts -/

/-- `HazardType(assessment.hazard_type.value)`. -/
def analysisHazard : Orchestration.HazardType → Analysis.HazardType
  | .flood => .flood
  | .wildfire => .wildfire
  | .drought => .drought
  | .landslide => .landslide

/-- `StageType(stage_type.value)`. -/
def analysisStage : Orchestration.StageType → Analysis.StageType
  | .hazard => .hazard
  | .exposure => .exposure
  | .vulnerability => .vulnerability
  | .risk => .risk
  | .resilience => .resilience
  | .validation => .validation
  | .fireRegime => .fireRegime
  | .burnOccurrenceProbability => .burnOccurrenceProbability
  | .burnSeverity => .burnSeverity

/-! ### Executors -/

inductive Executor where
  | analysis | validation | immediateSuccess
  deriving DecidableEq

/-- `CompositeStageExecutor`, with the overrides of the application. -/
def compositeStageExecutor : Orchestration.StageType → Executor
  | .hazard | .exposure | .vulnerability | .risk | .resilience => .analysis
  | .validation => .validation
  | .fireRegime | .burnOccurrenceProbability | .burnSeverity => .immediateSuccess

/-- `ImmediateSuccessStageExecutor.execute`. -/
def immediateSuccess (stageType : Orchestration.StageType) (assessmentId : String) :
    StageExecutionOutcome where
  success := true
  stageResultRef := some s!"stub:{assessmentId}:{stageType.value}"

/-- What `AnalysisStageExecutor` makes of a result. -/
def outcomeOf (result : StageResult) : StageExecutionOutcome :=
  if result.status = .failed then { success := false, error := result.error }
  else { success := true, stageResultRef := some (toString result.id) }

/-- The command an executor issues for the assessment it has loaded. -/
def stageCommand (target : Target) (assessment : Assessment) (stageType : Orchestration.StageType) :
    RecordStageResult where
  tenantId := assessment.tenantId
  assessmentId := ⟨target.assessmentId.text, target.assessmentId.id.value⟩
  hazardType := analysisHazard assessment.hazardType
  stageType := analysisStage stageType
  issuedBy := Orchestration.SYSTEM_ACTOR

/-- `build_risk_layer`, as the handler calls it. -/
def buildRiskLayer : LayerBuilder := fun c stageResult riskIndex attributes =>
  match Analysis.buildRiskLayer {
      features := c.features, assessmentId := c.assessmentId.text
      hazardType := stageResult.hazardType.value, stageType := stageResult.stageType.value
      datasetId := c.datasetId, geometryType := c.geometryType, riskIndex
      analysisTimestamp := stageResult.createdAt
      formulaVersion := stageResult.formulaVersion.getD "", hazardSpecificAttributes := attributes } with
  | .ok built => .ok built
  | .error e => .error e.message

/-- What a session of the analysis context is opened for: its command, and what is drawn for it and
    comes from the other contexts. -/
inductive Job where
  | record (e : Analysis.Execution)
  | layer (c : GenerateRiskLayer) (id : RiskLayerId) (now : Timestamp)

def Job.command (lib : Analysis.Library) : Job → Analysis.Command
  | .record e => e.run (Analysis.applicationRegistry lib)
  | .layer c id now => .generateRiskLayer buildRiskLayer c id now

theorem Job.uses (lib : Analysis.Library) (job : Job) : (job.command lib).Uses lib := by
  cases job with
  | record => exact rfl
  | layer => exact trivial

/-! ### The engines -/

/-- How far the executor of a call is. -/
inductive Phase (ι : Type) where
  | idle
  | recording (session : ι)
  | layering (result : StageResult) (session : ι)

structure Engines (ι : Type) where
  workflow : Orchestration.Sys
  analysis : Traced ι Analysis.Db Unit (Except Analysis.AnalysisError Analysis.Reply)
  phases : ℕ → Phase ι
  /-- The sessions that have been opened. -/
  begun : List ι

/-- How an executor comes back: with an outcome of its own, by an exception, or with what a validation
    run has come to. -/
inductive Answer where
  | returns
  | raises (message : String)
  | validated (reply : ExecutorReply)

inductive Event (ι : Type) where
  /-- Anything the workflow engine does by itself, and any request to it. -/
  | workflow (action : Orchestration.Action)
  /-- The executor of the call loads the assessment and opens a session. -/
  | begin (call : ℕ) (session : ι)
  /-- The session the executor of the call waits for takes a step. -/
  | analyse (call : ℕ)
  /-- A session is opened for a risk layer. -/
  | layer (call : ℕ) (session : ι)
  | answer (call : ℕ) (answer : Answer)

namespace Engines

variable {ι : Type} [DecidableEq ι] (lib : Analysis.Library) (jobs : ι → Job)

/-- No session has been opened. -/
def initial : Engines ι where
  workflow := .initial
  analysis := .start (fun i => ((jobs i).command lib).txn) .empty
  phases := fun _ => .idle
  begun := []

variable (s : Engines ι)

omit [DecidableEq ι] in
/-- The call is at its executor: what it is aimed at, and the stage. -/
def atExecutor (call : ℕ) : Option (Target × Orchestration.StageType) :=
  match s.workflow.calls[call]? with
  | some (target, .active (.callExecutor stageType _) _) => some (target, stageType)
  | _ => none

omit [DecidableEq ι] in
/-- An answer of an executor, which the workflow engine does not give by itself. -/
def isAnswer : Orchestration.Action → Bool
  | .engineStep call _ => (s.atExecutor call).isSome
  | _ => false

/-- The executor may issue the command of the job. -/
def mayRecord (target : Target) (stageType : Orchestration.StageType) (e : Analysis.Execution) :
    Bool :=
  match s.workflow.db.assessments.get target.assessmentId.id with
  | none => false
  | some a =>
    let c := stageCommand target a stageType
    compositeStageExecutor stageType = .analysis ∧ e.command.tenantId = c.tenantId ∧
      e.command.assessmentId.text = c.assessmentId.text ∧
      e.command.assessmentId.id = c.assessmentId.id ∧ e.command.hazardType = c.hazardType ∧
      e.command.stageType = c.stageType ∧ e.command.issuedBy = c.issuedBy

/-- `generate_if_possible` is called for a risk that is complete, with what identifies it. -/
def mayLayer (stageType : Orchestration.StageType) (recorded : RecordStageResult)
    (result : StageResult) (c : GenerateRiskLayer) : Bool :=
  stageType = .risk ∧ result.status = .complete ∧ c.tenantId = recorded.tenantId ∧
    c.assessmentId.text = recorded.assessmentId.text ∧
    c.assessmentId.id = recorded.assessmentId.id ∧ c.stageResultId.text = toString result.id ∧
    c.stageResultId.id = result.id ∧ c.issuedBy = recorded.issuedBy

omit [DecidableEq ι] in
/-- The result that a session has returned. -/
def resultOf (session : ι) : Option StageResult :=
  match (s.analysis.world.sessions session).result with
  | some (.ok (.stageResult result)) => some result
  | _ => none

omit [DecidableEq ι] in
/-- What the executor of a stage comes back with; none if it does not in this phase. -/
def reply (target : Target) (stageType : Orchestration.StageType) (phase : Phase ι) :
    Answer → Option ExecutorReply
  | .returns =>
    match compositeStageExecutor stageType, phase with
    | .immediateSuccess, _ => some (.outcome (immediateSuccess stageType target.assessmentId.text))
    | .analysis, .idle =>
      if (s.workflow.db.assessments.get target.assessmentId.id).isSome then none
      else some (.outcome {
        success := false, error := some s!"Assessment {target.assessmentId.text} not found" })
    | .analysis, .recording j => (s.resultOf j).map fun result => .outcome (outcomeOf result)
    -- whatever has become of the layer
    | .analysis, .layering result _ => some (.outcome (outcomeOf result))
    | .validation, _ => none
  | .raises message =>
    match compositeStageExecutor stageType, phase with
    | .analysis, .idle => some (.raises message)
    | .analysis, .recording _ => some (.outcome { success := false, error := some message })
    | _, _ => none
  | .validated reply =>
    match compositeStageExecutor stageType with
    | .validation => some reply
    | _ => none

/-- One step. A session is opened once. -/
def step : Timestamp × Event ι → Engines ι
  | (now, .workflow action) =>
    if s.isAnswer action then s else { s with workflow := s.workflow.step (now, action) }
  | (_, .begin call j) =>
    match s.atExecutor call, s.phases call, jobs j with
    | some (target, stageType), .idle, .record e =>
      if j ∉ s.begun ∧ s.mayRecord target stageType e then
        { s with phases := Function.update s.phases call (.recording j), begun := j :: s.begun }
      else s
    | _, _, _ => s
  | (_, .analyse call) =>
    match s.phases call with
    | .recording j | .layering _ j => { s with analysis := s.analysis.step (j, ()) }
    | .idle => s
  | (_, .layer call k) =>
    match s.atExecutor call, s.phases call, jobs k with
    | some (_, stageType), .recording j, .layer c _ _ =>
      match jobs j, s.resultOf j with
      | .record e, some result =>
        if k ∉ s.begun ∧ mayLayer stageType e.command result c then
          { s with phases := Function.update s.phases call (.layering result k)
                   begun := k :: s.begun }
        else s
      | _, _ => s
    | _, _, _ => s
  | (now, .answer call answer) =>
    match s.atExecutor call with
    | none => s
    | some (target, stageType) =>
      match s.reply target stageType (s.phases call) answer with
      | none => s
      | some reply => { s with
          workflow := s.workflow.step (now, .engineStep call reply)
          phases := Function.update s.phases call .idle }

end Engines

end GeoRisk.Api.StageExecutors
