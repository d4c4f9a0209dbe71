import Mathlib
import GeoRisk.Lib.Runs
import GeoRisk.Orchestration.Handlers

/-! The workflow engine. A call of the engine is a sequence of transactions with executor calls in
    between, and any other request may commit between two of them, so a call is modelled in small
    steps: one transaction, or one executor call, each. Its methods call each other in tail
    position everywhere but in the dispatch loop, so what is left to do is a control point and a
    stack of loops to come back to:

        startWorkflow ─▶ dispatchRunnableStages ─▶ forEach pending ─▶ executeStage
                                   ▲                  (pushes the rest)   │
                                   │                                 callExecutor
                              onStageCompleted ◀─── success ──────── recordOutcome
                                   │                                      │ failure
                                   ▼                                      ▼
                                advance                              onStageFailed ─▶ executeStage

    `Move` says, control point by control point, what a step does to the row of the assessment. -/

namespace GeoRisk.Orchestration

/-- Who triggers a stage: a user through the API, or the engine itself. -/
inductive Actor where
  | user (id : UserId)
  | system
  deriving DecidableEq

def SYSTEM_ACTOR : String := "system:workflow-engine"

def Actor.str : Actor → String
  | .user id => toString id
  | .system => SYSTEM_ACTOR

structure StageExecutionOutcome where
  success : Bool
  stageResultRef : Option String := none
  error : Option String := none
  deriving DecidableEq

/-- What a call of a `StageExecutor` comes back with. -/
inductive ExecutorReply where
  | outcome (o : StageExecutionOutcome)
  | raises (message : String)
  deriving DecidableEq

/-- `outcome.error or "stage execution failed"`. -/
def StageExecutionOutcome.errorText (o : StageExecutionOutcome) : String :=
  match o.error with
  | none => "stage execution failed"
  | some e => if e = "" then "stage execution failed" else e

/-- What an engine call raises: an error of the domain, or what the executor raised. -/
inductive EngineError where
  | domain (e : AssessmentError)
  | executor (message : String)
  deriving DecidableEq

/-- Where a call is, between two of its steps. -/
inductive Control where
  | startWorkflow (workflowTemplateId : Spelled WorkflowTemplateId) (actor : Actor)
  | executeStage (stageType : StageType) (actor : Actor)
  | callExecutor (stageType : StageType) (actor : Actor)
  | recordOutcome (stageType : StageType) (actor : Actor) (outcome : StageExecutionOutcome)
  | onStageCompleted
  | advance
  | onStageFailed (stageType : StageType)
  | dispatchRunnableStages
  | forEach (pending : List StageDefinition)

inductive CallState where
  | active (control : Control) (stack : List (List StageDefinition))
  | returned
  | raised (error : EngineError)

/-- A method returns: to the loop that called it, if any. -/
def CallState.ret : List (List StageDefinition) → CallState
  | [] => .returned
  | pending :: stack => .active (.forEach pending) stack

/-- The two methods of the engine the API calls. -/
inductive EntryPoint where
  | startWorkflow (templateId : Spelled WorkflowTemplateId) (actor : UserId)
  | executeStage (stageType : StageType) (actor : UserId)

def EntryPoint.control : EntryPoint → Control
  | .startWorkflow templateId actor => .startWorkflow templateId (.user actor)
  | .executeStage st actor => .executeStage st (.user actor)

section Step

variable (target : Target) (reply : StageType → ExecutorReply) (now : Timestamp) (db : Db)

/-- A step that runs one handler: its error is raised through every frame. -/
def transact (c : Command) (next : CallState) : Db × CallState :=
  match handle c target now db with
  | .error e => (db, .raised (.domain e))
  | .ok (db', _) => (db', next)

def loadAssessmentAndTemplate : Except AssessmentError (Assessment × Option WorkflowTemplate) :=
  let notFound := ⟨.assessmentNotFound, s!"Assessment {target.assessmentId.text} not found"⟩
  match db.assessments.get target.assessmentId.id with
  | none => .error notFound
  | some assessment =>
    if assessment.tenantId ≠ target.tenantId then .error notFound
    else .ok (assessment, assessment.workflowTemplateId.bind db.workflowTemplates.get)

/-- A step that only reads. -/
def inspect (next : Assessment → Option WorkflowTemplate → CallState) : Db × CallState :=
  match loadAssessmentAndTemplate target db with
  | .error e => (db, .raised (.domain e))
  | .ok (assessment, template) => (db, next assessment template)

def onStageCompleted (stack : List (List StageDefinition)) (assessment : Assessment) :
    Option WorkflowTemplate → CallState
  | none => .ret stack
  | some template =>
    if assessment.workflowProgress.allComplete template.requiredStageTypes then
      .active .advance stack
    else .active .dispatchRunnableStages stack

def onStageFailed (st : StageType) (stack : List (List StageDefinition))
    (assessment : Assessment) : Option WorkflowTemplate → CallState
  | none => .ret stack
  | some template =>
    match template.getStageDefinition st with
    | none => .ret stack
    | some stageDef =>
      if (assessment.workflowProgress.get st).attemptCount < stageDef.maxAttempts then
        .active (.executeStage st .system) stack
      else .ret stack

/-- The automatic stages a loop is started over. -/
def WorkflowTemplate.automatic (template : WorkflowTemplate) (progress : WorkflowProgress) :
    List StageDefinition :=
  (template.runnableStages progress).filter (·.triggerMode = .automatic)

def dispatchRunnableStages (stack : List (List StageDefinition)) (assessment : Assessment) :
    Option WorkflowTemplate → CallState
  | none => .ret stack
  | some template => .active (.forEach (template.automatic assessment.workflowProgress)) stack

/-- One turn of the loop: the stage is run when its live status still allows it. -/
def forEachTurn (stageDef : StageDefinition) (pending : List StageDefinition)
    (stack : List (List StageDefinition)) (assessment : Assessment) : CallState :=
  if (assessment.workflowProgress.get stageDef.stageType).Startable then
    .active (.executeStage stageDef.stageType .system) (pending :: stack)
  else .active (.forEach pending) stack

/-- One step of a call that is at `control`. -/
def Control.step (stack : List (List StageDefinition)) : Control → Db × CallState
  | .startWorkflow templateId actor =>
    transact target now db (.startWorkflow templateId actor.str)
      (.active .dispatchRunnableStages stack)
  | .executeStage st actor =>
    transact target now db (.executeStage st actor.str) (.active (.callExecutor st actor) stack)
  | .callExecutor st actor =>
    match reply st with
    | .outcome o => (db, .active (.recordOutcome st actor o) stack)
    | .raises message => (db, .raised (.executor message))
  | .recordOutcome st actor o =>
    if o.success then
      transact target now db (.recordStageCompletion st o.stageResultRef actor.str)
        (.active .onStageCompleted stack)
    else
      transact target now db (.recordStageFailure st o.errorText actor.str)
        (.active (.onStageFailed st) stack)
  | .onStageCompleted => inspect target db (Orchestration.onStageCompleted stack)
  | .advance => transact target now db (.advanceAssessment SYSTEM_ACTOR) (.ret stack)
  | .onStageFailed st => inspect target db (Orchestration.onStageFailed st stack)
  | .dispatchRunnableStages => inspect target db (Orchestration.dispatchRunnableStages stack)
  | .forEach [] => (db, .ret stack)
  | .forEach (stageDef :: pending) =>
    inspect target db fun assessment _ => forEachTurn stageDef pending stack assessment

def CallState.step : CallState → Db × CallState
  | .active control stack => control.step target reply now db stack
  | state => (db, state)

end Step

/-! ### What a step does to the row -/

/-- `Move templates reply now a control stack a' state`: at `control`, over the row `a`, a step
    leaves the row `a'` and the call in `state`. -/
inductive Move (templates : WorkflowTemplateId → Option WorkflowTemplate)
    (reply : StageType → ExecutorReply) (now : Timestamp) (a : Assessment) :
    Control → List (List StageDefinition) → Assessment → CallState → Prop where
  | bound {templateId actor stack T} (hT : templates templateId.id = some T)
      (hpub : T.status = .published) (hhaz : T.hazardType = a.hazardType) (hready : a.status = .ready) :
      Move templates reply now a (.startWorkflow templateId actor) stack
        { a with
          status := .running, updatedAt := now, workflowTemplateId := some T.id
          workflowProgress := a.workflowProgress.initialized T.id T.requiredStageTypes }.saved
        (.active .dispatchRunnableStages stack)
  | notBound {templateId actor stack e} (hno : ∀ T, templates templateId.id = some T →
        T.status = .published → T.hazardType = a.hazardType → a.status ≠ .ready)
      (hkind : a.status = .ready → e.kind = .workflowTemplateNotFound ∨ e.kind = .guardRejected) :
      Move templates reply now a (.startWorkflow templateId actor) stack a (.raised (.domain e))
  | started {st actor stack} (hrun : a.status = .running)
      (hst : (a.workflowProgress.get st).Startable) :
      Move templates reply now a (.executeStage st actor) stack
        (a.withStage ((a.workflowProgress.get st).started now) now).saved
        (.active (.callExecutor st actor) stack)
  | notStarted {st actor stack e}
      (hno : ¬ (a.status = .running ∧ (a.workflowProgress.get st).Startable)) :
      Move templates reply now a (.executeStage st actor) stack a (.raised (.domain e))
  | replied {st actor stack o} (ho : reply st = .outcome o) :
      Move templates reply now a (.callExecutor st actor) stack a
        (.active (.recordOutcome st actor o) stack)
  | executorRaised {st actor stack message} (hm : reply st = .raises message) :
      Move templates reply now a (.callExecutor st actor) stack a (.raised (.executor message))
  | completed {st actor stack o} (ho : o.success = true) (hrun : a.status = .running)
      (hst : (a.workflowProgress.get st).status = .running) :
      Move templates reply now a (.recordOutcome st actor o) stack
        (a.withStage ((a.workflowProgress.get st).completed now o.stageResultRef) now).saved
        (.active .onStageCompleted stack)
  | failed {st actor stack o} (ho : o.success = false) (hrun : a.status = .running)
      (hst : (a.workflowProgress.get st).status = .running) :
      Move templates reply now a (.recordOutcome st actor o) stack
        (a.withStage ((a.workflowProgress.get st).failedWith (some o.errorText)) now).saved
        (.active (.onStageFailed st) stack)
  | notRecorded {st actor stack o e}
      (hno : ¬ (a.status = .running ∧ (a.workflowProgress.get st).status = .running)) :
      Move templates reply now a (.recordOutcome st actor o) stack a (.raised (.domain e))
  | afterCompletion {stack} : Move templates reply now a .onStageCompleted stack a
      (onStageCompleted stack a (a.workflowTemplateId.bind templates))
  | advanced {stack T} (hT : a.workflowTemplateId.bind templates = some T)
      (hall : a.workflowProgress.allComplete T.requiredStageTypes) (hrun : a.status = .running) :
      Move templates reply now a .advance stack
        { a with status := .validated, updatedAt := now }.saved (.ret stack)
  | notAdvanced {stack e} (hno : ∀ T, a.workflowTemplateId.bind templates = some T →
        a.workflowProgress.allComplete T.requiredStageTypes → a.status ≠ .running) :
      Move templates reply now a .advance stack a (.raised (.domain e))
  | afterFailure {st stack} : Move templates reply now a (.onStageFailed st) stack a
      (onStageFailed st stack a (a.workflowTemplateId.bind templates))
  | dispatched {stack} : Move templates reply now a .dispatchRunnableStages stack a
      (dispatchRunnableStages stack a (a.workflowTemplateId.bind templates))
  | loopEnd {stack} : Move templates reply now a (.forEach []) stack a (.ret stack)
  | turn {stageDef pending stack} : Move templates reply now a (.forEach (stageDef :: pending)) stack
      a (forEachTurn stageDef pending stack a)

section Spec

variable {c : Command} {target : Target} {reply : StageType → ExecutorReply} {now : Timestamp}
  {db : Db} {a : Assessment} {control : Control} {stack : List (List StageDefinition)}

open Assessment (run_get_bind run_throw)

theorem inspect_row (h : db.Row target a) (next : Assessment → Option WorkflowTemplate → CallState) :
    inspect target db next = (db, next a (a.workflowTemplateId.bind db.workflowTemplates.get)) := by
  simp [inspect, loadAssessmentAndTemplate, h.1, h.2]

/-- A transaction on a row either has its effect, or changes nothing and raises. -/
theorem transact_row (h : db.Row target a) (now : Timestamp) (c : Command) (next : CallState) :
    (∃ a', c.Effect now db a a' ∧ (transact target now db c next).2 = next ∧
        RowReplaced target db (transact target now db c next).1 a'.saved) ∨
    (∃ e, (∀ a', ¬ c.Effect now db a a') ∧ handle c target now db = .error e ∧
        transact target now db c next = (db, .raised (.domain e))) := by
  by_cases heff : ∃ a', c.Effect now db a a'
  · obtain ⟨a', ha'⟩ := heff
    obtain ⟨db', hdb', hrep⟩ := handle_of_effect h ha'
    exact Or.inl ⟨a', ha', by simp [transact, hdb'], by simpa [transact, hdb'] using hrep⟩
  · have hno : ∀ a', ¬ c.Effect now db a a' := fun a' ha' => heff ⟨a', ha'⟩
    obtain ⟨e, he⟩ := handle_error h hno
    exact Or.inr ⟨e, hno, he, by simp [transact, he]⟩

/-- What an unsuccessful command raises is what its body raises. -/
theorem handle_error_body {e : AssessmentError} (h : db.Row target a)
    (he : handle c target now db = .error e) : ∃ s, (c.body now db).run a = .error e s := by
  cases hr : (c.body now db).run a with
  | ok events a' => rw [handle_ok.mpr ⟨a, events, h.1, h.2, hr, rfl⟩] at he; cases he
  | error e' s =>
    have hl : loadOr404 db target = .ok a := loadOr404_ok.mpr h
    simp only [handle, hl, bind, Except.bind, hr, throw, throwThe, MonadExceptOf.throw,
      Except.error.injEq] at he
    exact ⟨s, by rw [he]⟩

/-- On a ready assessment `startWorkflow` raises only over its template. -/
theorem startWorkflow_error {templateId : Spelled WorkflowTemplateId} {who : String}
    {e : AssessmentError} {s : Assessment} (hready : a.status = .ready)
    (h : (startWorkflow templateId who now db).run a = .error e s) :
    e.kind = .workflowTemplateNotFound ∨ e.kind = .guardRejected := by
  simp only [startWorkflow, run_get_bind] at h
  cases hT : db.workflowTemplates.get templateId.id with
  | none => simp only [hT, run_throw, EStateM.Result.error.injEq] at h; exact Or.inl (by rw [← h.1])
  | some T =>
    by_cases hp : T.status = .published
    · by_cases hh : T.hazardType = a.hazardType
      · obtain ⟨evs, hok⟩ := (Assessment.startWorkflow_ok (a := a) T.id T.requiredStageTypes who now).mpr
            ⟨Assessment.running_legal_iff.mpr hready, rfl⟩
        simp [hT, hp, hh, hok] at h
      · simp [hT, hp, hh] at h; exact Or.inr (by rw [← h.1])
    · simp [hT, hp] at h; exact Or.inr (by rw [← h.1])

/-- Every step over a row is one of the moves, and changes nothing but that row. -/
theorem step_move (h : db.Row target a) (reply : StageType → ExecutorReply) (now : Timestamp)
    (control : Control) (stack : List (List StageDefinition)) : ∃ a',
    Move db.workflowTemplates.get reply now a control stack a'
      (control.step target reply now db stack).2 ∧
    RowReplaced target db (control.step target reply now db stack).1 a' := by
  have hrefl : RowReplaced target db db a := .refl h.1
  cases control with
  | startWorkflow templateId actor =>
    rcases transact_row h now (.startWorkflow templateId actor.str)
      (.active .dispatchRunnableStages stack) with
      ⟨a', ⟨T, hT, hpub, hhaz, hready, rfl⟩, h2, h1⟩ | ⟨e, hno, he, hs⟩
    · refine ⟨_, ?_, h1⟩
      rw [Control.step, h2]
      exact .bound hT hpub hhaz (Assessment.running_legal_iff.mp hready)
    · rw [Control.step, hs]
      refine ⟨a, .notBound (fun T hT hpub hhaz hready => ?_) fun hready => ?_, hrefl⟩
      · exact hno _ ⟨T, hT, hpub, hhaz, Assessment.running_legal_iff.mpr hready, rfl⟩
      · obtain ⟨s, hs⟩ := handle_error_body h he
        exact startWorkflow_error hready hs
  | executeStage st actor =>
    rcases transact_row h now (.executeStage st actor.str)
      (.active (.callExecutor st actor) stack) with
      ⟨a', ⟨hrun, hst, rfl⟩, h2, h1⟩ | ⟨e, hno, _, hs⟩
    · refine ⟨_, ?_, h1⟩
      rw [Control.step, h2]
      exact .started hrun hst
    · rw [Control.step, hs]
      exact ⟨a, .notStarted fun hc => hno _ ⟨hc.1, hc.2, rfl⟩, hrefl⟩
  | callExecutor st actor =>
    simp only [Control.step]
    cases hr : reply st with
    | outcome o => exact ⟨a, .replied hr, hrefl⟩
    | raises message => exact ⟨a, .executorRaised hr, hrefl⟩
  | recordOutcome st actor o =>
    simp only [Control.step]
    cases ho : o.success with
    | true =>
      rw [if_pos rfl]
      rcases transact_row h now (.recordStageCompletion st o.stageResultRef actor.str)
        (.active .onStageCompleted stack) with
        ⟨a', ⟨hrun, hst, rfl⟩, h2, h1⟩ | ⟨e, hno, _, hs⟩
      · refine ⟨_, ?_, h1⟩
        rw [h2]
        exact .completed ho hrun hst
      · rw [hs]
        exact ⟨a, .notRecorded fun hc => hno _ ⟨hc.1, hc.2, rfl⟩, hrefl⟩
    | false =>
      rw [if_neg Bool.false_ne_true]
      rcases transact_row h now (.recordStageFailure st o.errorText actor.str)
        (.active (.onStageFailed st) stack) with
        ⟨a', ⟨hrun, hst, rfl⟩, h2, h1⟩ | ⟨e, hno, _, hs⟩
      · refine ⟨_, ?_, h1⟩
        rw [h2]
        exact .failed ho hrun hst
      · rw [hs]
        exact ⟨a, .notRecorded fun hc => hno _ ⟨hc.1, hc.2, rfl⟩, hrefl⟩
  | onStageCompleted => rw [Control.step, inspect_row h]; exact ⟨a, .afterCompletion, hrefl⟩
  | advance =>
    rcases transact_row h now (.advanceAssessment SYSTEM_ACTOR) (.ret stack) with
      ⟨a', ⟨id, T, hid, hT, hall, hrun, rfl⟩, h2, h1⟩ | ⟨e, hno, _, hs⟩
    · refine ⟨_, ?_, h1⟩
      rw [Control.step, h2]
      exact .advanced (by rw [hid]; exact hT) hall (Assessment.validated_legal_iff.mp hrun)
    · rw [Control.step, hs]
      refine ⟨a, .notAdvanced fun T hT hall hrun => ?_, hrefl⟩
      obtain ⟨id, hid, hT⟩ := Option.bind_eq_some_iff.mp hT
      exact hno _ ⟨id, T, hid, hT, hall, Assessment.validated_legal_iff.mpr hrun, rfl⟩
  | onStageFailed st => rw [Control.step, inspect_row h]; exact ⟨a, .afterFailure, hrefl⟩
  | dispatchRunnableStages => rw [Control.step, inspect_row h]; exact ⟨a, .dispatched, hrefl⟩
  | forEach pending =>
    cases pending with
    | nil => exact ⟨a, .loopEnd, hrefl⟩
    | cons stageDef pending => rw [Control.step, inspect_row h]; exact ⟨a, .turn, hrefl⟩

/-- A call whose row is missing or of another tenant changes nothing. -/
theorem step_foreign (h : ∀ a, ¬ db.Row target a) (reply : StageType → ExecutorReply)
    (now : Timestamp) (control : Control) (stack : List (List StageDefinition)) :
    (control.step target reply now db stack).1 = db := by
  have ht : ∀ c next, (transact target now db c next).1 = db := by
    intro c next
    unfold transact
    split
    · rfl
    · next db' a' hh =>
      obtain ⟨a, ha, _⟩ := handle_effect hh
      exact absurd ha (h a)
  have hi : ∀ next, (inspect target db next).1 = db := by
    intro next; unfold inspect; split <;> rfl
  cases control with
  | callExecutor st actor => simp only [Control.step]; split <;> rfl
  | recordOutcome st actor o => simp only [Control.step]; split <;> exact ht _ _
  | forEach pending => cases pending <;> first | rfl | exact hi _
  | startWorkflow | executeStage | advance => exact ht _ _
  | _ => exact hi _

end Spec

end GeoRisk.Orchestration
