import Mathlib
import GeoRisk.Orchestration.Template

/-! The `Assessment` aggregate. Each method reads and writes the aggregate it is called on and may
    raise half-way, so a method is a computation over the aggregate as mutable state, and what it
    raises leaves behind is visible in its result. The clock is read once per call.

        draft ──▶ ready ──▶ running ──▶ validated ──▶ reported ──▶ archived
          └────────┴──────────┴────────────┴──▶ cancelled -/

namespace GeoRisk.Orchestration

structure AssessmentId where
  value : UUID
  deriving DecidableEq

instance : ToString AssessmentId := ⟨fun i => UUID.str i.value⟩

inductive AssessmentStatus where
  | draft | ready | running | validated | reported | archived | cancelled
  deriving DecidableEq

def AssessmentStatus.value : AssessmentStatus → String
  | .draft => "DRAFT"
  | .ready => "READY"
  | .running => "RUNNING"
  | .validated => "VALIDATED"
  | .reported => "REPORTED"
  | .archived => "ARCHIVED"
  | .cancelled => "CANCELLED"

instance : ToString AssessmentStatus := ⟨AssessmentStatus.value⟩

def legalTransitions : AssessmentStatus → List AssessmentStatus
  | .draft => [.ready, .cancelled]
  | .ready => [.running, .cancelled]
  | .running => [.validated, .cancelled]
  | .validated => [.reported, .cancelled]
  | .reported => [.archived]
  | .archived => []
  | .cancelled => []

/-! ### Domain events -/

structure AssessmentCreated where
  assessmentId : AssessmentId
  tenantId : TenantId
  hazardType : HazardType
  name : String
  createdBy : UserId
  deriving DecidableEq

structure AssessmentStageAdvanced where
  assessmentId : AssessmentId
  tenantId : TenantId
  fromStatus : AssessmentStatus
  toStatus : AssessmentStatus
  changedBy : String
  deriving DecidableEq

structure AssessmentArchived where
  assessmentId : AssessmentId
  tenantId : TenantId
  archivedBy : String
  deriving DecidableEq

structure AssessmentCancelled where
  assessmentId : AssessmentId
  tenantId : TenantId
  reason : String
  cancelledBy : String
  deriving DecidableEq

structure WorkflowStarted where
  assessmentId : AssessmentId
  tenantId : TenantId
  workflowTemplateId : WorkflowTemplateId
  stageTypes : List StageType
  startedBy : String
  deriving DecidableEq

structure StageExecutionStarted where
  assessmentId : AssessmentId
  tenantId : TenantId
  stageType : StageType
  attempt : ℕ
  triggeredBy : String
  deriving DecidableEq

structure StageExecutionCompleted where
  assessmentId : AssessmentId
  tenantId : TenantId
  stageType : StageType
  stageResultRef : Option String
  deriving DecidableEq

structure StageExecutionFailed where
  assessmentId : AssessmentId
  tenantId : TenantId
  stageType : StageType
  attempt : ℕ
  error : String
  deriving DecidableEq

/-- The events this context writes to the outbox. -/
inductive AssessmentEvent where
  | assessmentCreated (e : AssessmentCreated)
  | stageAdvanced (e : AssessmentStageAdvanced)
  | assessmentArchived (e : AssessmentArchived)
  | assessmentCancelled (e : AssessmentCancelled)
  | templateCreated (e : WorkflowTemplateCreated)
  | templatePublished (e : WorkflowTemplatePublished)
  | workflowStarted (e : WorkflowStarted)
  | stageStarted (e : StageExecutionStarted)
  | stageCompleted (e : StageExecutionCompleted)
  | stageFailed (e : StageExecutionFailed)
  deriving DecidableEq

/-! ### The aggregate -/

structure Assessment where
  id : AssessmentId
  tenantId : TenantId
  name : String
  hazardType : HazardType
  status : AssessmentStatus
  createdBy : UserId
  createdAt : Timestamp
  updatedAt : Timestamp
  cancellationReason : String := ""
  version : ℕ := 0
  workflowTemplateId : Option WorkflowTemplateId := none
  workflowProgress : WorkflowProgress := {}
  deriving DecidableEq

/-- A method call: it may change the aggregate, and returns or raises. -/
abbrev AssessmentM := EStateM AssessmentError Assessment

namespace Assessment

/-- A new draft, under a fresh `id`. -/
def create (id : AssessmentId) (tenantId : TenantId) (name : String) (hazardType : HazardType)
    (createdBy : UserId) (now : Timestamp) :
    Except AssessmentError (Assessment × AssessmentCreated) :=
  if isBlank name then .error ⟨.valueError, "Assessment name must not be blank"⟩
  else .ok ({ id, tenantId, name, hazardType, status := .draft, createdBy, createdAt := now,
              updatedAt := now },
            { assessmentId := id, tenantId, hazardType, name, createdBy })

def transition (newStatus : AssessmentStatus) (changedBy : String) (now : Timestamp) :
    AssessmentM AssessmentStageAdvanced := do
  let self ← get
  if newStatus ∉ legalTransitions self.status then
    throw ⟨.illegalAssessmentStatusTransition,
      s!"Assessment {self.id} cannot transition from {self.status} to {newStatus}"⟩
  set { self with status := newStatus, updatedAt := now }
  return { assessmentId := self.id, tenantId := self.tenantId, fromStatus := self.status,
           toStatus := newStatus, changedBy }

def markReady : String → Timestamp → AssessmentM AssessmentStageAdvanced := transition .ready

def start : String → Timestamp → AssessmentM AssessmentStageAdvanced := transition .running

def markValidated : String → Timestamp → AssessmentM AssessmentStageAdvanced :=
  transition .validated

def markReported : String → Timestamp → AssessmentM AssessmentStageAdvanced := transition .reported

def archive (archivedBy : String) (now : Timestamp) : AssessmentM AssessmentArchived := do
  let self ← get
  if .archived ∉ legalTransitions self.status then
    throw ⟨.illegalAssessmentStatusTransition,
      s!"Assessment {self.id} cannot be archived from status {self.status}"⟩
  set { self with status := .archived, updatedAt := now }
  return { assessmentId := self.id, tenantId := self.tenantId, archivedBy }

def cancel (reason cancelledBy : String) (now : Timestamp) : AssessmentM AssessmentCancelled := do
  let self ← get
  if .cancelled ∉ legalTransitions self.status then
    throw ⟨.illegalAssessmentStatusTransition,
      s!"Assessment {self.id} cannot be cancelled from status {self.status}"⟩
  if isBlank reason then
    throw ⟨.valueError, "A cancellation reason is required"⟩
  set { self with status := .cancelled, cancellationReason := reason, updatedAt := now }
  return { assessmentId := self.id, tenantId := self.tenantId, reason, cancelledBy }

/-- Binds the assessment to a template and resets its progress. -/
def startWorkflow (templateId : WorkflowTemplateId) (stageTypes : Finset StageType)
    (changedBy : String) (now : Timestamp) :
    AssessmentM (AssessmentStageAdvanced × WorkflowStarted) := do
  let transitionEvent ← transition .running changedBy now
  modify fun self => { self with workflowTemplateId := some templateId }
  modify fun self => { self with
    workflowProgress := self.workflowProgress.initialized templateId stageTypes }
  let self ← get
  return (transitionEvent, {
    assessmentId := self.id, tenantId := self.tenantId, workflowTemplateId := templateId
    stageTypes := StageType.sorted.filter (· ∈ stageTypes), startedBy := changedBy })

/-- The part the three stage methods share: an assessment that is running moves one entry on.
    `verb` is the method's word in its error. -/
def moveStage (verb : String) (st : StageType) (newStatus : StageExecutionStatus)
    (ref error : Option String) (now : Timestamp) : AssessmentM StageProgressEntry := do
  let self ← get
  if self.status ≠ .running then
    throw ⟨.illegalAssessmentStatusTransition,
      s!"Assessment {self.id} is not RUNNING (status={self.status}); cannot {verb} stage {st}"⟩
  match (self.workflowProgress.get st).advanceTo newStatus now ref error with
  | .error exc => throw ⟨.illegalStageExecutionTransition, exc⟩
  | .ok newEntry =>
    set { self with
      workflowProgress := self.workflowProgress.withEntry newEntry, updatedAt := now }
    return newEntry

def startStage (st : StageType) (triggeredBy : String) (now : Timestamp) :
    AssessmentM StageExecutionStarted := do
  let newEntry ← moveStage "start" st .running none none now
  let self ← get
  return { assessmentId := self.id, tenantId := self.tenantId, stageType := st
           attempt := newEntry.attemptCount, triggeredBy }

/-- `changedBy` is accepted and not used. -/
def completeStage (st : StageType) (stageResultRef : Option String) (_changedBy : String)
    (now : Timestamp) : AssessmentM StageExecutionCompleted := do
  let _ ← moveStage "complete" st .complete stageResultRef none now
  let self ← get
  return { assessmentId := self.id, tenantId := self.tenantId, stageType := st, stageResultRef }

/-- `changedBy` is accepted and not used. -/
def failStage (st : StageType) (error : String) (_changedBy : String) (now : Timestamp) :
    AssessmentM StageExecutionFailed := do
  let newEntry ← moveStage "fail" st .failed none (some error) now
  let self ← get
  return { assessmentId := self.id, tenantId := self.tenantId, stageType := st
           attempt := newEntry.attemptCount, error }

/-- Running to validated, when every required stage is complete. -/
def advancePastRunning (requiredStageTypes : Finset StageType) (changedBy : String)
    (now : Timestamp) : AssessmentM AssessmentStageAdvanced := do
  let self ← get
  if ¬ self.workflowProgress.allComplete requiredStageTypes then
    throw ⟨.workflowNotComplete, s!"Assessment {self.id} cannot advance past RUNNING: not all " ++
      "required stages are COMPLETE"⟩
  transition .validated changedBy now

end Assessment

/-- No stage of the assessment is running. -/
def NoneRunning (a : Assessment) : Prop := ∀ st, (a.workflowProgress.get st).status ≠ .running

namespace Assessment

/-! ### What each method does -/

section Spec

variable {a a' : Assessment} {s : AssessmentStatus} {st : StageType} {who : String}
  {now : Timestamp} {ref err : Option String}

/-- A computation in sequence succeeds when both parts do. -/
theorem run_bind_ok {ε σ α β : Type} {x : EStateM ε σ α} {f : α → EStateM ε σ β} {b : β}
    {s s' : σ} : (x >>= f).run s = .ok b s' ↔
      ∃ c t, x.run s = .ok c t ∧ (f c).run t = .ok b s' := by
  rw [EStateM.run_bind]
  cases x.run s <;> simp

theorem run_get_bind {ε σ α : Type} (f : σ → EStateM ε σ α) (s : σ) :
    (get >>= f).run s = (f s).run s := by
  rw [EStateM.run_bind, EStateM.run_get]

theorem run_throw {ε σ α : Type} (e : ε) (s : σ) :
    (throw e : EStateM ε σ α).run s = .error e s := rfl

theorem transition_run (s : AssessmentStatus) (who : String) (now : Timestamp) (a : Assessment) :
    (transition s who now).run a =
      if s ∈ legalTransitions a.status then
        .ok { assessmentId := a.id, tenantId := a.tenantId, fromStatus := a.status, toStatus := s,
              changedBy := who } { a with status := s, updatedAt := now }
      else .error ⟨.illegalAssessmentStatusTransition,
        s!"Assessment {a.id} cannot transition from {a.status} to {s}"⟩ a := by
  by_cases h : s ∈ legalTransitions a.status <;> simp [transition, h]

theorem moveStage_run (verb : String) (st : StageType) (s : StageExecutionStatus)
    (ref err : Option String) (now : Timestamp) (a : Assessment) :
    (moveStage verb st s ref err now).run a =
      if a.status ≠ .running then .error ⟨.illegalAssessmentStatusTransition,
        s!"Assessment {a.id} is not RUNNING (status={a.status}); cannot {verb} stage {st}"⟩ a
      else match (a.workflowProgress.get st).advanceTo s now ref err with
        | .error exc => .error ⟨.illegalStageExecutionTransition, exc⟩ a
        | .ok e => .ok e { a with
            workflowProgress := a.workflowProgress.withEntry e, updatedAt := now } := by
  by_cases h : a.status = .running
  · cases he : (a.workflowProgress.get st).advanceTo s now ref err <;>
      simp [moveStage, h, he, run_throw]
  · simp [moveStage, h]

theorem transition_ok (who : String) : (∃ ev, (transition s who now).run a = .ok ev a') ↔
    s ∈ legalTransitions a.status ∧ a' = { a with status := s, updatedAt := now } := by
  rw [transition_run]
  split <;> simp_all [eq_comm]

theorem archive_ok : (∃ ev, (archive who now).run a = .ok ev a') ↔
    .archived ∈ legalTransitions a.status ∧ a' = { a with status := .archived, updatedAt := now } := by
  by_cases h : AssessmentStatus.archived ∈ legalTransitions a.status <;>
    simp [archive, h, eq_comm]

theorem cancel_ok {reason : String} : (∃ ev, (cancel reason who now).run a = .ok ev a') ↔
    .cancelled ∈ legalTransitions a.status ∧ isBlank reason = false ∧
      a' = { a with status := .cancelled, cancellationReason := reason, updatedAt := now } := by
  by_cases h : AssessmentStatus.cancelled ∈ legalTransitions a.status <;>
    cases hb : isBlank reason <;> simp [cancel, h, hb, eq_comm]

theorem startWorkflow_ok (id : WorkflowTemplateId) (sts : Finset StageType) (who : String)
    (now : Timestamp) :
    (∃ ev, (startWorkflow id sts who now).run a = .ok ev a') ↔
      .running ∈ legalTransitions a.status ∧
        a' = { a with status := .running, updatedAt := now, workflowTemplateId := some id
                      workflowProgress := a.workflowProgress.initialized id sts } := by
  by_cases h : AssessmentStatus.running ∈ legalTransitions a.status <;>
    simp [startWorkflow, transition_run, h, eq_comm]

theorem moveStage_ok {verb : String} {s : StageExecutionStatus} {e : StageProgressEntry} :
    (moveStage verb st s ref err now).run a = .ok e a' ↔ a.status = .running ∧
      (a.workflowProgress.get st).advanceTo s now ref err = .ok e ∧
        a' = { a with workflowProgress := a.workflowProgress.withEntry e, updatedAt := now } := by
  rw [moveStage_run]
  by_cases h : a.status = .running
  · cases he : (a.workflowProgress.get st).advanceTo s now ref err with
    | error exc => simp [h]
    | ok e' =>
      simp only [h, ne_eq, not_true_eq_false, if_false, EStateM.Result.ok.injEq, Except.ok.injEq,
        true_and]
      constructor
      · rintro ⟨rfl, rfl⟩; exact ⟨rfl, rfl⟩
      · rintro ⟨rfl, rfl⟩; exact ⟨rfl, rfl⟩
  · simp [h]

/-- The aggregate with one entry replaced. -/
def withStage (a : Assessment) (e : StageProgressEntry) (now : Timestamp) : Assessment :=
  { a with workflowProgress := a.workflowProgress.withEntry e, updatedAt := now }

@[simp] theorem withStage_status (a : Assessment) (e : StageProgressEntry) (now : Timestamp) :
    (a.withStage e now).status = a.status := rfl

@[simp] theorem withStage_template (a : Assessment) (e : StageProgressEntry) (now : Timestamp) :
    (a.withStage e now).workflowTemplateId = a.workflowTemplateId := rfl

theorem withStage_get (a : Assessment) (e : StageProgressEntry) (now : Timestamp)
    (st : StageType) : (a.withStage e now).workflowProgress.get st =
      if st = e.stageType then e else a.workflowProgress.get st :=
  WorkflowProgress.get_withEntry _ _ _

theorem startStage_ok : (∃ ev, (startStage st who now).run a = .ok ev a') ↔
    a.status = .running ∧ (a.workflowProgress.get st).Startable ∧
      a' = a.withStage ((a.workflowProgress.get st).started now) now := by
  simp only [startStage, run_bind_ok, moveStage_ok, StageProgressEntry.advanceTo_running]
  constructor
  · rintro ⟨ev, e, a1, ⟨hs, ⟨he, rfl⟩, rfl⟩, a2, a3, h2, h3⟩
    cases h2; cases h3
    exact ⟨hs, he, rfl⟩
  · rintro ⟨hs, he, rfl⟩
    exact ⟨_, _, _, ⟨hs, ⟨he, rfl⟩, rfl⟩, _, _, rfl, rfl⟩

theorem completeStage_ok : (∃ ev, (completeStage st ref who now).run a = .ok ev a') ↔
    a.status = .running ∧ (a.workflowProgress.get st).status = .running ∧
      a' = a.withStage ((a.workflowProgress.get st).completed now ref) now := by
  simp only [completeStage, run_bind_ok, moveStage_ok, StageProgressEntry.advanceTo_complete]
  constructor
  · rintro ⟨ev, e, a1, ⟨hs, ⟨he, rfl⟩, rfl⟩, a2, a3, h2, h3⟩
    cases h2; cases h3
    exact ⟨hs, he, rfl⟩
  · rintro ⟨hs, he, rfl⟩
    exact ⟨_, _, _, ⟨hs, ⟨he, rfl⟩, rfl⟩, _, _, rfl, rfl⟩

theorem failStage_ok {error : String} : (∃ ev, (failStage st error who now).run a = .ok ev a') ↔
    a.status = .running ∧ (a.workflowProgress.get st).status = .running ∧
      a' = a.withStage ((a.workflowProgress.get st).failedWith (some error)) now := by
  simp only [failStage, run_bind_ok, moveStage_ok, StageProgressEntry.advanceTo_failed]
  constructor
  · rintro ⟨ev, e, a1, ⟨hs, ⟨he, rfl⟩, rfl⟩, a2, a3, h2, h3⟩
    cases h2; cases h3
    exact ⟨hs, he, rfl⟩
  · rintro ⟨hs, he, rfl⟩
    exact ⟨_, _, _, ⟨hs, ⟨he, rfl⟩, rfl⟩, _, _, rfl, rfl⟩

theorem advancePastRunning_ok {sts : Finset StageType} :
    (∃ ev, (advancePastRunning sts who now).run a = .ok ev a') ↔
      a.workflowProgress.allComplete sts ∧ .validated ∈ legalTransitions a.status ∧
        a' = { a with status := .validated, updatedAt := now } := by
  rw [← transition_ok who]
  by_cases h : a.workflowProgress.allComplete sts
  · simp only [h, true_and]
    refine exists_congr fun ev => ?_
    simp [advancePastRunning, h]
  · simp [advancePastRunning, h]

theorem validated_legal_iff : .validated ∈ legalTransitions a.status ↔ a.status = .running := by
  cases a.status <;> simp [legalTransitions]

theorem running_legal_iff : .running ∈ legalTransitions a.status ↔ a.status = .ready := by
  cases a.status <;> simp [legalTransitions]

end Spec

end Assessment

end GeoRisk.Orchestration
