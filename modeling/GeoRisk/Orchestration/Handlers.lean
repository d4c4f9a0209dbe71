import Mathlib
import GeoRisk.Lib.Table
import GeoRisk.Orchestration.Entity

/-! The command handlers over the tables of the assessment context. A handler is one transaction:

        load ▶ tenant check ▶ entity method ▶ save (version check) ▶ append events ▶ commit

    and a handler that raises rolls back, so it returns the new tables or an error and nothing in
    between. `Command.Effect` says what each command does to the row it is aimed at; `handle_ok`
    says that it does nothing else. -/

namespace GeoRisk.Orchestration

/-- The tables of the context, and the outbox. -/
structure Db where
  assessments : Lib.Table Assessment.id
  workflowTemplates : Lib.Table WorkflowTemplate.id
  outbox : List (OutboxEvent AssessmentEvent)

/-- The assessment a request is aimed at, and the tenant it comes from. -/
structure Target where
  tenantId : TenantId
  assessmentId : Spelled AssessmentId

namespace Db

def empty : Db := ⟨.empty, .empty, []⟩

/-- `SqlAlchemyAssessmentRepository.save`. -/
def saveAssessment (db : Db) (assessment : Assessment) (expectedVersion : Option ℕ) :
    Except AssessmentError Db :=
  match db.assessments.get assessment.id with
  | none => .ok { db with assessments := db.assessments.put { assessment with version := 0 } }
  | some model =>
    if expectedVersion.any (model.version ≠ ·) then
      .error ⟨.optimisticConcurrency, s!"Assessment {assessment.id} was modified concurrently " ++
        s!"(expected version {expectedVersion.getD 0}, found {model.version})"⟩
    else .ok { db with
      assessments := db.assessments.put { assessment with version := model.version + 1 } }

/-- `SqlAlchemyWorkflowTemplateRepository.save`. -/
def saveTemplate (db : Db) (template : WorkflowTemplate) : Db :=
  { db with workflowTemplates := db.workflowTemplates.put template }

/-- Appends the events of one assessment, in order. -/
def appendEvents (db : Db) (id : AssessmentId) (events : List AssessmentEvent)
    (tenantId : TenantId) (now : Timestamp) : Db :=
  { db with outbox := events.foldl (fun outbox event =>
      appendEvent outbox "Assessment" (toString id) event (some tenantId) now) db.outbox }

/-- Appends the event of a template, which belongs to no tenant. -/
def appendTemplateEvent (db : Db) (id : WorkflowTemplateId) (event : AssessmentEvent)
    (now : Timestamp) : Db :=
  { db with outbox := appendEvent db.outbox "WorkflowTemplate" (toString id) event none now }

end Db

/-! ### Commands on an assessment -/

def assertSameTenant (assessment : Assessment) (tenantId : TenantId) : Except AssessmentError Unit :=
  if assessment.tenantId ≠ tenantId then
    .error ⟨.assessmentNotFound, s!"Assessment {assessment.id} not found"⟩
  else .ok ()

def loadOr404 (db : Db) (target : Target) : Except AssessmentError Assessment :=
  match db.assessments.get target.assessmentId.id with
  | none => .error ⟨.assessmentNotFound, s!"Assessment {target.assessmentId.text} not found"⟩
  | some assessment => do
    assertSameTenant assessment target.tenantId
    return assessment

/-- What a handler does between loading an assessment and saving it; it may read the tables. -/
abbrev Body := Timestamp → Db → AssessmentM (List AssessmentEvent)

def markAssessmentReady (changedBy : String) : Body := fun now _ => do
  return [.stageAdvanced (← Assessment.markReady changedBy now)]

def startAssessment (changedBy : String) : Body := fun now _ => do
  return [.stageAdvanced (← Assessment.start changedBy now)]

def validateAssessment (changedBy : String) : Body := fun now _ => do
  return [.stageAdvanced (← Assessment.markValidated changedBy now)]

def reportAssessment (changedBy : String) : Body := fun now _ => do
  return [.stageAdvanced (← Assessment.markReported changedBy now)]

def archiveAssessment (archivedBy : String) : Body := fun now _ => do
  return [.assessmentArchived (← Assessment.archive archivedBy now)]

def cancelAssessment (reason cancelledBy : String) : Body := fun now _ => do
  return [.assessmentCancelled (← Assessment.cancel reason cancelledBy now)]

def startWorkflow (workflowTemplateId : Spelled WorkflowTemplateId) (actor : String) : Body :=
  fun now db => do
    let assessment ← get
    match db.workflowTemplates.get workflowTemplateId.id with
    | none => throw ⟨.workflowTemplateNotFound,
        s!"WorkflowTemplate {workflowTemplateId.text} not found"⟩
    | some template =>
      if template.status ≠ .published then
        throw ⟨.guardRejected, s!"WorkflowTemplate {template.id} is not PUBLISHED"⟩
      if template.hazardType ≠ assessment.hazardType then
        throw ⟨.guardRejected,
          s!"WorkflowTemplate {template.id} hazard_type ({template.hazardType}) does not " ++
          s!"match Assessment {assessment.id} hazard_type ({assessment.hazardType})"⟩
      let (transitionEvent, startedEvent) ←
        Assessment.startWorkflow template.id template.requiredStageTypes actor now
      return [.stageAdvanced transitionEvent, .workflowStarted startedEvent]

def executeStage (stageType : StageType) (actor : String) : Body := fun now _ => do
  return [.stageStarted (← Assessment.startStage stageType actor now)]

def recordStageCompletion (stageType : StageType) (stageResultRef : Option String)
    (actor : String) : Body := fun now _ => do
  return [.stageCompleted (← Assessment.completeStage stageType stageResultRef actor now)]

def recordStageFailure (stageType : StageType) (error : String) (actor : String) : Body :=
  fun now _ => do
    return [.stageFailed (← Assessment.failStage stageType error actor now)]

def advanceAssessment (actor : String) : Body := fun now db => do
  let assessment ← get
  match assessment.workflowTemplateId with
  | none => throw ⟨.guardRejected, s!"Assessment {assessment.id} has no workflow bound"⟩
  | some templateId =>
    match db.workflowTemplates.get templateId with
    | none => throw ⟨.workflowTemplateNotFound, s!"WorkflowTemplate {templateId} not found"⟩
    | some template =>
      return [.stageAdvanced
        (← Assessment.advancePastRunning template.requiredStageTypes actor now)]

/-- The commands on an existing assessment. -/
inductive Command where
  | markAssessmentReady (changedBy : String)
  | startAssessment (changedBy : String)
  | validateAssessment (changedBy : String)
  | reportAssessment (changedBy : String)
  | archiveAssessment (archivedBy : String)
  | cancelAssessment (reason cancelledBy : String)
  | startWorkflow (workflowTemplateId : Spelled WorkflowTemplateId) (actor : String)
  | executeStage (stageType : StageType) (actor : String)
  | recordStageCompletion (stageType : StageType) (stageResultRef : Option String) (actor : String)
  | recordStageFailure (stageType : StageType) (error actor : String)
  | advanceAssessment (actor : String)

def Command.body : Command → Body
  | .markAssessmentReady who => Orchestration.markAssessmentReady who
  | .startAssessment who => Orchestration.startAssessment who
  | .validateAssessment who => Orchestration.validateAssessment who
  | .reportAssessment who => Orchestration.reportAssessment who
  | .archiveAssessment who => Orchestration.archiveAssessment who
  | .cancelAssessment reason who => Orchestration.cancelAssessment reason who
  | .startWorkflow templateId who => Orchestration.startWorkflow templateId who
  | .executeStage st who => Orchestration.executeStage st who
  | .recordStageCompletion st ref who => Orchestration.recordStageCompletion st ref who
  | .recordStageFailure st error who => Orchestration.recordStageFailure st error who
  | .advanceAssessment who => Orchestration.advanceAssessment who

/-- A handler's transaction: the tables it commits and the assessment it returns, or what it
    raises. -/
def handle (c : Command) (target : Target) (now : Timestamp) (db : Db) :
    Except AssessmentError (Db × Assessment) := do
  let loaded ← loadOr404 db target
  match (c.body now db).run loaded with
  | .error e _ => throw e
  | .ok events assessment =>
    let db ← db.saveAssessment assessment (some assessment.version)
    return (db.appendEvents assessment.id events target.tenantId now, assessment)

/-! ### Authoring -/

/-- A new draft assessment, under a fresh `id`. -/
def createAssessment (id : AssessmentId) (tenantId : TenantId) (name : String)
    (hazardType : HazardType) (createdBy : UserId) (now : Timestamp) (db : Db) :
    Except AssessmentError (Db × Assessment) := do
  let (assessment, event) ← Assessment.create id tenantId name hazardType createdBy now
  let db ← db.saveAssessment assessment none
  return (db.appendEvents assessment.id [.assessmentCreated event] tenantId now, assessment)

/-- A new draft template, under a fresh `id`; its version is always the first. -/
def createWorkflowTemplate (id : WorkflowTemplateId) (hazardType : HazardType) (name : String)
    (stageDefinitions : List StageDefinition) (now : Timestamp) (db : Db) :
    Except AssessmentError (Db × WorkflowTemplate) := do
  let (template, event) ← WorkflowTemplate.create id hazardType name stageDefinitions 1 now
  return ((db.saveTemplate template).appendTemplateEvent template.id (.templateCreated event) now,
    template)

def publishWorkflowTemplate (id : Spelled WorkflowTemplateId) (now : Timestamp) (db : Db) :
    Except AssessmentError (Db × WorkflowTemplate) :=
  match db.workflowTemplates.get id.id with
  | none => .error ⟨.workflowTemplateNotFound, s!"WorkflowTemplate {id.text} not found"⟩
  | some template => do
    let (template, event) ← template.publish
    return ((db.saveTemplate template).appendTemplateEvent template.id
      (.templatePublished event) now, template)

/-! ### What a command does to its row -/

section Effect

variable {c : Command} {target : Target} {now : Timestamp} {db db' : Db} {a a' : Assessment}
  {events : List AssessmentEvent}

/-- A command succeeds on `a` and turns it into `a'`, reading templates from `db`. -/
def Command.Effect (now : Timestamp) (db : Db) (a a' : Assessment) : Command → Prop
  | .markAssessmentReady _ =>
    .ready ∈ legalTransitions a.status ∧ a' = { a with status := .ready, updatedAt := now }
  | .startAssessment _ =>
    .running ∈ legalTransitions a.status ∧ a' = { a with status := .running, updatedAt := now }
  | .validateAssessment _ =>
    .validated ∈ legalTransitions a.status ∧ a' = { a with status := .validated, updatedAt := now }
  | .reportAssessment _ =>
    .reported ∈ legalTransitions a.status ∧ a' = { a with status := .reported, updatedAt := now }
  | .archiveAssessment _ =>
    .archived ∈ legalTransitions a.status ∧ a' = { a with status := .archived, updatedAt := now }
  | .cancelAssessment reason _ =>
    .cancelled ∈ legalTransitions a.status ∧ isBlank reason = false ∧
      a' = { a with status := .cancelled, cancellationReason := reason, updatedAt := now }
  | .startWorkflow templateId _ =>
    ∃ T, db.workflowTemplates.get templateId.id = some T ∧ T.status = .published ∧
      T.hazardType = a.hazardType ∧ .running ∈ legalTransitions a.status ∧
      a' = { a with
        status := .running, updatedAt := now, workflowTemplateId := some T.id
        workflowProgress := a.workflowProgress.initialized T.id T.requiredStageTypes }
  | .executeStage st _ => a.status = .running ∧ (a.workflowProgress.get st).Startable ∧
      a' = a.withStage ((a.workflowProgress.get st).started now) now
  | .recordStageCompletion st ref _ =>
    a.status = .running ∧ (a.workflowProgress.get st).status = .running ∧
      a' = a.withStage ((a.workflowProgress.get st).completed now ref) now
  | .recordStageFailure st error _ =>
    a.status = .running ∧ (a.workflowProgress.get st).status = .running ∧
      a' = a.withStage ((a.workflowProgress.get st).failedWith (some error)) now
  | .advanceAssessment _ =>
    ∃ id T, a.workflowTemplateId = some id ∧ db.workflowTemplates.get id = some T ∧
      a.workflowProgress.allComplete T.requiredStageTypes ∧
      .validated ∈ legalTransitions a.status ∧
      a' = { a with status := .validated, updatedAt := now }

open Assessment (run_get_bind run_throw)

/-- A body that only wraps the event of one method. -/
theorem wrap_ok {ε : Type} {f : ε → AssessmentEvent} {m : AssessmentM ε} {x : Assessment} :
    (∃ events, (do return [f (← m)] : AssessmentM (List AssessmentEvent)).run x = .ok events a') ↔
      ∃ ev, m.run x = .ok ev a' := by
  rw [EStateM.run_bind]
  cases m.run x <;> simp

theorem body_ok : (∃ events, (c.body now db).run a = .ok events a') ↔ c.Effect now db a a' := by
  cases c with
  | markAssessmentReady who => exact wrap_ok.trans (Assessment.transition_ok who)
  | startAssessment who => exact wrap_ok.trans (Assessment.transition_ok who)
  | validateAssessment who => exact wrap_ok.trans (Assessment.transition_ok who)
  | reportAssessment who => exact wrap_ok.trans (Assessment.transition_ok who)
  | archiveAssessment who => exact wrap_ok.trans Assessment.archive_ok
  | cancelAssessment reason who => exact wrap_ok.trans Assessment.cancel_ok
  | executeStage st who => exact wrap_ok.trans Assessment.startStage_ok
  | recordStageCompletion st ref who => exact wrap_ok.trans Assessment.completeStage_ok
  | recordStageFailure st error who => exact wrap_ok.trans Assessment.failStage_ok
  | startWorkflow templateId who =>
    simp only [Command.body, Orchestration.startWorkflow, Command.Effect, run_get_bind]
    cases hT : db.workflowTemplates.get templateId.id with
    | none => simp [run_throw]
    | some T =>
      by_cases hp : T.status = .published <;> by_cases hh : T.hazardType = a.hazardType <;>
        simp only [EStateM.run_bind, hp, hh, ne_eq, not_true_eq_false, not_false_eq_true, if_true,
          if_false, run_throw, reduceCtorEq, exists_false, false_and, and_false,
          Option.some.injEq, exists_eq_left', true_and]
      rw [← Assessment.startWorkflow_ok T.id T.requiredStageTypes who now]
      cases (Assessment.startWorkflow T.id T.requiredStageTypes who now).run a <;> simp
  | advanceAssessment who =>
    simp only [Command.body, Orchestration.advanceAssessment, Command.Effect, run_get_bind]
    cases hid : a.workflowTemplateId with
    | none => simp [run_throw]
    | some id =>
      cases hT : db.workflowTemplates.get id with
      | none => simp [hT, run_throw]
      | some T =>
        simp only [hT, Option.some.injEq, exists_and_left, exists_eq_left']
        rw [← hid]
        exact wrap_ok.trans Assessment.advancePastRunning_ok

/-- What no command changes. -/
structure SameIdentity (a a' : Assessment) : Prop where
  id : a'.id = a.id
  tenantId : a'.tenantId = a.tenantId
  hazardType : a'.hazardType = a.hazardType
  version : a'.version = a.version

theorem Command.Effect.same (h : c.Effect now db a a') : SameIdentity a a' := by
  cases c with
  | startWorkflow templateId who => obtain ⟨T, _, _, _, _, rfl⟩ := h; exact ⟨rfl, rfl, rfl, rfl⟩
  | advanceAssessment who => obtain ⟨id, T, _, _, _, _, rfl⟩ := h; exact ⟨rfl, rfl, rfl, rfl⟩
  | cancelAssessment reason who => obtain ⟨_, _, rfl⟩ := h; exact ⟨rfl, rfl, rfl, rfl⟩
  | executeStage st who => obtain ⟨_, _, rfl⟩ := h; exact ⟨rfl, rfl, rfl, rfl⟩
  | recordStageCompletion st ref who => obtain ⟨_, _, rfl⟩ := h; exact ⟨rfl, rfl, rfl, rfl⟩
  | recordStageFailure st error who => obtain ⟨_, _, rfl⟩ := h; exact ⟨rfl, rfl, rfl, rfl⟩
  | _ => obtain ⟨_, rfl⟩ := h; exact ⟨rfl, rfl, rfl, rfl⟩

theorem loadOr404_ok : loadOr404 db target = .ok a ↔
    db.assessments.get target.assessmentId.id = some a ∧ a.tenantId = target.tenantId := by
  unfold loadOr404
  cases h : db.assessments.get target.assessmentId.id with
  | none => simp
  | some b =>
    by_cases ht : b.tenantId = target.tenantId <;>
      simp [assertSameTenant, ht, bind, Except.bind, pure, Except.pure]
    · rintro rfl; exact ht
    · rintro rfl; exact ht

/-- A row as saved over the version it was loaded at. -/
def Assessment.saved (a : Assessment) : Assessment := { a with version := a.version + 1 }

@[simp] theorem Assessment.saved_status (a : Assessment) : a.saved.status = a.status := rfl

@[simp] theorem Assessment.saved_template (a : Assessment) :
    a.saved.workflowTemplateId = a.workflowTemplateId := rfl

@[simp] theorem Assessment.saved_progress (a : Assessment) :
    a.saved.workflowProgress = a.workflowProgress := rfl

/-- The tables after a command that turned the loaded row into `a'`. -/
def Db.commit (db : Db) (target : Target) (a' : Assessment) (events : List AssessmentEvent)
    (now : Timestamp) : Db :=
  { db with
    assessments := db.assessments.put a'.saved
    outbox := (db.appendEvents a'.id events target.tenantId now).outbox }

/-- A command commits iff its row is there, of the right tenant, and its body succeeds on it. The
    version check compares the row with itself and never fails. -/
theorem handle_ok : handle c target now db = .ok (db', a') ↔
    ∃ a events, db.assessments.get target.assessmentId.id = some a ∧ a.tenantId = target.tenantId ∧
      (c.body now db).run a = .ok events a' ∧ db' = db.commit target a' events now := by
  unfold handle
  cases hl : loadOr404 db target with
  | error e =>
    have hno : ∀ a, ¬ (db.assessments.get target.assessmentId.id = some a ∧
        a.tenantId = target.tenantId) := fun a ha => by simp [loadOr404_ok.mpr ha] at hl
    simp only [bind, Except.bind, reduceCtorEq, false_iff]
    rintro ⟨a, events, h1, h2, _⟩
    exact hno a ⟨h1, h2⟩
  | ok b =>
    obtain ⟨hb, ht⟩ := loadOr404_ok.mp hl
    simp only [bind, Except.bind, hb, Option.some.injEq]
    constructor
    · intro h
      cases hr : (c.body now db).run b with
      | error e s => simp [hr, throw, throwThe, MonadExceptOf.throw] at h
      | ok events b' =>
        have hsame := (body_ok.mp ⟨events, hr⟩).same
        have hget : db.assessments.get b'.id = some b := by
          rw [hsame.id, Lib.Table.key_of_get hb, hb]
        simp only [hr, Db.saveAssessment, hget, hsame.version, Option.any_some, ne_eq,
          not_true_eq_false, decide_false, Bool.false_eq_true, if_false, pure, Except.pure,
          Except.ok.injEq, Prod.mk.injEq] at h
        obtain ⟨rfl, rfl⟩ := h
        refine ⟨b, events, rfl, ht, hr, ?_⟩
        simp [Db.commit, Db.appendEvents, Assessment.saved, hsame.version]
    · rintro ⟨a, events, rfl, _, hr, rfl⟩
      have hsame := (body_ok.mp ⟨events, hr⟩).same
      have hget : db.assessments.get a'.id = some b := by
        rw [hsame.id, Lib.Table.key_of_get hb, hb]
      simp [hr, Db.saveAssessment, hget, hsame.version, pure, Except.pure, Db.commit,
        Db.appendEvents, Assessment.saved]

/-- `db'` is `db` with the row of `target` replaced by `a'`; the outbox may have grown. -/
structure RowReplaced (target : Target) (db db' : Db) (a' : Assessment) : Prop where
  get : ∀ id, db'.assessments.get id =
    if id = target.assessmentId.id then some a' else db.assessments.get id
  templates : db'.workflowTemplates = db.workflowTemplates

theorem RowReplaced.refl (h : db.assessments.get target.assessmentId.id = some a) :
    RowReplaced target db db a := by
  refine ⟨fun id => ?_, rfl⟩
  split
  · next hid => rw [hid, h]
  · rfl

theorem RowReplaced.get_self (h : RowReplaced target db db' a') :
    db'.assessments.get target.assessmentId.id = some a' := by
  rw [h.get, if_pos rfl]

/-- The row a request may act on: it is there and of the request's tenant. -/
def Db.Row (db : Db) (target : Target) (a : Assessment) : Prop :=
  db.assessments.get target.assessmentId.id = some a ∧ a.tenantId = target.tenantId

theorem commit_replaced (h : db.Row target a) (hid : a'.id = a.id) :
    RowReplaced target db (db.commit target a' events now) a'.saved := by
  refine ⟨fun id => ?_, rfl⟩
  have hk : a'.saved.id = target.assessmentId.id := hid.trans (Lib.Table.key_of_get h.1)
  rw [← hk]
  exact Lib.Table.get_put _ _ _

/-- A command that commits replaces its row as its effect says, and nothing else. -/
theorem handle_effect (h : handle c target now db = .ok (db', a')) : ∃ a, db.Row target a ∧
    c.Effect now db a a' ∧ RowReplaced target db db' a'.saved := by
  obtain ⟨a, events, hget, ht, hr, rfl⟩ := handle_ok.mp h
  have heff := body_ok.mp ⟨events, hr⟩
  exact ⟨a, ⟨hget, ht⟩, heff, commit_replaced ⟨hget, ht⟩ heff.same.id⟩

/-- A command whose effect is possible on its row commits it. -/
theorem handle_of_effect (ha : db.Row target a) (h : c.Effect now db a a') :
    ∃ db', handle c target now db = .ok (db', a') ∧ RowReplaced target db db' a'.saved := by
  obtain ⟨events, hr⟩ := body_ok.mpr h
  exact ⟨_, handle_ok.mpr ⟨a, events, ha.1, ha.2, hr, rfl⟩, commit_replaced ha h.same.id⟩

/-- A command whose effect is not possible raises. -/
theorem handle_error (ha : db.Row target a) (h : ∀ a', ¬ c.Effect now db a a') :
    ∃ e, handle c target now db = .error e := by
  cases hh : handle c target now db with
  | error e => exact ⟨e, rfl⟩
  | ok r =>
    obtain ⟨db', a'⟩ := r
    obtain ⟨b, hb, heff, _⟩ := handle_effect hh
    obtain rfl : a = b := by simpa [ha.1] using hb.1
    exact absurd heff (h _)

end Effect

end GeoRisk.Orchestration
