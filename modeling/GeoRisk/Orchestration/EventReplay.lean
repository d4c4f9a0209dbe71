import GeoRisk.EventLog
import GeoRisk.Lib.Replay
import GeoRisk.Orchestration.Handlers
import GeoRisk.Uuid

/-! The events of an assessment tell what has become of it. Each of them is applied to what the events
    before it have told:

        AssessmentStageAdvanced   the status
        WorkflowStarted           the template, and every stage as never started
        StageExecutionStarted     one stage: running, the attempt, no error
        StageExecutionCompleted   one stage: complete, its result
        StageExecutionFailed      one stage: failed, its error

    `body_events` is the step lemma: what a command writes carries the look of the row it loads to
    the look of the row it saves. -/

namespace GeoRisk.Orchestration

/-! ### What events tell -/

structure StageView where
  status : StageExecutionStatus
  attemptCount : ℕ
  stageResultRef : Option String
  lastError : Option String
  deriving DecidableEq

def StageView.notStarted : StageView := ⟨.notStarted, 0, none, none⟩

@[ext] structure AssessmentView where
  status : AssessmentStatus
  cancellationReason : String
  workflowTemplateId : Option WorkflowTemplateId
  stage : StageType → StageView

namespace AssessmentView

def created : AssessmentView := ⟨.draft, "", none, fun _ => .notStarted⟩

def update (view : AssessmentView) (st : StageType) (f : StageView → StageView) :
    AssessmentView :=
  { view with stage := Function.update view.stage st (f (view.stage st)) }

/-- The log of an assessment begins with its creation. -/
def start : AssessmentEvent → Option AssessmentView
  | .assessmentCreated _ => some created
  | _ => none

def apply (view : AssessmentView) : AssessmentEvent → AssessmentView
  | .stageAdvanced e => { view with status := e.toStatus }
  | .assessmentArchived _ => { view with status := .archived }
  | .assessmentCancelled e => { view with status := .cancelled, cancellationReason := e.reason }
  | .workflowStarted e =>
    { view with workflowTemplateId := some e.workflowTemplateId, stage := fun _ => .notStarted }
  | .stageStarted e => view.update e.stageType fun stage =>
    { stage with status := .running, attemptCount := e.attempt, lastError := none }
  | .stageCompleted e => view.update e.stageType fun stage =>
    { stage with status := .complete, stageResultRef := e.stageResultRef }
  | .stageFailed e => view.update e.stageType fun stage =>
    { stage with status := .failed, attemptCount := e.attempt, lastError := some e.error }
  | .assessmentCreated _ | .templateCreated _ | .templatePublished _ => view

end AssessmentView

/-- What the events of an assessment tell of it, in the order of their sequence numbers. -/
def replayed (db : Db) (id : AssessmentId) : Option AssessmentView :=
  Lib.replay AssessmentView.start AssessmentView.apply
    (eventsOf db.outbox "Assessment" (toString id))

/-! ### What there is to tell -/

def StageProgressEntry.view (e : StageProgressEntry) : StageView :=
  ⟨e.status, e.attemptCount, e.stageResultRef, e.lastError⟩

def Assessment.view (a : Assessment) : AssessmentView where
  status := a.status
  cancellationReason := a.cancellationReason
  workflowTemplateId := a.workflowTemplateId
  stage st := (a.workflowProgress.get st).view

/-- The version counter is nothing the events tell of. -/
@[simp] theorem Assessment.saved_view (a : Assessment) : a.saved.view = a.view := rfl

section Step

variable {a a' : Assessment} {s : AssessmentStatus} {st : StageType} {who : String}
  {now : Timestamp} {db : Db} {c : Command} {events : List AssessmentEvent}

theorem Assessment.view_withStage (a : Assessment) (e : StageProgressEntry) (now : Timestamp) :
    (a.withStage e now).view = a.view.update e.stageType fun _ => e.view := by
  ext : 1
  · rfl
  · rfl
  · rfl
  · funext st
    show ((a.withStage e now).workflowProgress.get st).view =
      Function.update a.view.stage e.stageType e.view st
    rw [Assessment.withStage_get, Function.update_apply]
    split <;> rfl

theorem Assessment.view_startWorkflow (a : Assessment) (templateId : WorkflowTemplateId)
    (sts : Finset StageType) (now : Timestamp) :
    ({ a with
        status := .running, updatedAt := now, workflowTemplateId := some templateId
        workflowProgress := a.workflowProgress.initialized templateId sts } : Assessment).view =
      ⟨.running, a.cancellationReason, some templateId, fun _ => .notStarted⟩ := by
  ext : 1
  · rfl
  · rfl
  · rfl
  · funext st
    show ((a.workflowProgress.initialized templateId sts).get st).view = .notStarted
    rw [WorkflowProgress.get_initialized]
    rfl

theorem wrap_events {ε : Type} {f : ε → AssessmentEvent} {m : AssessmentM ε} :
    (do return [f (← m)] : AssessmentM (List AssessmentEvent)).run a = .ok events a' ↔
      ∃ ev, m.run a = .ok ev a' ∧ events = [f ev] := by
  rw [EStateM.run_bind]
  cases m.run a <;> simp [eq_comm, and_comm]

theorem transition_event {ev : AssessmentStageAdvanced}
    (h : (Assessment.transition s who now).run a = .ok ev a') :
    ev.toStatus = s ∧ a' = { a with status := s, updatedAt := now } := by
  rw [Assessment.transition_run] at h
  split at h
  · cases h
    exact ⟨rfl, rfl⟩
  · cases h

theorem archive_event {ev : AssessmentArchived}
    (h : (Assessment.archive who now).run a = .ok ev a') :
    a' = { a with status := .archived, updatedAt := now } :=
  (Assessment.archive_ok.mp ⟨ev, h⟩).2

theorem cancel_event {reason : String} {ev : AssessmentCancelled}
    (h : (Assessment.cancel reason who now).run a = .ok ev a') : ev.reason = reason ∧
      a' = { a with status := .cancelled, cancellationReason := reason, updatedAt := now } := by
  refine ⟨?_, (Assessment.cancel_ok.mp ⟨ev, h⟩).2.2⟩
  by_cases hlegal : AssessmentStatus.cancelled ∈ legalTransitions a.status <;>
    cases hblank : isBlank reason <;> simp [Assessment.cancel, hlegal, hblank] at h
  rw [← h.1]

theorem startStage_event {ev : StageExecutionStarted}
    (h : (Assessment.startStage st who now).run a = .ok ev a') :
    ev.stageType = st ∧ ev.attempt = (a.workflowProgress.get st).attemptCount + 1 ∧
      a' = a.withStage ((a.workflowProgress.get st).started now) now := by
  obtain ⟨e, a₁, hmove, hrest⟩ := Assessment.run_bind_ok.mp h
  obtain ⟨_, he, rfl⟩ := Assessment.moveStage_ok.mp hmove
  obtain ⟨_, rfl⟩ := StageProgressEntry.advanceTo_running.mp he
  cases hrest
  exact ⟨rfl, rfl, rfl⟩

theorem completeStage_event {ref : Option String} {ev : StageExecutionCompleted}
    (h : (Assessment.completeStage st ref who now).run a = .ok ev a') :
    ev.stageType = st ∧ ev.stageResultRef = ref ∧
      a' = a.withStage ((a.workflowProgress.get st).completed now ref) now := by
  obtain ⟨e, a₁, hmove, hrest⟩ := Assessment.run_bind_ok.mp h
  obtain ⟨_, he, rfl⟩ := Assessment.moveStage_ok.mp hmove
  obtain ⟨_, rfl⟩ := StageProgressEntry.advanceTo_complete.mp he
  cases hrest
  exact ⟨rfl, rfl, rfl⟩

theorem failStage_event {error : String} {ev : StageExecutionFailed}
    (h : (Assessment.failStage st error who now).run a = .ok ev a') :
    ev.stageType = st ∧ ev.attempt = (a.workflowProgress.get st).attemptCount ∧
      ev.error = error ∧
      a' = a.withStage ((a.workflowProgress.get st).failedWith (some error)) now := by
  obtain ⟨e, a₁, hmove, hrest⟩ := Assessment.run_bind_ok.mp h
  obtain ⟨_, he, rfl⟩ := Assessment.moveStage_ok.mp hmove
  obtain ⟨_, rfl⟩ := StageProgressEntry.advanceTo_failed.mp he
  cases hrest
  exact ⟨rfl, rfl, rfl, rfl⟩

theorem startWorkflow_events {templateId : WorkflowTemplateId} {sts : Finset StageType}
    {ev : AssessmentStageAdvanced × WorkflowStarted}
    (h : (Assessment.startWorkflow templateId sts who now).run a = .ok ev a') :
    ev.1.toStatus = .running ∧ ev.2.workflowTemplateId = templateId ∧
      a' = { a with
        status := .running, updatedAt := now, workflowTemplateId := some templateId
        workflowProgress := a.workflowProgress.initialized templateId sts } := by
  obtain ⟨moved, a₁, hmove, hrest⟩ := Assessment.run_bind_ok.mp h
  obtain ⟨hto, rfl⟩ := transition_event hmove
  cases hrest
  exact ⟨hto, rfl, rfl⟩

theorem advancePastRunning_event {sts : Finset StageType} {ev : AssessmentStageAdvanced}
    (h : (Assessment.advancePastRunning sts who now).run a = .ok ev a') :
    ev.toStatus = .validated ∧ a' = { a with status := .validated, updatedAt := now } := by
  by_cases hall : a.workflowProgress.allComplete sts
  · have hmove : (Assessment.transition .validated who now).run a = .ok ev a' := by
      simpa [Assessment.advancePastRunning, hall] using h
    exact transition_event hmove
  · simp [Assessment.advancePastRunning, hall] at h

/-- Step lemma: the events a command writes carry the look of its row to the look it leaves. -/
theorem body_events (h : (c.body now db).run a = .ok events a') :
    events.foldl AssessmentView.apply a.view = a'.view := by
  cases c with
  | markAssessmentReady who | startAssessment who | validateAssessment who
  | reportAssessment who =>
    obtain ⟨ev, hev, rfl⟩ := wrap_events.mp h
    obtain ⟨hto, rfl⟩ := transition_event hev
    simp only [List.foldl_cons, List.foldl_nil, AssessmentView.apply, hto]
    rfl
  | archiveAssessment who =>
    obtain ⟨ev, hev, rfl⟩ := wrap_events.mp h
    rw [archive_event hev]
    rfl
  | cancelAssessment reason who =>
    obtain ⟨ev, hev, rfl⟩ := wrap_events.mp h
    obtain ⟨rfl, rfl⟩ := cancel_event hev
    rfl
  | executeStage st who =>
    obtain ⟨ev, hev, rfl⟩ := wrap_events.mp h
    obtain ⟨hst, hattempt, rfl⟩ := startStage_event hev
    rw [Assessment.view_withStage]
    simp only [List.foldl_cons, List.foldl_nil, AssessmentView.apply, hst, hattempt,
      StageProgressEntry.started_stageType, WorkflowProgress.get_stageType]
    rfl
  | recordStageCompletion st ref who =>
    obtain ⟨ev, hev, rfl⟩ := wrap_events.mp h
    obtain ⟨hst, href, rfl⟩ := completeStage_event hev
    rw [Assessment.view_withStage]
    simp only [List.foldl_cons, List.foldl_nil, AssessmentView.apply, hst, href,
      StageProgressEntry.completed_stageType, WorkflowProgress.get_stageType]
    rfl
  | recordStageFailure st error who =>
    obtain ⟨ev, hev, rfl⟩ := wrap_events.mp h
    obtain ⟨hst, hattempt, herror, rfl⟩ := failStage_event hev
    rw [Assessment.view_withStage]
    simp only [List.foldl_cons, List.foldl_nil, AssessmentView.apply, hst, hattempt, herror,
      StageProgressEntry.failedWith_stageType, WorkflowProgress.get_stageType]
    rfl
  | startWorkflow templateId who =>
    simp only [Command.body, Orchestration.startWorkflow, Assessment.run_get_bind] at h
    cases hT : db.workflowTemplates.get templateId.id with
    | none => simp [hT, Assessment.run_throw] at h
    | some T =>
      simp only [hT] at h
      split at h
      · cases h
      split at h
      · cases h
      obtain ⟨ev, a₁, hev, hrest⟩ := Assessment.run_bind_ok.mp h
      obtain ⟨hto, hid, rfl⟩ := startWorkflow_events hev
      cases hrest
      -- the second event says both that the template is bound and that no stage has started
      rw [Assessment.view_startWorkflow]
      simp only [List.foldl_cons, List.foldl_nil, AssessmentView.apply, hto, hid]
      rfl
  | advanceAssessment who =>
    simp only [Command.body, Orchestration.advanceAssessment, Assessment.run_get_bind] at h
    cases hid : a.workflowTemplateId with
    | none => simp [hid, Assessment.run_throw] at h
    | some id =>
      cases hT : db.workflowTemplates.get id with
      | none => simp [hid, hT, Assessment.run_throw] at h
      | some T =>
        simp only [hid, hT] at h
        obtain ⟨ev, hev, rfl⟩ := wrap_events.mp h
        obtain ⟨hto, rfl⟩ := advancePastRunning_event hev
        simp only [List.foldl_cons, List.foldl_nil, AssessmentView.apply, hto]
        rfl

end Step

/-! ### Commands, one at a time -/

/-- A command as it reaches its handler. -/
inductive Request where
  | createAssessment (id : AssessmentId) (tenantId : TenantId) (name : String)
      (hazardType : HazardType) (createdBy : UserId)
  | createWorkflowTemplate (id : WorkflowTemplateId) (hazardType : HazardType) (name : String)
      (stageDefinitions : List StageDefinition)
  | publishWorkflowTemplate (id : Spelled WorkflowTemplateId)
  | command (target : Target) (c : Command)

namespace Db

/-- What a handler commits; one that raises leaves the tables as they were. -/
def after {α : Type} (db : Db) : Except AssessmentError (Db × α) → Db
  | .error _ => db
  | .ok (db', _) => db'

/-- One command, at a time. `uuid4` draws 128 bits, and no identifier twice. -/
def perform (db : Db) : Timestamp × Request → Db
  | (now, .createAssessment id tenantId name hazardType createdBy) =>
    if id.value < 2 ^ 128 ∧ db.assessments.get id = none then
      db.after (Orchestration.createAssessment id tenantId name hazardType createdBy now db)
    else db
  | (now, .createWorkflowTemplate id hazardType name stageDefinitions) =>
    db.after (Orchestration.createWorkflowTemplate id hazardType name stageDefinitions now db)
  | (now, .publishWorkflowTemplate id) =>
    db.after (Orchestration.publishWorkflowTemplate id now db)
  | (now, .command target c) => db.after (handle c target now db)

/-- What every sequence of commands keeps: the log is in order, is right about every assessment,
    and says nothing of an identifier that is not in use. -/
structure Logged (db : Db) : Prop where
  inOrder : InOrder db.outbox
  isUuid : ∀ id a, db.assessments.get id = some a → id.value < 2 ^ 128
  right : ∀ id a, db.assessments.get id = some a → replayed db id = some a.view
  silent : ∀ id, id.value < 2 ^ 128 → db.assessments.get id = none →
    eventsOf db.outbox "Assessment" (toString id) = []

end Db

theorem AssessmentId.toString_inj {id id' : AssessmentId} (h : id.value < 2 ^ 128)
    (h' : id'.value < 2 ^ 128) (heq : toString id = toString id') : id = id' := by
  have hread := congrArg UUID.fromString heq
  change UUID.fromString id.value.str = UUID.fromString id'.value.str at hread
  rw [UUID.fromString_str h, UUID.fromString_str h'] at hread
  cases id
  cases id'
  cases hread
  rfl

section Run

variable {db db' : Db} {now : Timestamp} {a a' : Assessment} {id : AssessmentId}

theorem Db.logged_empty : Db.empty.Logged where
  inOrder := inOrder_nil
  isUuid id a h := by cases h
  right id a h := by cases h
  silent id _ _ := by simp [eventsOf, Db.empty]

/-- Events of another aggregate are no events of this one. -/
theorem eventsOf_appendEvents_of_ne {id' : AssessmentId} (h : id.value < 2 ^ 128)
    (h' : id'.value < 2 ^ 128) (hne : id ≠ id') (events : List AssessmentEvent)
    (tenantId : TenantId) :
    eventsOf (db.appendEvents id events tenantId now).outbox "Assessment" (toString id') =
      eventsOf db.outbox "Assessment" (toString id') :=
  eventsOf_appendAll_of_ne _ _ _ fun hkey => hne (AssessmentId.toString_inj h h' hkey.2)

/-- A transaction that saves one row and appends its events keeps the log right, if the log and
    these events are right about the row saved. -/
theorem Db.Logged.save (h : db.Logged) (a' : Assessment) (events : List AssessmentEvent)
    (hid : a'.id.value < 2 ^ 128)
    (hget : ∀ id, db'.assessments.get id = if id = a'.id then some a' else db.assessments.get id)
    {tenantId : TenantId}
    (houtbox : db'.outbox = (db.appendEvents a'.id events tenantId now).outbox)
    (hright : Lib.replay AssessmentView.start AssessmentView.apply
      (eventsOf db.outbox "Assessment" (toString a'.id) ++ events) = some a'.view) :
    db'.Logged where
  inOrder := houtbox ▸ h.inOrder.appendAll _ _ _ _ _
  isUuid id a ha := by
    rw [hget] at ha
    split at ha
    · next heq => exact heq ▸ hid
    · exact h.isUuid id a ha
  right id a ha := by
    rw [hget] at ha
    split at ha
    · next heq =>
      cases ha
      subst heq
      rw [replayed, houtbox]
      exact (congrArg _ (eventsOf_appendAll_self h.inOrder _ _ _)).trans hright
    · next hne =>
      rw [replayed, houtbox, eventsOf_appendEvents_of_ne hid (h.isUuid id a ha) (Ne.symm hne)]
      exact h.right id a ha
  silent id huuid hnone := by
    rw [hget] at hnone
    split at hnone
    · cases hnone
    · next hne =>
      rw [houtbox, eventsOf_appendEvents_of_ne hid huuid (Ne.symm hne)]
      exact h.silent id huuid hnone

/-- The events of a template are no events of an assessment. -/
theorem Db.Logged.of_template (h : db.Logged) (hrows : db'.assessments = db.assessments)
    {id : WorkflowTemplateId} {event : AssessmentEvent}
    (houtbox : db'.outbox = (db.appendTemplateEvent id event now).outbox) : db'.Logged := by
  have hsame : ∀ id : AssessmentId, eventsOf db'.outbox "Assessment" (toString id) =
      eventsOf db.outbox "Assessment" (toString id) := fun id =>
    houtbox ▸ eventsOf_appendEvent_of_ne _ _ _ fun hkey => absurd hkey.1 (by decide)
  refine ⟨houtbox ▸ h.inOrder.appendEvent _ _ _ _ _, ?_, ?_, ?_⟩
  · rw [hrows]
    exact h.isUuid
  · intro id a ha
    rw [replayed, hsame]
    exact h.right id a (hrows ▸ ha)
  · intro id huuid hnone
    rw [hsame]
    exact h.silent id huuid (hrows ▸ hnone)

theorem Db.Logged.createAssessment (h : db.Logged) (hid : id.value < 2 ^ 128)
    (hnew : db.assessments.get id = none) {tenantId : TenantId} {name : String}
    {hazardType : HazardType} {createdBy : UserId}
    (hok : createAssessment id tenantId name hazardType createdBy now db = .ok (db', a)) :
    db'.Logged := by
  unfold Orchestration.createAssessment Assessment.create at hok
  split at hok
  · cases hok
  · simp only [bind, Except.bind, Db.saveAssessment, hnew, pure, Except.pure] at hok
    cases hok
    refine h.save _ [_] hid (fun id' => Lib.Table.get_put _ _ _) rfl ?_
    rw [h.silent id hid hnew]
    rfl

theorem Db.Logged.handle (h : db.Logged) {c : Command} {target : Target}
    (hok : handle c target now db = .ok (db', a')) : db'.Logged := by
  obtain ⟨a, events, hget, ht, hrun, rfl⟩ := handle_ok.mp hok
  have hsame := (body_ok.mp ⟨events, hrun⟩).same
  have hkey : a'.saved.id = target.assessmentId.id := hsame.id.trans (Lib.Table.key_of_get hget)
  refine h.save a'.saved events ?_ (fun id' => Lib.Table.get_put _ _ _) rfl ?_
  · exact hkey ▸ h.isUuid _ a hget
  · rw [hkey, Assessment.saved_view]
    exact Lib.replay_step (h.right _ a hget) (body_events hrun)

/-- Step lemma. -/
theorem Db.Logged.perform (h : db.Logged) (t : Timestamp × Request) : (db.perform t).Logged := by
  obtain ⟨now, request⟩ := t
  cases request with
  | createAssessment id tenantId name hazardType createdBy =>
    rw [Db.perform]
    split
    · next hfresh =>
      cases hok : Orchestration.createAssessment id tenantId name hazardType createdBy now db with
      | error e => exact h
      | ok r => exact h.createAssessment hfresh.1 hfresh.2 hok
    · exact h
  | createWorkflowTemplate id hazardType name stageDefinitions =>
    rw [Db.perform]
    cases hok : Orchestration.createWorkflowTemplate id hazardType name stageDefinitions now db with
    | error e => exact h
    | ok r =>
      unfold Orchestration.createWorkflowTemplate at hok
      cases hnew : WorkflowTemplate.create id hazardType name stageDefinitions 1 now with
      | error e => simp [hnew, bind, Except.bind] at hok
      | ok made =>
        simp only [hnew, bind, Except.bind, pure, Except.pure] at hok
        cases hok
        exact h.of_template rfl rfl
  | publishWorkflowTemplate id =>
    rw [Db.perform]
    cases hok : Orchestration.publishWorkflowTemplate id now db with
    | error e => exact h
    | ok r =>
      unfold Orchestration.publishWorkflowTemplate at hok
      cases hT : db.workflowTemplates.get id.id with
      | none => simp [hT] at hok
      | some T =>
        cases hpub : T.publish with
        | error e => simp [hT, hpub, bind, Except.bind] at hok
        | ok made =>
          simp only [hT, hpub, bind, Except.bind, pure, Except.pure] at hok
          cases hok
          exact h.of_template rfl rfl
  | command target c =>
    rw [Db.perform]
    cases hok : Orchestration.handle c target now db with
    | error e => exact h
    | ok r => exact h.handle hok

/-- Run lemma. -/
theorem Db.logged_run (requests : List (Timestamp × Request)) :
    (requests.foldl Db.perform Db.empty).Logged := by
  induction requests using List.reverseRecOn with
  | nil => exact Db.logged_empty
  | append_singleton requests t ih =>
    rw [List.foldl_concat]
    exact ih.perform t

/-- After any sequence of commands, executed one at a time, what the events of an assessment tell
    is what its row holds. -/
theorem events_determine_assessment (requests : List (Timestamp × Request)) (id : AssessmentId)
    (a : Assessment) (h : (requests.foldl Db.perform Db.empty).assessments.get id = some a) :
    replayed (requests.foldl Db.perform Db.empty) id = some a.view :=
  (Db.logged_run requests).right id a h

def basin : Target := ⟨⟨1⟩, ⟨"basin", ⟨7⟩⟩⟩

/-- A hazard stage that fails once, and a stage outside the template. -/
def retriedRequests : List (Timestamp × Request) := [
  (1, .createWorkflowTemplate ⟨4⟩ .flood "Flood" [.initial .hazard .manual]),
  (2, .publishWorkflowTemplate ⟨"flood", ⟨4⟩⟩),
  (3, .createAssessment ⟨7⟩ ⟨1⟩ "Basin" .flood ⟨2⟩),
  (4, .command basin (.markAssessmentReady "2")),
  (5, .command basin (.startWorkflow ⟨"flood", ⟨4⟩⟩ "2")),
  (6, .command basin (.executeStage .hazard "2")),
  (7, .command basin (.recordStageFailure .hazard "no data" "2")),
  (8, .command basin (.executeStage .hazard "2")),
  (9, .command basin (.recordStageCompletion .hazard (some "result") "2")),
  (10, .command basin (.executeStage .exposure "2")),
  (11, .command basin (.advanceAssessment "2"))]

theorem events_determine_assessment_retried : ∃ a : Assessment,
    replayed (retriedRequests.foldl Db.perform Db.empty) ⟨7⟩ = some a.view ∧
      a.status = .validated ∧ a.view.stage .hazard = ⟨.complete, 2, some "result", none⟩ ∧
      a.view.stage .exposure = ⟨.running, 1, none, none⟩ := by
  have hrow : ((retriedRequests.foldl Db.perform Db.empty).assessments.get ⟨7⟩).any (fun a =>
      a.status = .validated ∧ a.view.stage .hazard = ⟨.complete, 2, some "result", none⟩ ∧
        a.view.stage .exposure = ⟨.running, 1, none, none⟩) = true := by
    decide +kernel
  obtain ⟨a, ha, hstage⟩ := (Option.any_eq_true _ _).mp hrow
  exact ⟨a, events_determine_assessment retriedRequests ⟨7⟩ a ha, of_decide_eq_true hstage⟩

end Run

end GeoRisk.Orchestration
