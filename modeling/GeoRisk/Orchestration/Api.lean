import Mathlib
import GeoRisk.Lib.Runs
import GeoRisk.Orchestration.Engine

/-! The assessment context as its API drives it: any sequence of authoring requests, commands of
    users, and engine calls, each of which proceeds transaction by transaction while others
    commit in between. `Evolves` is what no step of it ever undoes: a row and its tenant stay, an
    assessment past ready keeps its template, a stage started stays started and a stage complete
    stays complete. -/

namespace GeoRisk.Orchestration

/-- The commands the API offers on an assessment. The commands of stages reach it only through the
    engine. -/
inductive ApiCommand where
  | markReady | start | validate | report | archive
  | cancel (reason : String)

def ApiCommand.command (user : UserId) : ApiCommand → Command
  | .markReady => .markAssessmentReady (toString user)
  | .start => .startAssessment (toString user)
  | .validate => .validateAssessment (toString user)
  | .report => .reportAssessment (toString user)
  | .archive => .archiveAssessment (toString user)
  | .cancel reason => .cancelAssessment reason (toString user)

/-- What happens next. The identifiers of new rows are drawn by `uuid4`. -/
inductive Action where
  | createAssessment (id : AssessmentId) (tenantId : TenantId) (name : String)
      (hazardType : HazardType) (createdBy : UserId)
  | createWorkflowTemplate (id : WorkflowTemplateId) (hazardType : HazardType) (name : String)
      (stageDefinitions : List StageDefinition)
  | publishWorkflowTemplate (id : Spelled WorkflowTemplateId)
  | command (target : Target) (user : UserId) (c : ApiCommand)
  | invoke (target : Target) (entry : EntryPoint)
  | engineStep (call : ℕ) (reply : ExecutorReply)

/-- The tables, and the engine calls made so far. -/
structure Sys where
  db : Db
  calls : List (Target × CallState)

namespace Sys

def initial : Sys := ⟨.empty, []⟩

/-- A transaction that raises leaves the tables as they were. -/
def commit {α : Type} (s : Sys) (r : Except AssessmentError (Db × α)) : Sys :=
  match r with
  | .error _ => s
  | .ok (db, _) => { s with db }

/-- One step, at a time. `uuid4` draws no identifier twice: a draw in use is no step. -/
def step (s : Sys) : Timestamp × Action → Sys
  | (now, .createAssessment id tenantId name hazardType createdBy) =>
    if (s.db.assessments.get id).isSome then s
    else s.commit (Orchestration.createAssessment id tenantId name hazardType createdBy now s.db)
  | (now, .createWorkflowTemplate id hazardType name stageDefinitions) =>
    if (s.db.workflowTemplates.get id).isSome then s
    else s.commit
      (Orchestration.createWorkflowTemplate id hazardType name stageDefinitions now s.db)
  | (now, .publishWorkflowTemplate id) =>
    s.commit (Orchestration.publishWorkflowTemplate id now s.db)
  | (now, .command target user c) => s.commit (handle (c.command user) target now s.db)
  | (_, .invoke target entry) =>
    { s with calls := s.calls ++ [(target, .active entry.control [])] }
  | (now, .engineStep i reply) =>
    match s.calls[i]? with
    | none => s
    | some (target, state) =>
      let (db, state) := state.step target (fun _ => reply) now s.db
      { db, calls := s.calls.set i (target, state) }

end Sys

/-! ### What no step undoes -/

/-- Past ready: the workflow, if any, is bound. -/
def Past (a : Assessment) : Prop := a.status ≠ .draft ∧ a.status ≠ .ready

/-- What a row keeps. -/
structure RowEvolves (a a' : Assessment) : Prop where
  tenantId : a'.tenantId = a.tenantId
  past : Past a → Past a'
  template : Past a → a'.workflowTemplateId = a.workflowTemplateId
  complete : Past a → ∀ st, a.workflowProgress.isComplete st → a'.workflowProgress.isComplete st
  begun : Past a → ∀ st, (a.workflowProgress.get st).status ≠ .notStarted →
    (a'.workflowProgress.get st).status ≠ .notStarted

theorem RowEvolves.refl (a : Assessment) : RowEvolves a a :=
  ⟨rfl, id, fun _ => rfl, fun _ _ h => h, fun _ _ h => h⟩

/-- A row whose progress stays as it is. -/
theorem RowEvolves.of_progress {a a' : Assessment} (ht : a'.tenantId = a.tenantId)
    (hp : Past a → Past a') (hid : a'.workflowTemplateId = a.workflowTemplateId)
    (h : a'.workflowProgress = a.workflowProgress) : RowEvolves a a' :=
  ⟨ht, hp, fun _ => hid, fun _ st hst => by rw [h]; exact hst, fun _ st hst => by rw [h]; exact hst⟩

/-- A row with one entry moved on. -/
theorem RowEvolves.withStage {a : Assessment} {e : StageProgressEntry} {now : Timestamp}
    (hc : a.workflowProgress.Forward e) (hb : e.status ≠ .notStarted) :
    RowEvolves a (a.withStage e now).saved := by
  refine ⟨rfl, id, fun _ => rfl, fun _ st hst => hc.isComplete hst, fun _ st hst => ?_⟩
  rw [Assessment.saved_progress, Assessment.withStage_get]
  split
  · exact hb
  · exact hst

/-- What a user's command does to its row: its status moves on, and nothing of its workflow. -/
theorem ApiCommand.effect_progress {c : ApiCommand} {user : UserId} {now : Timestamp} {db : Db}
    {a a' : Assessment} (h : (c.command user).Effect now db a a') :
    a'.workflowProgress = a.workflowProgress ∧ a'.workflowTemplateId = a.workflowTemplateId ∧
      a'.status ∈ legalTransitions a.status := by
  cases c with
  | cancel reason => obtain ⟨hl, _, rfl⟩ := h; exact ⟨rfl, rfl, hl⟩
  | _ => obtain ⟨hl, rfl⟩ := h; exact ⟨rfl, rfl, hl⟩

/-- A legal transition leads past ready and stays there. -/
theorem past_of_legal {s s' : AssessmentStatus} (h : s' ∈ legalTransitions s)
    (hs : s ≠ .draft ∧ s ≠ .ready) : s' ≠ .draft ∧ s' ≠ .ready := by
  cases s <;> simp [legalTransitions] at h hs ⊢ <;> rcases h with rfl | rfl <;> simp

theorem ApiCommand.evolves {c : ApiCommand} {user : UserId} {now : Timestamp} {db : Db}
    {a a' : Assessment} (h : (c.command user).Effect now db a a') : RowEvolves a a'.saved := by
  obtain ⟨hp, hid, hl⟩ := c.effect_progress h
  exact .of_progress h.same.tenantId (fun hpast => past_of_legal hl hpast) hid hp

theorem Move.evolves {templates : WorkflowTemplateId → Option WorkflowTemplate} {a a' : Assessment}
    {reply : StageType → ExecutorReply} {now : Timestamp} {control : Control}
    {stack : List (List StageDefinition)} {state : CallState}
    (h : Move templates reply now a control stack a' state) : RowEvolves a a' := by
  cases h with
  | bound hT hpub hhaz hready =>
    have hno : ¬ Past a := fun hp => hp.2 hready
    exact ⟨rfl, fun hp => absurd hp hno, fun hp => absurd hp hno, fun hp => absurd hp hno,
      fun hp => absurd hp hno⟩
  | started hrun hst =>
    refine .withStage (Or.inr ?_) (by simp)
    rcases hst with hst | hst <;> simp [WorkflowProgress.isComplete, hst]
  | completed => exact .withStage (Or.inl rfl) (by simp)
  | failed ho hrun hst =>
    refine .withStage (Or.inr ?_) (by simp)
    simp [WorkflowProgress.isComplete, hst]
  | advanced hT hall hrun =>
    exact .of_progress rfl (fun _ => by simp [Past]) rfl rfl
  | _ => exact .refl a

/-- What the tables keep. -/
structure Db.Evolves (db db' : Db) : Prop where
  row : ∀ {id a}, db.assessments.get id = some a →
    ∃ a', db'.assessments.get id = some a' ∧ RowEvolves a a'
  template : ∀ {id T}, db.workflowTemplates.get id = some T →
    ∃ T', db'.workflowTemplates.get id = some T' ∧ T'.stageDefinitions = T.stageDefinitions

theorem Db.Evolves.refl (db : Db) : db.Evolves db :=
  ⟨fun {_ a} h => ⟨a, h, .refl a⟩, fun {_ T} h => ⟨T, h, rfl⟩⟩

/-- The tables with one row replaced by what it evolved into. -/
theorem RowReplaced.evolves {target : Target} {db db' : Db} {a a' : Assessment}
    (h : RowReplaced target db db' a') (ha : db.Row target a) (he : RowEvolves a a') :
    db.Evolves db' := by
  refine ⟨fun {id b} hb => ?_, fun {id T} hT => ⟨T, by rw [h.templates]; exact hT, rfl⟩⟩
  rw [h.get]
  split
  · next hid =>
    subst hid
    obtain rfl : a = b := by simpa [ha.1] using hb
    exact ⟨a', rfl, he⟩
  · exact ⟨b, hb, .refl b⟩

/-! ### What one step does -/

section Step

variable {s : Sys} {now : Timestamp} {action : Action} {target : Target} {state : CallState}
  {a a' : Assessment} {id : AssessmentId}

/-- What a step makes of a row that was there. -/
inductive RowStep (s : Sys) (now : Timestamp) : Action → Assessment → Assessment → Prop where
  | same {act : Action} {b : Assessment} : RowStep s now act b b
  | command {target : Target} {user : UserId} {c : ApiCommand} {a a' : Assessment} (ha : s.db.Row target a)
      (h : (c.command user).Effect now s.db a a') :
      RowStep s now (.command target user c) a a'.saved
  | move {i : ℕ} {reply : ExecutorReply} {target : Target} {control : Control}
      {stack : List (List StageDefinition)} {a a' : Assessment} {state : CallState}
      (hi : s.calls[i]? = some (target, .active control stack)) (ha : s.db.Row target a)
      (h : Move s.db.workflowTemplates.get (fun _ => reply) now a control stack a' state) :
      RowStep s now (.engineStep i reply) a a'

/-- What a step does to the tables: no row but one changes, a new row is a draft, and templates keep
    their definitions. -/
structure DbStep (s : Sys) (now : Timestamp) (action : Action) (db' : Db) : Prop where
  row : ∀ {id a'}, db'.assessments.get id = some a' →
    (s.db.assessments.get id = none ∧ a'.status = .draft ∧ a'.workflowTemplateId = none) ∨
      ∃ a, s.db.assessments.get id = some a ∧ RowStep s now action a a'
  evolves : s.db.Evolves db'

theorem DbStep.same (s : Sys) (now : Timestamp) (action : Action) : DbStep s now action s.db :=
  ⟨fun {_ a'} h => Or.inr ⟨a', h, .same⟩, .refl _⟩

theorem DbStep.of_replaced {db' : Db} (h : RowReplaced target s.db db' a') (ha : s.db.Row target a)
    (hs : RowStep s now action a a') (he : RowEvolves a a') : DbStep s now action db' := by
  refine ⟨fun {id b} hb => ?_, h.evolves ha he⟩
  rw [h.get] at hb
  split at hb
  · next hid =>
    cases hb
    exact Or.inr ⟨a, hid ▸ ha.1, hs⟩
  · exact Or.inr ⟨b, hb, .same⟩

/-- Templates written with the definitions they had, or under a new identifier. -/
theorem DbStep.of_template {T : WorkflowTemplate} {db' : Db}
    (hrows : db'.assessments = s.db.assessments)
    (htemplates : db'.workflowTemplates = s.db.workflowTemplates.put T)
    (hT : ∀ T₀, s.db.workflowTemplates.get T.id = some T₀ → T.stageDefinitions = T₀.stageDefinitions) :
    DbStep s now action db' := by
  refine ⟨fun {id a'} h => Or.inr ⟨a', hrows ▸ h, .same⟩,
    ⟨fun {id a} h => ⟨a, hrows ▸ h, .refl a⟩, fun {id T₀} h => ?_⟩⟩
  rw [htemplates, Lib.Table.get_put]
  split
  · next hid => exact ⟨T, rfl, hT T₀ (hid ▸ h)⟩
  · exact ⟨T₀, h, rfl⟩

theorem step_createAssessment {id : AssessmentId} {tenantId : TenantId} {name : String}
    {hazardType : HazardType} {createdBy : UserId} :
    DbStep s now action (s.step (now, .createAssessment id tenantId name hazardType createdBy)).db := by
  simp only [Sys.step]
  split
  · exact .same s now action
  · next hfree =>
    have hnone : s.db.assessments.get id = none := by simpa using hfree
    by_cases hb : isBlank name
    · simpa [Orchestration.createAssessment, Assessment.create, hb, bind, Except.bind, Sys.commit]
        using DbStep.same s now action
    · simp only [Orchestration.createAssessment, Assessment.create, hb, Bool.false_eq_true, if_false,
        bind, Except.bind, Db.saveAssessment, hnone, pure, Except.pure, Sys.commit, Db.appendEvents]
      refine ⟨fun {id' b} h => ?_, ⟨fun {id' b} h => ?_, fun {_ T} h => ⟨T, h, rfl⟩⟩⟩
      · rw [Lib.Table.get_put] at h
        split at h
        · next hid => cases h; exact Or.inl ⟨hid ▸ hnone, rfl, rfl⟩
        · exact Or.inr ⟨b, h, .same⟩
      · rw [Lib.Table.get_put]
        split
        · next hid => rw [hid, hnone] at h; cases h
        · exact ⟨b, h, .refl b⟩

theorem step_createWorkflowTemplate {id : WorkflowTemplateId} {hazardType : HazardType}
    {name : String} {defs : List StageDefinition} :
    DbStep s now action (s.step (now, .createWorkflowTemplate id hazardType name defs)).db := by
  simp only [Sys.step]
  split
  · exact .same s now action
  · next hfree =>
    have hnone : s.db.workflowTemplates.get id = none := by simpa using hfree
    unfold Orchestration.createWorkflowTemplate
    cases hc : WorkflowTemplate.create id hazardType name defs 1 now with
    | error e => exact .same s now action
    | ok r =>
      obtain ⟨T, ev⟩ := r
      obtain ⟨rfl, _⟩ := WorkflowTemplate.create_ok hc
      exact .of_template rfl rfl fun T₀ hT₀ => by rw [hnone] at hT₀; cases hT₀

theorem step_publishWorkflowTemplate {id : Spelled WorkflowTemplateId} :
    DbStep s now action (s.step (now, .publishWorkflowTemplate id)).db := by
  simp only [Sys.step, Orchestration.publishWorkflowTemplate]
  cases hget : s.db.workflowTemplates.get id.id with
  | none => exact .same s now action
  | some T =>
    dsimp only
    cases hp : T.publish with
    | error e => exact .same s now action
    | ok r =>
      obtain ⟨T', ev⟩ := r
      obtain rfl := WorkflowTemplate.publish_ok hp
      refine .of_template rfl rfl fun T₀ hT₀ => ?_
      have hk : T.id = id.id := Lib.Table.key_of_get hget
      obtain rfl : T = T₀ := by simpa [hk, hget] using hT₀
      rfl

theorem step_command {user : UserId} {c : ApiCommand} :
    DbStep s now (.command target user c) (s.step (now, .command target user c)).db := by
  simp only [Sys.step]
  cases hh : handle (c.command user) target now s.db with
  | error e => exact .same s now _
  | ok r =>
    obtain ⟨db', a'⟩ := r
    obtain ⟨a, ha, heff, hrep⟩ := handle_effect hh
    exact .of_replaced hrep ha (.command ha heff) (c.evolves heff)

theorem step_engineStep {i : ℕ} {reply : ExecutorReply} :
    DbStep s now (.engineStep i reply) (s.step (now, .engineStep i reply)).db := by
  simp only [Sys.step]
  cases hi : s.calls[i]? with
  | none => exact .same s now _
  | some call =>
    obtain ⟨target, state⟩ := call
    cases state with
    | active control stack =>
      by_cases hrow : ∃ a, s.db.Row target a
      · obtain ⟨a, ha⟩ := hrow
        obtain ⟨a', hmove, hrep⟩ := step_move ha (fun _ => reply) now control stack
        exact .of_replaced hrep ha (.move hi ha hmove) hmove.evolves
      · have hsame := step_foreign (fun a ha => hrow ⟨a, ha⟩) (fun _ => reply) now control stack
        simp only [CallState.step, hsame]
        exact .same s now _
    | returned | raised => exact .same s now _

/-- What one step does to the tables. -/
theorem db_step (s : Sys) (now : Timestamp) (action : Action) :
    DbStep s now action (s.step (now, action)).db := by
  cases action with
  | createAssessment => exact step_createAssessment
  | createWorkflowTemplate => exact step_createWorkflowTemplate
  | publishWorkflowTemplate => exact step_publishWorkflowTemplate
  | command => exact step_command
  | invoke => exact .same s now _
  | engineStep => exact step_engineStep

/-- What one step does to a call: nothing, or it is made, or it moves. -/
theorem call_step {j : ℕ} (h : (s.step (now, action)).calls[j]? = some (target, state)) :
    s.calls[j]? = some (target, state) ∨
    (∃ entry : EntryPoint, state = .active entry.control []) ∨
    ∃ reply control stack, action = .engineStep j reply ∧
      s.calls[j]? = some (target, .active control stack) ∧
      (control.step target (fun _ => reply) now s.db stack).2 = state ∧
      (control.step target (fun _ => reply) now s.db stack).1 = (s.step (now, action)).db := by
  have hcommit : ∀ {α : Type} (r : Except AssessmentError (Db × α)), (s.commit r).calls = s.calls := by
    intro α r; cases r <;> rfl
  cases action with
  | createAssessment => simp only [Sys.step] at h; split at h <;> simp_all
  | createWorkflowTemplate => simp only [Sys.step] at h; split at h <;> simp_all
  | publishWorkflowTemplate | command => simp only [Sys.step, hcommit] at h; exact Or.inl h
  | invoke target' entry =>
    simp only [Sys.step, List.getElem?_append] at h
    split at h
    · exact Or.inl h
    · rw [List.getElem?_singleton] at h
      split at h
      · cases h; exact Or.inr (Or.inl ⟨entry, rfl⟩)
      · cases h
  | engineStep i reply =>
    simp only [Sys.step] at h ⊢
    cases hi : s.calls[i]? with
    | none => simp only [hi] at h; exact Or.inl h
    | some call =>
      obtain ⟨target', state'⟩ := call
      simp only [hi, List.getElem?_set] at h
      split at h
      · next hij =>
        subst hij
        split at h
        · cases h
          cases state' with
          | active control stack =>
            exact Or.inr (Or.inr ⟨reply, control, stack, rfl, hi, rfl, by simp [CallState.step]⟩)
          | returned | raised => exact Or.inl hi
        · cases h
      · exact Or.inl h

end Step

end GeoRisk.Orchestration
