import GeoRisk.Api.StageExecutors
import GeoRisk.Orchestration.StuckStage

/-! What a workflow says of its stages, and what is in the tables of the analysis. The engine believes its
    executors, and an executor believes the session it has waited for; between the two lie any number of
    commits, retries and other workflows. Yet a stage that is complete refers to a result that is there:

        session j commits r ─▶ recording j ─▶ outcome ─▶ recordOutcome ─▶ entry of the stage
              r ∈ tables         answered       names r       carries it       refers to it

    Every arrow is a step of one engine, over which the other's tables only grow. -/

namespace GeoRisk.Api.StageExecutors

open Lib
open Orchestration (Assessment AssessmentId Target StageExecutionOutcome ExecutorReply Control CallState
  Sys RowStep Move StageDefinition Actor)
open Analysis (RecordStageResult StageResult StageKey)

/-! ### The workflow engine -/

section Workflow

variable {s : Sys} {now : Timestamp} {action : Orchestration.Action}

/-- No step takes a row away, or makes it that of another assessment. -/
theorem rowStep_kept {a a' : Assessment} (h : RowStep s now action a a') :
    a'.tenantId = a.tenantId ∧ a'.hazardType = a.hazardType := by
  cases h with
  | same => exact ⟨rfl, rfl⟩
  | command _ heff => exact ⟨heff.same.tenantId, heff.same.hazardType⟩
  | move _ _ hmove => cases hmove <;> exact ⟨rfl, rfl⟩

theorem row_kept {id : AssessmentId} {a : Assessment} (h : s.db.assessments.get id = some a) :
    ∃ a', (s.step (now, action)).db.assessments.get id = some a' ∧ a'.tenantId = a.tenantId ∧
      a'.hazardType = a.hazardType := by
  have hdb := Orchestration.db_step s now action
  obtain ⟨a', ha', -⟩ := hdb.evolves.row h
  refine ⟨a', ha', ?_⟩
  rcases hdb.row ha' with ⟨hnone, -⟩ | ⟨b, hb, hstep⟩
  · rw [h] at hnone
    cases hnone
  · obtain rfl : a = b := by simpa [h] using hb
    exact rowStep_kept hstep

/-- A call stays where it is until it takes a step itself. -/
theorem call_kept {j : ℕ} {call : Target × CallState} (h : s.calls[j]? = some call)
    (hne : ∀ reply, action ≠ .engineStep j reply) : (s.step (now, action)).calls[j]? = some call := by
  have hcommit : ∀ {α : Type} (r : Except Orchestration.AssessmentError (Orchestration.Db × α)),
      (s.commit r).calls = s.calls := by
    intro α r
    cases r <;> rfl
  cases action with
  | createAssessment => simp only [Sys.step]; split <;> simp [hcommit, h]
  | createWorkflowTemplate => simp only [Sys.step]; split <;> simp [hcommit, h]
  | publishWorkflowTemplate | command => simpa only [Sys.step, hcommit] using h
  | invoke target entry =>
    have hlt := (List.getElem?_eq_some_iff.mp h).1
    simpa only [Sys.step, List.getElem?_append_left hlt] using h
  | engineStep i reply =>
    have hij : i ≠ j := by
      rintro rfl
      exact hne reply rfl
    simp only [Sys.step]
    cases hi : s.calls[i]? with
    | none => exact h
    | some call' => simpa [List.getElem?_set, hij] using h

/-- A call records an outcome only when it comes from its executor, which has answered with it. -/
theorem recordOutcome_of_step {target : Target} {reply : Orchestration.StageType → ExecutorReply}
    {db : Orchestration.Db} {control : Control} {stack stack' : List (List StageDefinition)}
    {st : Orchestration.StageType} {actor : Actor} {o : StageExecutionOutcome}
    (h : (control.step target reply now db stack).2 = .active (.recordOutcome st actor o) stack') :
    control = .callExecutor st actor ∧ reply st = .outcome o := by
  have hno : ∀ {state : CallState}, state.Between → state ≠ .active (.recordOutcome st actor o) stack' := by
    rintro _ hb rfl
    cases hb
  have ht : ∀ c (next : CallState), next.Between →
      (Orchestration.transact target now db c next).2.Between := by
    intro c next hnext
    unfold Orchestration.transact
    split
    · trivial
    · exact hnext
  have hi : ∀ next : Assessment → Option Orchestration.WorkflowTemplate → CallState,
      (∀ a T, (next a T).Between) → (Orchestration.inspect target db next).2.Between := by
    intro next hnext
    unfold Orchestration.inspect
    split
    · trivial
    · exact hnext _ _
  cases control with
  | startWorkflow => exact absurd h (hno (ht _ _ rfl))
  | executeStage =>
    simp only [Control.step, Orchestration.transact] at h
    split at h <;> cases h
  | callExecutor st' actor' =>
    simp only [Control.step] at h
    split at h
    · next o' ho =>
      cases h
      exact ⟨rfl, ho⟩
    · cases h
  | recordOutcome st' actor' o' =>
    simp only [Control.step] at h
    split at h <;> exact absurd h (hno (ht _ _ rfl))
  | onStageCompleted =>
    exact absurd h (hno (hi _ fun _ _ => Orchestration.between_onStageCompleted _ _ _))
  | advance => exact absurd h (hno (ht _ _ (Orchestration.between_ret _)))
  | onStageFailed =>
    exact absurd h (hno (hi _ fun _ _ => Orchestration.between_onStageFailed _ _ _ _))
  | dispatchRunnableStages =>
    exact absurd h (hno (hi _ fun _ _ => Orchestration.between_dispatchRunnableStages _ _ _))
  | forEach pending =>
    cases pending with
    | nil => exact absurd h (hno (Orchestration.between_ret _))
    | cons sd pending =>
      exact absurd h (hno (hi _ fun _ _ => Orchestration.between_forEachTurn _ _ _ _))

end Workflow

/-! ### Evidence -/

/-- The result is that of a stage of the assessment. -/
structure IsResultOf (id : AssessmentId) (a : Assessment) (st : Orchestration.StageType)
    (r : StageResult) : Prop where
  key : r.key = ⟨a.tenantId, id.value, analysisStage st⟩
  hazardType : r.hazardType = analysisHazard a.hazardType

/-- The reference names a complete result of the stage among the rows. -/
def Backed (rows : List StageResult) (id : AssessmentId) (a : Assessment)
    (st : Orchestration.StageType) (ref : Option String) : Prop :=
  ∃ r ∈ rows, IsResultOf id a st r ∧ r.status = .complete ∧ ref = some (toString r.id)

section Evidence

variable {rows rows' : List StageResult} {id : AssessmentId} {a a' : Assessment}
  {st : Orchestration.StageType} {r : StageResult} {ref : Option String}

theorem IsResultOf.congr (h : IsResultOf id a st r)
    (hsame : a'.tenantId = a.tenantId ∧ a'.hazardType = a.hazardType) : IsResultOf id a' st r :=
  ⟨by rw [h.key, hsame.1], by rw [h.hazardType, hsame.2]⟩

theorem Backed.congr (h : Backed rows id a st ref)
    (hsame : a'.tenantId = a.tenantId ∧ a'.hazardType = a.hazardType) : Backed rows id a' st ref := by
  obtain ⟨r, hr, hresult, hrest⟩ := h
  exact ⟨r, hr, hresult.congr hsame, hrest⟩

theorem Backed.mono (hrows : rows ⊆ rows') (h : Backed rows id a st ref) :
    Backed rows' id a st ref := by
  obtain ⟨r, hr, hrest⟩ := h
  exact ⟨r, hrows hr, hrest⟩

/-- What an executor makes of a result of its stage. -/
theorem backed_outcomeOf (hr : r ∈ rows) (h : IsResultOf id a st r)
    (ho : (outcomeOf r).success = true) : Backed rows id a st (outcomeOf r).stageResultRef := by
  unfold outcomeOf at ho ⊢
  split at ho
  · cases ho
  · next hstatus =>
    rw [if_neg hstatus]
    refine ⟨r, hr, h, ?_, rfl⟩
    cases hs : r.status with
    | complete => rfl
    | failed => exact absurd hs hstatus

end Evidence

namespace Engines

variable {ι : Type}

/-- What an executor is doing, for the call at the stage. -/
def PhaseSound (jobs : ι → Job) (db : Orchestration.Db) (rows : List StageResult)
    (at? : Option (Target × Orchestration.StageType)) : Phase ι → Prop
  | .idle => True
  | .recording j => ∃ target st a e, at? = some (target, st) ∧
      db.assessments.get target.assessmentId.id = some a ∧ jobs j = .record e ∧
      e.command.key = ⟨a.tenantId, target.assessmentId.id.value, analysisStage st⟩ ∧
      e.command.hazardType = analysisHazard a.hazardType
  | .layering result _ => ∃ target st a, at? = some (target, st) ∧
      db.assessments.get target.assessmentId.id = some a ∧ result ∈ rows ∧
      IsResultOf target.assessmentId.id a st result

/-- An outcome for a stage of the assessment that a call is aimed at: a success is backed. -/
def OutcomeBacked (db : Orchestration.Db) (rows : List StageResult) (target : Target)
    (st : Orchestration.StageType) (o : StageExecutionOutcome) : Prop :=
  o.success = true → compositeStageExecutor st = .analysis →
    ∃ a, db.assessments.get target.assessmentId.id = some a ∧
      Backed rows target.assessmentId.id a st o.stageResultRef

/-- The outcomes that calls are about to record. -/
def OutcomesBacked (w : Sys) (rows : List StageResult) : Prop :=
  ∀ (call : ℕ) target st actor o stack,
    w.calls[call]? = some (target, .active (.recordOutcome st actor o) stack) →
      OutcomeBacked w.db rows target st o

/-- The answer that a step carries to a call at its executor. -/
def AnswerBacked (w : Sys) (rows : List StageResult) (action : Orchestration.Action) : Prop :=
  ∀ (call : ℕ) target st actor o stack, action = .engineStep call (.outcome o) →
    w.calls[call]? = some (target, .active (.callExecutor st actor) stack) →
      OutcomeBacked w.db rows target st o

/-- The stages that are complete, of the assessments with a workflow. -/
def StagesBacked (db : Orchestration.Db) (rows : List StageResult) : Prop :=
  ∀ id a, db.assessments.get id = some a → a.workflowTemplateId.isSome →
    ∀ st, compositeStageExecutor st = .analysis → a.workflowProgress.isComplete st →
      Backed rows id a st (a.workflowProgress.get st).stageResultRef

section Workflow

variable {jobs : ι → Job} {w : Sys} {rows rows' : List StageResult} {now : Timestamp}
  {action : Orchestration.Action}

theorem PhaseSound.evolves {db db' : Orchestration.Db} {at? at?' : Option (Target × Orchestration.StageType)}
    {phase : Phase ι} (h : PhaseSound jobs db rows at? phase) (hrows : rows ⊆ rows')
    (hdb : ∀ id a, db.assessments.get id = some a → ∃ a', db'.assessments.get id = some a' ∧
      a'.tenantId = a.tenantId ∧ a'.hazardType = a.hazardType)
    (hat : ∀ x, at? = some x → at?' = some x) : PhaseSound jobs db' rows' at?' phase := by
  cases phase with
  | idle => trivial
  | recording j =>
    obtain ⟨target, st, a, e, hcall, ha, hj, hkey, hhazard⟩ := h
    obtain ⟨a', ha', htenant, hsame⟩ := hdb _ a ha
    exact ⟨target, st, a', e, hat _ hcall, ha', hj, by rw [hkey, htenant], by rw [hhazard, hsame]⟩
  | layering result k =>
    obtain ⟨target, st, a, hcall, ha, hr, hresult⟩ := h
    obtain ⟨a', ha', hsame⟩ := hdb _ a ha
    exact ⟨target, st, a', hat _ hcall, ha', hrows hr, hresult.congr hsame⟩

theorem OutcomesBacked.mono (h : OutcomesBacked w rows) (hrows : rows ⊆ rows') :
    OutcomesBacked w rows' := by
  intro call target st actor o stack hcall ho hst
  obtain ⟨a, ha, hbacked⟩ := h call target st actor o stack hcall ho hst
  exact ⟨a, ha, hbacked.mono hrows⟩

theorem StagesBacked.mono {db : Orchestration.Db} (h : StagesBacked db rows) (hrows : rows ⊆ rows') :
    StagesBacked db rows' :=
  fun id a ha hbound st hst hcomplete => (h id a ha hbound st hst hcomplete).mono hrows

/-- A step leaves the outcomes backed if the answer it carries, if any, is. -/
theorem OutcomesBacked.step (h : OutcomesBacked w rows) (hanswer : AnswerBacked w rows action) :
    OutcomesBacked (w.step (now, action)) rows := by
  intro call target st actor o stack hcall ho hst
  have hbacked : OutcomeBacked w.db rows target st o := by
    rcases Orchestration.call_step hcall with hold | ⟨entry, hentry⟩ |
      ⟨reply, control, stack', haction, hcontrol, hstep, -⟩
    · exact h call target st actor o stack hold
    · cases entry <;> cases hentry
    · obtain ⟨rfl, rfl⟩ := recordOutcome_of_step hstep
      exact hanswer call target st actor o stack' haction hcontrol
  obtain ⟨a, ha, hbacked⟩ := hbacked ho hst
  obtain ⟨a', ha', hsame⟩ := row_kept ha
  exact ⟨a', ha', hbacked.congr hsame⟩

/-- An entry is completed with the outcome of its call; nothing else completes one, or changes its
    reference. -/
theorem StagesBacked.step (h : StagesBacked w.db rows) (houtcomes : OutcomesBacked w rows) :
    StagesBacked (w.step (now, action)).db rows := by
  intro id a' hget hbound st hst hcomplete
  rcases (Orchestration.db_step w now action).row hget with ⟨-, -, hnone⟩ | ⟨a, ha, hrow⟩
  · rw [hnone] at hbound
    cases hbound
  have hsame := rowStep_kept hrow
  have hkeep : a.workflowTemplateId.isSome →
      a'.workflowProgress.get st = a.workflowProgress.get st →
      Backed rows id a' st (a'.workflowProgress.get st).stageResultRef := by
    intro hbound heq
    rw [Orchestration.WorkflowProgress.isComplete, heq] at hcomplete
    rw [heq]
    exact (h id a ha hbound st hst hcomplete).congr hsame
  cases hrow with
  | same => exact hkeep hbound rfl
  | command _ heff =>
    obtain ⟨hp, hid, -⟩ := Orchestration.ApiCommand.effect_progress heff
    rw [Assessment.saved_template, hid] at hbound
    exact hkeep hbound (by rw [Assessment.saved_progress, hp])
  | @move i reply target control stack _ _ state hi hrow hmove =>
    cases hmove with
    | bound => simp [Assessment.saved, Orchestration.WorkflowProgress.isComplete] at hcomplete
    | @started st' =>
      by_cases heq : st = st'
      · subst heq
        rw [Orchestration.WorkflowProgress.isComplete, Assessment.saved_progress,
          Assessment.withStage_get, if_pos (by simp)] at hcomplete
        simp at hcomplete
      · exact hkeep hbound (by
          rw [Assessment.saved_progress, Assessment.withStage_get, if_neg (by simpa using heq)])
    | @completed st' actor _ o ho =>
      by_cases heq : st = st'
      · subst heq
        obtain ⟨b, hb, hbacked⟩ := houtcomes i target st actor o stack hi ho hst
        have hid : target.assessmentId.id = id :=
          (Lib.Table.key_of_get hrow.1).symm.trans (Lib.Table.key_of_get ha)
        rw [hid] at hb hbacked
        obtain rfl : a = b := by simpa [ha] using hb
        rw [Assessment.saved_progress, Assessment.withStage_get, if_pos (by simp)]
        exact hbacked.congr hsame
      · exact hkeep hbound (by
          rw [Assessment.saved_progress, Assessment.withStage_get, if_neg (by simpa using heq)])
    | @failed st' =>
      by_cases heq : st = st'
      · subst heq
        rw [Orchestration.WorkflowProgress.isComplete, Assessment.saved_progress,
          Assessment.withStage_get, if_pos (by simp)] at hcomplete
        simp at hcomplete
      · exact hkeep hbound (by
          rw [Assessment.saved_progress, Assessment.withStage_get, if_neg (by simpa using heq)])
    | _ => exact hkeep hbound rfl

end Workflow

section States

variable {s : Engines ι} {call : ℕ} {target : Target} {st : Orchestration.StageType}

theorem atExecutor_eq_some : s.atExecutor call = some (target, st) ↔
    ∃ actor stack, s.workflow.calls[call]? = some (target, .active (.callExecutor st actor) stack) := by
  unfold atExecutor
  constructor
  · intro h
    split at h
    · next hcall =>
      cases h
      exact ⟨_, _, hcall⟩
    · cases h
  · rintro ⟨actor, stack, hcall⟩
    rw [hcall]

/-- The executor issues its command for the row it has loaded. -/
theorem row_of_mayRecord {e : Analysis.Execution} (h : s.mayRecord target st e = true) :
    ∃ a, s.workflow.db.assessments.get target.assessmentId.id = some a ∧
      e.command.key = ⟨a.tenantId, target.assessmentId.id.value, analysisStage st⟩ ∧
      e.command.hazardType = analysisHazard a.hazardType := by
  unfold mayRecord at h
  split at h
  · cases h
  · next a ha =>
    obtain ⟨-, htenant, -, hid, hhazard, hstage, -⟩ := of_decide_eq_true h
    exact ⟨a, ha, by rw [RecordStageResult.key, htenant, hid, hstage]; rfl, hhazard⟩

/-- The results in the tables of the analysis. -/
def results (s : Engines ι) : List StageResult := s.analysis.world.db.stageResults.rows

end States

variable [DecidableEq ι] {lib : Analysis.Library} {jobs : ι → Job}

/-- What every state of a run keeps. -/
structure Sound (lib : Analysis.Library) (jobs : ι → Job) (s : Engines ι) : Prop where
  accounted : Analysis.Accounted (fun i => (jobs i).command lib) s.analysis
  answered : Analysis.Answered (fun i => (jobs i).command lib) s.analysis
  phases : ∀ call, PhaseSound jobs s.workflow.db s.results (s.atExecutor call) (s.phases call)
  outcomes : OutcomesBacked s.workflow s.results
  stages : StagesBacked s.workflow.db s.results

section Step

variable {s : Engines ι} {call : ℕ} {target : Target} {st : Orchestration.StageType} {now : Timestamp}
  {action : Orchestration.Action}

omit [DecidableEq ι] in
/-- A session that has returned a result has put it into the tables. -/
theorem Sound.result (h : Sound lib jobs s) {j : ι} {e : Analysis.Execution} {result : StageResult}
    (hj : jobs j = .record e) (hresult : s.resultOf j = some result) :
    result ∈ s.results ∧ result.key = e.command.key ∧ result.hazardType = e.command.hazardType := by
  unfold resultOf at hresult
  split at hresult
  · next r hr =>
    cases hresult
    have hcommand : (jobs j).command lib = e.run (Analysis.applicationRegistry lib) := by rw [hj]; rfl
    obtain ⟨r', hr', heq, -, hkey, hhazard, -⟩ := h.answered.result j _ e.command e.provided e.id e.now
      hcommand _ (Session.result_eq_some.mp hr)
    cases heq
    exact ⟨hr', hkey, hhazard⟩
  · cases hresult

omit [DecidableEq ι] in
/-- The result of the session that a call waits for is that of its stage. -/
theorem Sound.recorded (h : Sound lib jobs s) {j : ι} {result : StageResult}
    (hphase : PhaseSound jobs s.workflow.db s.results (some (target, st)) (.recording j))
    (hresult : s.resultOf j = some result) :
    ∃ a, s.workflow.db.assessments.get target.assessmentId.id = some a ∧ result ∈ s.results ∧
      IsResultOf target.assessmentId.id a st result := by
  obtain ⟨target', st', a, e, hcall, ha, hj, hkey, hhazard⟩ := hphase
  cases hcall
  obtain ⟨hr, hkey', hhazard'⟩ := h.result hj hresult
  exact ⟨a, ha, hr, hkey'.trans hkey, hhazard'.trans hhazard⟩

omit [DecidableEq ι] in
/-- An executor that answers with a success refers to a result that is there. -/
theorem Sound.reply_backed (h : Sound lib jobs s) {answer : Answer} {o : StageExecutionOutcome}
    (hcall : s.atExecutor call = some (target, st))
    (hreply : s.reply target st (s.phases call) answer = some (.outcome o)) :
    OutcomeBacked s.workflow.db s.results target st o := by
  intro ho hst
  have hphase := h.phases call
  rw [hcall] at hphase
  generalize s.phases call = phase at hphase hreply
  cases answer with
  | returns =>
    cases phase with
    | idle =>
      simp only [reply, hst] at hreply
      split at hreply
      · cases hreply
      · cases hreply
        cases ho
    | recording j =>
      simp only [reply, hst] at hreply
      obtain ⟨result, hresult, heq⟩ := Option.map_eq_some_iff.mp hreply
      obtain rfl := ExecutorReply.outcome.inj heq
      obtain ⟨a, ha, hr, hresult⟩ := h.recorded hphase hresult
      exact ⟨a, ha, backed_outcomeOf hr hresult ho⟩
    | layering result k =>
      simp only [reply, hst] at hreply
      cases hreply
      obtain ⟨target', st', a, hcall', ha, hr, hresult⟩ := hphase
      cases hcall'
      exact ⟨a, ha, backed_outcomeOf hr hresult ho⟩
  | raises message =>
    cases phase with
    | idle =>
      simp only [reply, hst] at hreply
      cases hreply
    | recording j =>
      simp only [reply, hst] at hreply
      cases hreply
      cases ho
    | layering result k =>
      simp only [reply, hst] at hreply
      cases hreply
  | validated reply' =>
    simp only [reply, hst] at hreply
    cases hreply

omit [DecidableEq ι] in
theorem Sound.workflow_step (h : Sound lib jobs s) {phases : ℕ → Phase ι}
    (hphases : ∀ call, phases call = .idle ∨ phases call = s.phases call ∧
      ∀ reply, action = .engineStep call reply → s.atExecutor call = none)
    (hanswer : AnswerBacked s.workflow s.results action) :
    Sound lib jobs { s with workflow := s.workflow.step (now, action), phases := phases } := by
  refine ⟨h.accounted, h.answered, fun call => ?_, h.outcomes.step hanswer, h.stages.step h.outcomes⟩
  change PhaseSound jobs _ _ _ (phases call)
  rcases hphases call with hidle | ⟨hsame, hnone⟩
  · rw [hidle]
    trivial
  · rw [hsame]
    refine (h.phases call).evolves (List.Subset.refl _) (fun _ _ ha => row_kept ha) ?_
    rintro ⟨target, st⟩ hat
    obtain ⟨actor, stack, hcall⟩ := atExecutor_eq_some.mp hat
    refine atExecutor_eq_some.mpr ⟨actor, stack, call_kept hcall fun reply heq => ?_⟩
    rw [hnone reply heq] at hat
    cases hat

theorem Sound.analysis_step (h : Sound lib jobs s) (j : ι) :
    Sound lib jobs { s with analysis := s.analysis.step (j, ()) } := by
  have hrows : s.results ⊆ (s.analysis.step (j, ())).world.db.stageResults.rows := by
    rw [Traced.step_world]
    exact h.accounted.kept (j, ())
  exact ⟨h.accounted.step _, h.answered.step h.accounted _,
    fun call => (h.phases call).evolves hrows (fun _ a ha => ⟨a, ha, rfl, rfl⟩) fun _ hx => hx,
    h.outcomes.mono hrows, h.stages.mono hrows⟩

omit [DecidableEq ι] in
/-- A call goes on to a phase it has the evidence for. -/
theorem Sound.phase_step (h : Sound lib jobs s) {phase : Phase ι} (begun : List ι)
    (hphase : PhaseSound jobs s.workflow.db s.results (s.atExecutor call) phase) :
    Sound lib jobs { s with phases := Function.update s.phases call phase, begun := begun } := by
  refine ⟨h.accounted, h.answered, fun call' => ?_, h.outcomes, h.stages⟩
  change PhaseSound jobs s.workflow.db s.results (s.atExecutor call')
    (Function.update s.phases call phase call')
  rcases eq_or_ne call' call with rfl | hne
  · rw [Function.update_self]
    exact hphase
  · rw [Function.update_of_ne hne]
    exact h.phases call'

theorem Sound.step (h : Sound lib jobs s) (t : Timestamp × Event ι) : Sound lib jobs (s.step jobs t) := by
  obtain ⟨now, event⟩ := t
  cases event with
  | workflow action =>
    simp only [Engines.step]
    split
    · exact h
    · next hanswer =>
      refine h.workflow_step (fun call => .inr ⟨rfl, ?_⟩) ?_
      · rintro reply rfl
        exact Option.not_isSome_iff_eq_none.mp hanswer
      · rintro call target st actor o stack rfl hcall
        exact absurd (Option.isSome_of_eq_some (atExecutor_eq_some.mpr ⟨actor, stack, hcall⟩)) hanswer
  | begin call j =>
    simp only [Engines.step]
    split
    · next target st e hat hidle hj =>
      split
      · next hmay =>
        obtain ⟨a, ha, hkey, hhazard⟩ := row_of_mayRecord hmay.2
        exact h.phase_step _ ⟨target, st, a, e, hat, ha, hj, hkey, hhazard⟩
      · exact h
    · exact h
  | analyse call =>
    simp only [Engines.step]
    split
    · exact h.analysis_step _
    · exact h.analysis_step _
    · exact h
  | layer call k =>
    simp only [Engines.step]
    split
    · next target st j c id at_ hat hphase hk =>
      split
      · next e result hj hresult =>
        split
        · have hsound := h.phases call
          rw [hat, hphase] at hsound
          obtain ⟨a, ha, hr, hresult⟩ := h.recorded hsound hresult
          exact h.phase_step _ ⟨target, st, a, hat, ha, hr, hresult⟩
        · exact h
      · exact h
    · exact h
  | answer call answer =>
    simp only [Engines.step]
    split
    · exact h
    · next target st hat =>
      split
      · exact h
      · next reply hreply =>
        refine h.workflow_step (fun call' => ?_) ?_
        · rcases eq_or_ne call' call with rfl | hne
          · exact .inl (Function.update_self ..)
          · refine .inr ⟨Function.update_of_ne hne .., fun reply' heq => ?_⟩
            cases heq
            exact absurd rfl hne
        · intro call' target' st' actor o stack heq hcall
          cases heq
          have hat' := atExecutor_eq_some.mpr ⟨actor, stack, hcall⟩
          rw [hat] at hat'
          cases hat'
          exact h.reply_backed hat hreply

end Step

theorem sound_run (lib : Analysis.Library) (jobs : ι → Job) (events : List (Timestamp × Event ι)) :
    Sound lib jobs (events.foldl (Engines.step jobs) (.initial lib jobs)) := by
  refine Lib.inv_foldl (P := Sound lib jobs) (fun s t h => h.step t) events ⟨?_, ?_, ?_, ?_, ?_⟩
  · exact Analysis.accounted_run (fun i => (jobs i).command lib) []
  · exact Analysis.answered_run (fun i => (jobs i).command lib) []
  · intro call
    trivial
  · intro call target st actor o stack hcall
    simp [initial, Sys.initial] at hcall
  · intro id a ha
    simp [initial, Sys.initial, Orchestration.Db.empty] at ha

end Engines

/-! ### Runs -/

section Runs

variable {ι : Type} [DecidableEq ι]

/-- The engines after some events. -/
abbrev after (lib : Analysis.Library) (jobs : ι → Job) (events : List (Timestamp × Event ι)) :
    Engines ι :=
  events.foldl (Engines.step jobs) (.initial lib jobs)

/-- Whatever the interleaving, a stage of a workflow that is complete and is one of a hazard refers to a
    complete result in the tables of the analysis, of its assessment and its hazard; and a risk is made
    of three indices that are there too. -/
theorem complete_stages_backed (lib : Analysis.Library) (jobs : ι → Job)
    (events : List (Timestamp × Event ι)) {id : AssessmentId} {a : Assessment}
    {st : Orchestration.StageType} (ha : (after lib jobs events).workflow.db.assessments.get id = some a)
    (hbound : a.workflowTemplateId.isSome) (hst : compositeStageExecutor st = .analysis)
    (hcomplete : a.workflowProgress.isComplete st) :
    ∃ r ∈ (after lib jobs events).results, IsResultOf id a st r ∧ r.status = .complete ∧
      (a.workflowProgress.get st).stageResultRef = some (toString r.id) ∧
      (st = .risk → Analysis.RiskAccounted (after lib jobs events).results r) := by
  have hsound := Engines.sound_run lib jobs events
  obtain ⟨r, hr, hresult, hstatus, href⟩ := hsound.stages id a ha hbound st hst hcomplete
  refine ⟨r, hr, hresult, hstatus, href, ?_⟩
  rintro rfl
  exact Analysis.riskAccounted_of_provenance (fun i => (jobs i).uses lib) (hsound.accounted.rows r hr)
    hstatus (congrArg StageKey.stageType hresult.key)

end Runs

/-! ### A run -/

/-- The stages of a flood assessment, the risk after the three it is computed from. -/
def floodStages : List StageDefinition := [
  .initial .hazard .automatic, .initial .exposure .automatic, .initial .vulnerability .automatic,
  { StageDefinition.initial .risk .automatic with
    requiredPredecessors := {.hazard, .exposure, .vulnerability}, not_self := by decide }]

def river : Target := ⟨⟨1⟩, ⟨"1", ⟨1⟩⟩⟩

def riverJobs (i : Fin 4) : Job :=
  .record {
    command := { Analysis.sampleCommand i with
      tenantId := ⟨1⟩, assessmentId := ⟨"1", 1⟩, issuedBy := Orchestration.SYSTEM_ACTOR }
    provided := .ok (Analysis.sampleUpload (Analysis.sampleStages.getD i .risk)), id := ⟨i⟩, now := i }

/-- The call goes on, to its next executor or to its end. -/
def turns : List (Event (Fin 4)) := List.replicate 6 (.workflow (.engineStep 0 (.raises "")))

/-- It gets to its executor, a session is run for it, and the executor answers. -/
def stageEvents (session : Fin 4) : List (Event (Fin 4)) :=
  turns ++ [.begin 0 session] ++ List.replicate 5 (.analyse 0) ++ [.answer 0 .returns]

/-- A template is published, and a workflow is started under it. -/
def riverSetup : List (Event (Fin 4)) := [
  .workflow (.createWorkflowTemplate ⟨1⟩ .flood "Flood" floodStages),
  .workflow (.publishWorkflowTemplate ⟨"1", ⟨1⟩⟩),
  .workflow (.createAssessment ⟨1⟩ ⟨1⟩ "River" .flood ⟨1⟩),
  .workflow (.command river ⟨1⟩ .markReady),
  .workflow (.invoke river (.startWorkflow ⟨"1", ⟨1⟩⟩ ⟨1⟩))]

/-- The workflow to its end. -/
def riverEvents : List (Timestamp × Event (Fin 4)) :=
  (riverSetup ++ (List.finRange 4).flatMap stageEvents ++ turns).map fun event => (0, event)

def riverAfter : Engines (Fin 4) := after Analysis.sampleLibrary riverJobs riverEvents

/-- The workflow of the river comes to its end, with a risk that is made of what the other stages have
    recorded. -/
theorem complete_stages_backed_river : ∃ a r, riverAfter.workflow.db.assessments.get ⟨1⟩ = some a ∧
    a.status = .validated ∧ r ∈ riverAfter.results ∧ IsResultOf ⟨1⟩ a .risk r ∧
      Analysis.RiskAccounted riverAfter.results r := by
  have hrow : (riverAfter.workflow.db.assessments.get ⟨1⟩).any (fun a =>
      a.workflowTemplateId.isSome ∧ a.workflowProgress.isComplete .risk ∧ a.status = .validated) =
        true := by
    decide +kernel
  obtain ⟨a, ha, hp⟩ := (Option.any_eq_true _ _).mp hrow
  obtain ⟨hbound, hcomplete, hstatus⟩ := of_decide_eq_true hp
  unfold riverAfter at ha ⊢
  have hanalysis : compositeStageExecutor .risk = .analysis := rfl
  obtain ⟨r, hr, hresult, -, -, hrisk⟩ := complete_stages_backed Analysis.sampleLibrary riverJobs
    riverEvents ha hbound hanalysis hcomplete
  exact ⟨a, r, ha, hstatus, hr, hresult, hrisk rfl⟩

end GeoRisk.Api.StageExecutors
