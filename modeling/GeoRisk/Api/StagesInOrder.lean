import GeoRisk.Api.StageEvidence

/-! Workflows whose stages are started in order. What a stage is computed from is there before it starts,
    by the order of the stages; it is read by the session that is opened for it, while other sessions
    commit; so no stage that is computed from others fails:

        predecessors complete ─▶ their results are there ─▶ begin j ─▶ session j reads ─▶ COMPLETE
           StagesOrdered             StagesBacked            fresh        DerivedRun -/

namespace GeoRisk.Api.StageExecutors

open Lib
open Orchestration (Assessment AssessmentId Target StageExecutionOutcome ExecutorReply Control CallState
  Sys RowStep Move StageDefinition Actor WorkflowTemplate Allowed)
open Analysis (RecordStageResult StageResult StageKey HazardStrategy)

/-- The stages a stage is computed from, with either strategy. -/
def sourceStages : Orchestration.StageType → List Orchestration.StageType
  | .risk => [.hazard, .exposure, .vulnerability]
  | .resilience => [.vulnerability]
  | _ => []

/-- A template has a stage after those it is computed from. -/
def OrdersSources (T : WorkflowTemplate) : Prop :=
  ∀ sd ∈ T.stageDefinitions, ∀ st ∈ sourceStages sd.stageType, st ∈ sd.requiredPredecessors

theorem inputDependencies_stages {lib : Analysis.Library} {hazard : Analysis.HazardType}
    {strategy : HazardStrategy} (h : (Analysis.applicationRegistry lib).getStrategy hazard = .ok strategy)
    (st : Orchestration.StageType) : (strategy.inputDependencies (analysisStage st)).map (·.1) =
      (sourceStages st).map analysisStage := by
  cases hazard with
  | flood => cases h; cases st <;> rfl
  | wildfire => cases h; cases st <;> rfl
  | _ => cases h

theorem analysis_of_source {st st' : Orchestration.StageType} (h : st' ∈ sourceStages st) :
    compositeStageExecutor st' = .analysis := by
  cases st <;> simp [sourceStages] at h
  · rcases h with rfl | rfl | rfl <;> rfl
  · obtain rfl := h
    rfl

section Workflow

variable {w : Sys} {now : Timestamp} {action : Orchestration.Action}

/-- When a user's call is about to start a stage, the stage may run. -/
def StartsInOrder (w : Sys) : Orchestration.Action → Prop
  | .engineStep call _ => ∀ target st user stack,
      w.calls[call]? = some (target, .active (.executeStage st (.user user)) stack) →
        ∀ a, w.db.Row target a → a.status = .running → (a.workflowProgress.get st).Startable →
          Allowed w.db a st
  | _ => True

/-- A call gets to an executor by starting the stage. -/
theorem started_of_move {templates : Orchestration.WorkflowTemplateId → Option WorkflowTemplate}
    {reply : Orchestration.StageType → ExecutorReply} {a a' : Assessment} {control : Control}
    {stack stack' : List (List StageDefinition)} {st : Orchestration.StageType} {actor : Actor}
    {state : CallState} (h : Move templates reply now a control stack a' state)
    (hstate : state = .active (.callExecutor st actor) stack') :
    control = .executeStage st actor ∧ a.status = .running ∧ (a.workflowProgress.get st).Startable := by
  have hno : ∀ {state : CallState}, state.Between → state ≠ .active (.callExecutor st actor) stack' := by
    rintro _ hb rfl
    cases hb
  cases h with
  | started hrun hst =>
    cases hstate
    exact ⟨rfl, hrun, hst⟩
  | afterCompletion => exact absurd hstate (hno (Orchestration.between_onStageCompleted _ _ _))
  | advanced => exact absurd hstate (hno (Orchestration.between_ret _))
  | afterFailure => exact absurd hstate (hno (Orchestration.between_onStageFailed _ _ _ _))
  | dispatched => exact absurd hstate (hno (Orchestration.between_dispatchRunnableStages _ _ _))
  | loopEnd => exact absurd hstate (hno (Orchestration.between_ret _))
  | turn => exact absurd hstate (hno (Orchestration.between_forEachTurn _ _ _ _))
  | _ => cases hstate

/-- Stages have begun in order, and those at an executor were allowed to. -/
structure InOrder (w : Sys) : Prop where
  honest : Orchestration.HonestCalls w
  ordered : Orchestration.StagesOrdered w.db
  executing : ∀ (call : ℕ) target st actor stack,
    w.calls[call]? = some (target, .active (.callExecutor st actor) stack) →
      ∃ a, w.db.Row target a ∧ Orchestration.Past a ∧ Allowed w.db a st

theorem inOrder_initial : InOrder .initial := by
  refine ⟨?_, ?_, ?_⟩
  · intro j target state hj
    simp [Sys.initial] at hj
  · intro id a ha
    simp [Sys.initial, Orchestration.Db.empty] at ha
  · intro call target st actor stack hcall
    simp [Sys.initial] at hcall

theorem InOrder.step (h : InOrder w) (hstarts : StartsInOrder w action) :
    InOrder (w.step (now, action)) := by
  have hmanual : Orchestration.ManualStartAllowed w (now, action) := by
    cases action with
    | engineStep call reply =>
      intro target st user stack hcall a ha _ hrun hst
      exact hstarts target st user stack hcall a ha hrun hst
    | _ => trivial
  have hevolves := (Orchestration.db_step w now action).evolves
  refine ⟨Orchestration.honestCalls_step (now, action) h.ordered h.honest,
    (Orchestration.stagesOrdered_step (now, action) h.honest h.ordered).mpr hmanual, ?_⟩
  intro call target st actor stack hcall
  have hallowed : ∃ a, w.db.Row target a ∧ Allowed w.db a st ∧
      ∃ a', (w.step (now, action)).db.Row target a' ∧ Orchestration.Past a' ∧
        a'.workflowTemplateId = a.workflowTemplateId ∧
        ∀ st, a.workflowProgress.isComplete st → a'.workflowProgress.isComplete st := by
    rcases Orchestration.call_step hcall with hold | ⟨entry, hentry⟩ |
      ⟨reply, control, stack', rfl, hcontrol, hstep, hdb⟩
    · obtain ⟨a, ⟨ha, htenant⟩, hpast, hallowed⟩ := h.executing call target st actor stack hold
      obtain ⟨a', ha', hrow⟩ := hevolves.row ha
      exact ⟨a, ⟨ha, htenant⟩, hallowed, a', ⟨ha', hrow.tenantId.trans htenant⟩, hrow.past hpast,
        hrow.template hpast, hrow.complete hpast⟩
    · cases entry <;> cases hentry
    · by_cases hrow : ∃ a, w.db.Row target a
      · obtain ⟨a, ha⟩ := hrow
        obtain ⟨a', hmove, -⟩ := Orchestration.step_move ha (fun _ => reply) now control stack'
        obtain ⟨rfl, hrun, hst⟩ := started_of_move hmove hstep
        have hpast : Orchestration.Past a := by simp [Orchestration.Past, hrun]
        obtain ⟨a', ha', hrow⟩ := hevolves.row ha.1
        refine ⟨a, ha, ?_, a', ⟨ha', hrow.tenantId.trans ha.2⟩, hrow.past hpast, hrow.template hpast,
          hrow.complete hpast⟩
        cases actor with
        | user user => exact hstarts target st user stack' hcontrol a ha hrun hst
        | system => exact ((h.honest call target _ hcontrol).underWay ha (by simp) (by simp)).promises
      · have hhonest : (control.step target (fun _ => reply) now w.db stack').2.Honest w.db target :=
          Orchestration.honest_foreign (h.honest call target _ hcontrol) fun a ha => hrow ⟨a, ha⟩
        rw [hstep] at hhonest
        obtain ⟨a, ha, -⟩ := hhonest
        exact absurd ⟨a, ha⟩ hrow
  obtain ⟨a, -, hallowed, a', ha', hpast, hid, hcomplete⟩ := hallowed
  exact ⟨a', ha', hpast, hallowed.evolves hevolves hid hcomplete⟩

end Workflow

/-! ### Sessions that are opened in order -/

/-- The key and the hazard are those of an assessment in the tables. -/
def IsOfAssessment (db : Orchestration.Db) (key : StageKey) (hazard : Analysis.HazardType) : Prop :=
  ∃ a, db.assessments.get ⟨key.assessmentId⟩ = some a ∧ hazard = analysisHazard a.hazardType

theorem IsOfAssessment.unique {db : Orchestration.Db} {key key' : StageKey}
    {hazard hazard' : Analysis.HazardType} (h : IsOfAssessment db key hazard)
    (h' : IsOfAssessment db key' hazard') (hid : key.assessmentId = key'.assessmentId) :
    hazard = hazard' := by
  obtain ⟨a, ha, rfl⟩ := h
  obtain ⟨b, hb, rfl⟩ := h'
  obtain rfl : a = b := by simpa [hid, hb] using ha.symm
  rfl

theorem IsOfAssessment.kept {w : Orchestration.Sys} {now : Timestamp} {action : Orchestration.Action}
    {key : StageKey} {hazard : Analysis.HazardType} (h : IsOfAssessment w.db key hazard) :
    IsOfAssessment (w.step (now, action)).db key hazard := by
  obtain ⟨a, ha, rfl⟩ := h
  obtain ⟨a', ha', -, hsame⟩ := row_kept ha
  exact ⟨a', ha', by rw [hsame]⟩

namespace Engines

variable {ι : Type} [DecidableEq ι] {lib : Analysis.Library} {jobs : ι → Job}

/-- The session that a call waits for. -/
def session : Phase ι → Option ι
  | .idle => none
  | .recording j => some j
  | .layering _ j => some j

/-- What every state of a run keeps in which stages are started in order. -/
structure Ordered (lib : Analysis.Library) (jobs : ι → Job) (s : Engines ι) : Prop where
  inOrder : InOrder s.workflow
  fresh : ∀ j, j ∉ s.begun → s.analysis.world.sessions j = .running ((jobs j).command lib).txn
  waits : ∀ call j, session (s.phases call) = some j → j ∈ s.begun
  commands : ∀ j ∈ s.begun, ∀ e, jobs j = .record e →
    IsOfAssessment s.workflow.db e.command.key e.command.hazardType
  rows : ∀ r ∈ s.results, IsOfAssessment s.workflow.db r.key r.hazardType
  derived : ∀ j ∈ s.begun, ∀ e, jobs j = .record e → ∀ strategy : HazardStrategy,
    (Analysis.applicationRegistry lib).getStrategy e.command.hazardType = .ok strategy →
      strategy.inputDependencies e.command.stageType ≠ [] →
        Analysis.DerivedRun j e.command strategy s.analysis.world
  complete : ∀ r ∈ s.results, ∀ strategy : HazardStrategy,
    (Analysis.applicationRegistry lib).getStrategy r.hazardType = .ok strategy →
      strategy.inputDependencies r.stageType ≠ [] → r.status = .complete

section Step

variable {s : Engines ι} {call : ℕ} {target : Target} {st : Orchestration.StageType} {now : Timestamp}
  {action : Orchestration.Action} {j : ι} {e : Analysis.Execution}

omit [DecidableEq ι] in
/-- Results of the assessment of a command are of its hazard. -/
theorem oneHazard_of_rows {db : Orchestration.Db} {rows : List StageResult}
    (hrows : ∀ r ∈ rows, IsOfAssessment db r.key r.hazardType)
    (hcommand : IsOfAssessment db e.command.key e.command.hazardType) :
    Analysis.OneHazard e.command rows :=
  fun r hr _ hassessment => (hrows r hr).unique hcommand hassessment

omit [DecidableEq ι] in
theorem Sound.serves (h : Sound lib jobs s) {strategy : HazardStrategy}
    (hstrategy : (Analysis.applicationRegistry lib).getStrategy e.command.hazardType = .ok strategy)
    {db : Orchestration.Db} (hrows : ∀ r ∈ s.results, IsOfAssessment db r.key r.hazardType)
    (hcommand : IsOfAssessment db e.command.key e.command.hazardType) :
    Analysis.Serves e.command strategy s.analysis.world.db :=
  Analysis.serves_of_provenance (fun i => (jobs i).uses lib) hstrategy
    (oneHazard_of_rows hrows hcommand) h.accounted.rows

omit [DecidableEq ι] in
/-- At an executor the stages before are complete, so there are results for them. -/
theorem Sound.supplied (h : Sound lib jobs s) (hordered : InOrder s.workflow)
    (htemplates : ∀ id T, s.workflow.db.workflowTemplates.get id = some T → OrdersSources T)
    (hat : s.atExecutor call = some (target, st)) {a : Assessment}
    (ha : s.workflow.db.assessments.get target.assessmentId.id = some a)
    (hkey : e.command.key = ⟨a.tenantId, target.assessmentId.id.value, analysisStage st⟩)
    {strategy : HazardStrategy}
    (hstrategy : (Analysis.applicationRegistry lib).getStrategy e.command.hazardType = .ok strategy) :
    Analysis.Supplied e.command strategy s.analysis.world.db := by
  obtain ⟨actor, stack, hcall⟩ := atExecutor_eq_some.mp hat
  obtain ⟨b, hb, -, id, T, hid, hT, sd, hsd, hstage, hcomplete⟩ :=
    hordered.executing call target st actor stack hcall
  obtain rfl : a = b := by simpa [ha] using hb.1
  intro d hd
  have hstageType : e.command.stageType = analysisStage st := congrArg StageKey.stageType hkey
  rw [hstageType] at hd
  have hmem : d.1 ∈ (sourceStages st).map analysisStage := by
    rw [← inputDependencies_stages hstrategy st]
    exact List.mem_map_of_mem hd
  obtain ⟨st', hst', heq⟩ := List.mem_map.mp hmem
  have hdone := hcomplete st' (htemplates id T hT sd hsd st' (hstage ▸ hst'))
  obtain ⟨r, hr, hresult, hstatus, -⟩ := h.stages _ a ha (by rw [hid]; rfl) st'
    (analysis_of_source hst') hdone
  exact ⟨r, hr, by rw [hresult.key, hkey, heq], hstatus⟩

omit [DecidableEq ι] in
theorem Ordered.workflow_step (h : Ordered lib jobs s) {phases : ℕ → Phase ι}
    (hphases : ∀ call, phases call = .idle ∨ phases call = s.phases call)
    (hstarts : StartsInOrder s.workflow action) :
    Ordered lib jobs { s with workflow := s.workflow.step (now, action), phases := phases } := by
  refine ⟨h.inOrder.step hstarts, h.fresh, fun call j hj => ?_,
    fun j hj e he => (h.commands j hj e he).kept, fun r hr => (h.rows r hr).kept, h.derived, h.complete⟩
  change session (phases call) = some j at hj
  rcases hphases call with hidle | hsame
  · rw [hidle] at hj
    cases hj
  · rw [hsame] at hj
    exact h.waits call j hj

/-- What a step of a session adds to the results is what the session returns. -/
theorem Sound.mem_of_step (h : Sound lib jobs s) {r : StageResult}
    (hr : r ∈ (s.analysis.step (j, ())).world.db.stageResults.rows) :
    r ∈ s.results ∨ ∃ e, jobs j = .record e ∧ r.key = e.command.key ∧
      r.hazardType = e.command.hazardType ∧
      (s.analysis.step (j, ())).world.sessions j = .committed (.ok (.stageResult r)) := by
  rw [Traced.step_world] at hr ⊢
  rcases s.analysis.world.step_commit_or_quiet (j, ()) with
    ⟨write, result, db', ht, hwrite, hstep⟩ | ⟨hsame, -⟩
  · have hC := h.accounted.tracked.ending j _ ht
    rw [hstep] at hr ⊢
    change r ∈ db'.stageResults.rows at hr
    cases hjob : jobs j with
    | record e =>
      simp only [hjob] at hC
      obtain ⟨r', event, now', rfl, rfl, -, hkey, hhazard, -⟩ := hC
      rw [Analysis.insertResult_rows hwrite] at hr
      rcases List.mem_append.mp hr with hr | hr
      · exact .inl hr
      · obtain rfl := List.mem_singleton.mp hr
        exact .inr ⟨e, rfl, hkey, hhazard, World.set_self ..⟩
    | layer c id now =>
      simp only [hjob] at hC
      obtain ⟨layer, event, now, rfl⟩ := hC
      rw [Analysis.insertLayer_rows hwrite] at hr
      exact .inl hr
  · rw [hsame] at hr
    exact .inl hr

theorem Ordered.analysis_step (h : Ordered lib jobs s) (hsound : Sound lib jobs s) (hj : j ∈ s.begun) :
    Ordered lib jobs { s with analysis := s.analysis.step (j, ()) } := by
  have hworld : (s.analysis.step (j, ())).world = s.analysis.world.step (j, ()) := Traced.step_world ..
  have hrows : ∀ r ∈ (s.analysis.step (j, ())).world.db.stageResults.rows,
      IsOfAssessment s.workflow.db r.key r.hazardType := by
    intro r hr
    rcases hsound.mem_of_step hr with hold | ⟨e, hjob, hkey, hhazard, -⟩
    · exact h.rows r hold
    · rw [hkey, hhazard]
      exact h.commands j hj e hjob
  have hderived : ∀ k ∈ s.begun, ∀ e, jobs k = .record e → ∀ strategy : HazardStrategy,
      (Analysis.applicationRegistry lib).getStrategy e.command.hazardType = .ok strategy →
        strategy.inputDependencies e.command.stageType ≠ [] →
          Analysis.DerivedRun k e.command strategy (s.analysis.step (j, ())).world := by
    intro k hk e he strategy hstrategy hne
    have hserves := (hsound.analysis_step j).serves hstrategy hrows (h.commands k hk e he)
    change Analysis.Serves e.command strategy (s.analysis.step (j, ())).world.db at hserves
    rw [hworld] at hserves ⊢
    exact (h.derived k hk e he strategy hstrategy hne).step (j, ()) (hsound.accounted.kept (j, ())) hserves
  refine ⟨h.inOrder, fun k hk => ?_, h.waits, h.commands, hrows, hderived, ?_⟩
  · change (s.analysis.step (j, ())).world.sessions k = _
    rw [hworld, s.analysis.world.step_sessions_of_ne (t := (j, ())) (by rintro rfl; exact hk hj)]
    exact h.fresh k hk
  · intro r hr strategy hstrategy hne
    rcases hsound.mem_of_step hr with hold | ⟨e, hjob, hkey, hhazard, hcommitted⟩
    · exact h.complete r hold strategy hstrategy hne
    · have hstage : r.stageType = e.command.stageType := congrArg StageKey.stageType hkey
      rw [hhazard] at hstrategy
      rw [hstage] at hne
      obtain ⟨r', heq, hstatus⟩ := (hderived j hj e hjob strategy hstrategy hne).result _ hcommitted
      cases heq
      exact hstatus

omit [DecidableEq ι] in
/-- A call that opens a session waits for it. -/
theorem Ordered.waits_update (h : Ordered lib jobs s) {phase : Phase ι}
    (hsession : session phase = some j) (call' : ℕ) (k : ι)
    (hk : session (Function.update s.phases call phase call') = some k) : k ∈ j :: s.begun := by
  rcases eq_or_ne call' call with rfl | hcall
  · rw [Function.update_self, hsession] at hk
    obtain rfl := Option.some.inj hk
    exact List.mem_cons_self ..
  · rw [Function.update_of_ne hcall] at hk
    exact List.mem_cons_of_mem _ (h.waits call' k hk)

omit [DecidableEq ι] in
/-- A session is opened for a stage: what it will find is there. -/
theorem Ordered.begin_step (h : Ordered lib jobs s) (hsound : Sound lib jobs s)
    (htemplates : ∀ id T, s.workflow.db.workflowTemplates.get id = some T → OrdersSources T)
    (hat : s.atExecutor call = some (target, st)) (hj : jobs j = .record e) (hfresh : j ∉ s.begun)
    {a : Assessment} (ha : s.workflow.db.assessments.get target.assessmentId.id = some a)
    (hkey : e.command.key = ⟨a.tenantId, target.assessmentId.id.value, analysisStage st⟩)
    (hhazard : e.command.hazardType = analysisHazard a.hazardType) :
    Ordered lib jobs { s with
      phases := Function.update s.phases call (.recording j), begun := j :: s.begun } := by
  have hcommand : IsOfAssessment s.workflow.db e.command.key e.command.hazardType :=
    ⟨a, by rw [hkey]; exact ha, hhazard⟩
  refine ⟨h.inOrder, fun k hk => h.fresh k fun hmem => hk (List.mem_cons_of_mem _ hmem),
    h.waits_update rfl, fun k hk e' he' => ?_, h.rows, fun k hk e' he' strategy hstrategy hne => ?_,
    h.complete⟩
  · rcases List.mem_cons.mp hk with rfl | hk
    · obtain rfl := Job.record.inj (hj.symm.trans he')
      exact hcommand
    · exact h.commands k hk e' he'
  · rcases List.mem_cons.mp hk with rfl | hk
    · obtain rfl := Job.record.inj (hj.symm.trans he')
      have hsession : s.analysis.world.sessions k = .running (Analysis.recordStageResult
          (Analysis.applicationRegistry lib) e.command e.provided e.id e.now) := by
        rw [h.fresh k hfresh, hj]
        rfl
      exact .begin hsession hstrategy hne
        (hsound.supplied h.inOrder htemplates hat ha hkey hstrategy)
        (hsound.serves hstrategy h.rows hcommand)
    · exact h.derived k hk e' he' strategy hstrategy hne

omit [DecidableEq ι] in
theorem Ordered.layer_step (h : Ordered lib jobs s) {result : StageResult} {k : ι}
    {c : Analysis.GenerateRiskLayer} {id : Analysis.RiskLayerId} {at_ : Timestamp}
    (hk : jobs k = .layer c id at_) :
    Ordered lib jobs { s with
      phases := Function.update s.phases call (.layering result k), begun := k :: s.begun } := by
  have hne : ∀ {j}, j ∈ k :: s.begun → ∀ e, jobs j = .record e → j ∈ s.begun := by
    intro j hj e he
    rcases List.mem_cons.mp hj with rfl | hj
    · rw [hk] at he
      cases he
    · exact hj
  refine ⟨h.inOrder, fun j hj => h.fresh j fun hmem => hj (List.mem_cons_of_mem _ hmem),
    h.waits_update rfl, fun j hj e he => h.commands j (hne hj e he) e he, h.rows,
    fun j hj e he => h.derived j (hne hj e he) e he, h.complete⟩

/-- Users start stages in order, and the templates have every stage after its sources. -/
structure StepInOrder (s : Engines ι) (t : Timestamp × Event ι) : Prop where
  templates : ∀ id T, s.workflow.db.workflowTemplates.get id = some T → OrdersSources T
  starts : ∀ action, t.2 = .workflow action → StartsInOrder s.workflow action

theorem Ordered.step (h : Ordered lib jobs s) (hsound : Sound lib jobs s) (t : Timestamp × Event ι)
    (hok : StepInOrder s t) : Ordered lib jobs (s.step jobs t) := by
  obtain ⟨now, event⟩ := t
  cases event with
  | workflow action =>
    simp only [Engines.step]
    split
    · exact h
    · exact h.workflow_step (fun _ => .inr rfl) (hok.starts action rfl)
  | begin call j =>
    simp only [Engines.step]
    split
    · next target st e hat hidle hj =>
      split
      · next hmay =>
        obtain ⟨a, ha, hkey, hhazard⟩ := row_of_mayRecord hmay.2
        exact h.begin_step hsound hok.templates hat hj hmay.1 ha hkey hhazard
      · exact h
    · exact h
  | analyse call =>
    simp only [Engines.step]
    split
    · next j hphase => exact h.analysis_step hsound (h.waits call j (by rw [hphase]; rfl))
    · next result j hphase => exact h.analysis_step hsound (h.waits call j (by rw [hphase]; rfl))
    · exact h
  | layer call k =>
    simp only [Engines.step]
    split
    · next target st j c id at_ hat hphase hk =>
      split
      · split
        · exact h.layer_step hk
        · exact h
      · exact h
    · exact h
  | answer call answer =>
    simp only [Engines.step]
    split
    · exact h
    · next target st hat =>
      split
      · exact h
      · next reply hreply =>
        refine h.workflow_step (fun call' => ?_) ?_
        · rcases eq_or_ne call' call with rfl | hne
          · exact .inl (Function.update_self ..)
          · exact .inr (Function.update_of_ne hne ..)
        · -- a call at its executor starts no stage
          intro target' st' user stack hcall
          obtain ⟨actor, stack', hcall'⟩ := atExecutor_eq_some.mp hat
          rw [hcall'] at hcall
          cases hcall

end Step

omit [DecidableEq ι] in
theorem ordered_initial (lib : Analysis.Library) (jobs : ι → Job) :
    Ordered lib jobs (.initial lib jobs) := by
  refine ⟨inOrder_initial, fun _ _ => rfl, fun call j hj => ?_, fun j hj => ?_, fun r hr => ?_,
    fun j hj => ?_, fun r hr => ?_⟩
  · cases hj
  · cases hj
  · cases hr
  · cases hj
  · cases hr

end Engines

/-! ### Runs -/

variable {ι : Type} [DecidableEq ι]

/-- In a run in which users start stages in order, under templates that have every stage after its
    sources, no stage that is computed from others fails. -/
theorem derived_stages_complete (lib : Analysis.Library) (jobs : ι → Job)
    {events : List (Timestamp × Event ι)}
    (h : AllSteps (Engines.step jobs) Engines.StepInOrder (.initial lib jobs) events) :
    ∀ r ∈ (after lib jobs events).results, ∀ strategy : HazardStrategy,
      (Analysis.applicationRegistry lib).getStrategy r.hazardType = .ok strategy →
        strategy.inputDependencies r.stageType ≠ [] → r.status = .complete := by
  have hrun := allStates_of_inv (P := fun s => Engines.Sound lib jobs s ∧ Engines.Ordered lib jobs s)
    (fun s t hs hok => ⟨hs.1.step t, hs.2.step hs.1 t hok⟩)
    ⟨Engines.sound_run lib jobs [], Engines.ordered_initial lib jobs⟩ h
  exact hrun.last.2.complete

/-- A user's call is about to start a stage. -/
def startsByUser : Orchestration.CallState → Bool
  | .active (.executeStage _ (.user _)) _ => true
  | _ => false

/-- No user is about to start a stage, and no template has a stage before its sources. -/
def Automatic (s : Engines ι) : Prop :=
  (∀ T ∈ s.workflow.db.workflowTemplates.rows, OrdersSources T) ∧
    ∀ call ∈ s.workflow.calls, startsByUser call.2 = false

instance (T : WorkflowTemplate) : Decidable (OrdersSources T) :=
  inferInstanceAs (Decidable (∀ sd ∈ T.stageDefinitions, ∀ st ∈ sourceStages sd.stageType,
    st ∈ sd.requiredPredecessors))

omit [DecidableEq ι] in
instance (s : Engines ι) : Decidable (Automatic s) := inferInstanceAs (Decidable (_ ∧ _))

omit [DecidableEq ι] in
theorem Automatic.stepInOrder {s : Engines ι} (h : Automatic s) (t : Timestamp × Event ι) :
    Engines.StepInOrder s t := by
  refine ⟨fun id T hT => h.1 T (Table.mem_of_get hT), fun action _ => ?_⟩
  cases action with
  | engineStep call reply =>
    intro target st user stack hcall
    have hno := h.2 _ (List.mem_of_getElem? hcall)
    cases hno
  | _ => trivial

instance decidableAllSteps {σ α : Type} {step : σ → α → σ} {ok : σ → α → Prop}
    [∀ s a, Decidable (ok s a)] : ∀ (s : σ) (as : List α), Decidable (AllSteps step ok s as)
  | _, [] => isTrue trivial
  | s, a :: as =>
    have : Decidable (AllSteps step ok (step s a) as) := decidableAllSteps (step s a) as
    inferInstanceAs (Decidable (ok s a ∧ AllSteps step ok (step s a) as))

theorem derived_stages_complete_river : riverAfter.results.any (·.stageType = .risk) = true ∧
    ∀ r ∈ riverAfter.results, r.hazardType = .flood → r.stageType = .risk → r.status = .complete := by
  have hautomatic : AllSteps (Engines.step riverJobs) (fun s _ => Automatic s)
      (.initial Analysis.sampleLibrary riverJobs) riverEvents := by
    decide +kernel
  have hcomplete := derived_stages_complete Analysis.sampleLibrary riverJobs
    (hautomatic.imp_of_inv (J := fun _ => True) (fun _ _ _ _ => trivial)
      (fun _ t _ h => h.stepInOrder t) trivial)
  refine ⟨by decide +kernel, fun r hr hhazard hstage => hcomplete r hr _ (by rw [hhazard]; rfl) ?_⟩
  rw [hstage]
  exact List.cons_ne_nil _ _

end GeoRisk.Api.StageExecutors
