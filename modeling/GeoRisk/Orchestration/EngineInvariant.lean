import Mathlib
import GeoRisk.Orchestration.EngineRun

/-! What holds at every step of `startWorkflow`, for a template whose stage types are distinct and
    an executor that answers every call. The stage at the executor is the only one running, every
    stage a pending loop still holds has its predecessors complete, and every automatic stage that
    could run is settled, or pending in some loop, or the one being handled. A loop's list may be
    stale: its turns look at the live status again, so a stage finished meanwhile is passed by. -/

namespace GeoRisk.Orchestration

/-- The stage is automatic, of the template, and its predecessors are complete. -/
structure Waits (T : WorkflowTemplate) (p : WorkflowProgress) (sd : StageDefinition) : Prop where
  mem : sd ∈ T.stageDefinitions
  automatic : sd.triggerMode = .automatic
  predecessors : p.allComplete sd.requiredPredecessors

/-- Complete, or failed with no attempt left. -/
def Settled (p : WorkflowProgress) (sd : StageDefinition) : Prop :=
  p.isComplete sd.stageType ∨
    (p.get sd.stageType).status = .failed ∧ sd.maxAttempts ≤ (p.get sd.stageType).attemptCount

/-- Not all stages are complete, unless there are none. -/
def WorkLeft (T : WorkflowTemplate) (p : WorkflowProgress) : Prop :=
  p.allComplete T.requiredStageTypes → T.stageDefinitions = []

/-- Running with work left, or validated with none. -/
def Live (T : WorkflowTemplate) (s : AssessmentStatus) (p : WorkflowProgress) : Prop :=
  (s = .running ∧ WorkLeft T p) ∨ (s = .validated ∧ p.allComplete T.requiredStageTypes)

namespace Control

/-- The stage whose start this call committed and whose outcome it has not recorded. -/
def executing : Control → Option StageType
  | .callExecutor st _ => some st
  | .recordOutcome st _ _ => some st
  | _ => none

/-- The stages this control point answers for. -/
def Covers : Control → StageDefinition → Prop
  | .executeStage st _, sd => sd.stageType = st
  | .callExecutor st _, sd => sd.stageType = st
  | .recordOutcome st _ _, sd => sd.stageType = st
  | .onStageFailed st, sd => sd.stageType = st
  | .forEach pending, sd => sd ∈ pending
  | .onStageCompleted, _ => True
  | .dispatchRunnableStages, _ => True
  | _, _ => False

/-- What the assessment is like when the call is at this control point. -/
def Holds (T : WorkflowTemplate) (s : AssessmentStatus) (p : WorkflowProgress) : Control → Prop
  | .startWorkflow _ _ => False
  | .executeStage st _ => s = .running ∧ (p.get st).Startable ∧
      ∃ sd, Waits T p sd ∧ sd.stageType = st
  | .callExecutor st _ => s = .running ∧ ∃ sd, Waits T p sd ∧ sd.stageType = st
  | .recordOutcome st _ _ => s = .running ∧ ∃ sd, Waits T p sd ∧ sd.stageType = st
  | .onStageFailed st => s = .running ∧ (p.get st).status = .failed ∧
      ∃ sd, Waits T p sd ∧ sd.stageType = st
  | .onStageCompleted => s = .running
  | .dispatchRunnableStages => s = .running ∧ WorkLeft T p
  | .advance => s = .running ∧ p.allComplete T.requiredStageTypes
  | .forEach pending => Live T s p ∧ ∀ sd ∈ pending, Waits T p sd

end Control

/-- A call between two steps. -/
structure Progressing (T : WorkflowTemplate) (s : AssessmentStatus) (p : WorkflowProgress)
    (control : Control) (stack : List (List StageDefinition)) : Prop where
  holds : control.Holds T s p
  pending : ∀ l ∈ stack, ∀ sd ∈ l, Waits T p sd
  running_iff : ∀ st, (p.get st).status = .running ↔ control.executing = some st
  known : ∀ st, (p.get st).status ≠ .notStarted → st ∈ T.requiredStageTypes
  covered : ∀ sd, Waits T p sd → Settled p sd ∨ (∃ l ∈ stack, sd ∈ l) ∨ control.Covers sd

/-- A call that has returned. -/
structure Finished (T : WorkflowTemplate) (s : AssessmentStatus) (p : WorkflowProgress) :
    Prop where
  live : Live T s p
  not_running : ∀ st, (p.get st).status ≠ .running
  known : ∀ st, (p.get st).status ≠ .notStarted → st ∈ T.requiredStageTypes
  settled : ∀ sd, Waits T p sd → Settled p sd

def CallState.Valid (T : WorkflowTemplate) (s : AssessmentStatus) (p : WorkflowProgress) :
    CallState → Prop
  | .active control stack => Progressing T s p control stack
  | .returned => Finished T s p
  | .raised _ => False

section Step

variable {T : WorkflowTemplate} {s : AssessmentStatus} {p : WorkflowProgress} {control : Control}
  {stack : List (List StageDefinition)} {e : StageProgressEntry} {st : StageType}
  {sd : StageDefinition} {actor : Actor} {now : Timestamp}

theorem Waits.required (h : Waits T p sd) : sd.stageType ∈ T.requiredStageTypes :=
  WorkflowTemplate.mem_requiredStageTypes.mpr ⟨sd, h.mem, rfl⟩

/-! ### One entry replaced -/

theorem Waits.withEntry (hw : Waits T p sd) (h : p.Forward e) : Waits T (p.withEntry e) sd :=
  ⟨hw.mem, hw.automatic, h.allComplete hw.predecessors⟩

theorem Waits.of_withEntry (h : e.status ≠ .complete) (hw : Waits T (p.withEntry e) sd) :
    Waits T p sd :=
  ⟨hw.mem, hw.automatic, WorkflowProgress.allComplete_of_withEntry h hw.predecessors⟩

theorem Settled.withEntry (hs : Settled p sd) (h : sd.stageType ≠ e.stageType) :
    Settled (p.withEntry e) sd := by
  unfold Settled WorkflowProgress.isComplete at *
  rw [WorkflowProgress.get_withEntry, if_neg h]
  exact hs

theorem known_withEntry (h : ∀ st, (p.get st).status ≠ .notStarted → st ∈ T.requiredStageTypes)
    (he : e.stageType ∈ T.requiredStageTypes) (st : StageType)
    (hst : ((p.withEntry e).get st).status ≠ .notStarted) : st ∈ T.requiredStageTypes := by
  rw [WorkflowProgress.get_withEntry] at hst
  split at hst
  · next heq => rw [heq]; exact he
  · exact h st hst

/-! ### The invariant, move by move -/

/-- Coming back to the loop that called. -/
theorem valid_ret (hlive : Live T s p) (hpending : ∀ l ∈ stack, ∀ sd ∈ l, Waits T p sd)
    (hrun : ∀ st, (p.get st).status ≠ .running)
    (hknown : ∀ st, (p.get st).status ≠ .notStarted → st ∈ T.requiredStageTypes)
    (hcov : ∀ sd, Waits T p sd → Settled p sd ∨ ∃ l ∈ stack, sd ∈ l) :
    (CallState.ret stack).Valid T s p := by
  cases stack with
  | nil =>
    refine ⟨hlive, hrun, hknown, fun sd hsd => ?_⟩
    rcases hcov sd hsd with h | ⟨l, hl, _⟩
    · exact h
    · exact absurd hl (List.not_mem_nil)
  | cons pending stack =>
    refine ⟨⟨hlive, hpending pending (List.mem_cons_self ..)⟩,
      fun l hl => hpending l (List.mem_cons_of_mem _ hl),
      fun st => ⟨fun h => absurd h (hrun st), fun h => by cases h⟩, hknown, fun sd hsd => ?_⟩
    rcases hcov sd hsd with h | ⟨l, hl, hsdl⟩
    · exact Or.inl h
    · rcases List.mem_cons.mp hl with rfl | hl
      · exact Or.inr (Or.inr hsdl)
      · exact Or.inr (Or.inl ⟨l, hl, hsdl⟩)

/-- Binding a workflow: nothing has run yet. -/
theorem valid_bound (T : WorkflowTemplate) (p : WorkflowProgress) (id : WorkflowTemplateId) :
    Progressing T .running (p.initialized id T.requiredStageTypes) .dispatchRunnableStages [] := by
  refine ⟨⟨rfl, fun hall => ?_⟩, fun l hl => absurd hl List.not_mem_nil, fun st => ?_,
    fun st hst => ?_, fun sd _ => Or.inr (Or.inr trivial)⟩
  · by_contra hne
    obtain ⟨sd, hsd⟩ := List.exists_mem_of_ne_nil _ hne
    have := hall _ (WorkflowTemplate.mem_requiredStageTypes.mpr ⟨sd, hsd, rfl⟩)
    simp [WorkflowProgress.isComplete] at this
  · simp [Control.executing]
  · simp at hst

theorem valid_started (h : Progressing T s p (.executeStage st actor) stack) :
    Progressing T s (p.withEntry ((p.get st).started now)) (.callExecutor st actor) stack := by
  obtain ⟨hrun, hst, sd₀, hsd₀, htype⟩ := h.holds
  set e := (p.get st).started now with he
  have hetype : e.stageType = st := by simp [he]
  have hfwd : p.Forward e := Or.inr (by
    rw [hetype, WorkflowProgress.isComplete]
    rcases hst with h | h <;> simp [h])
  refine ⟨⟨hrun, sd₀, hsd₀.withEntry hfwd, htype⟩,
    fun l hl sd hsd => (h.pending l hl sd hsd).withEntry hfwd, fun st' => ?_,
    known_withEntry h.known (hetype ▸ htype ▸ hsd₀.required), fun sd hsd => ?_⟩
  · rw [WorkflowProgress.get_withEntry, hetype]
    split
    · next heq => simp [he, heq, Control.executing]
    · next hne => simp [Control.executing, Ne.symm hne, h.running_iff]
  · by_cases hsdst : sd.stageType = st
    · exact Or.inr (Or.inr hsdst)
    · rcases h.covered sd (hsd.of_withEntry (by simp [he])) with hs | hs | hs
      · exact Or.inl (hs.withEntry (hetype ▸ hsdst))
      · exact Or.inr (Or.inl hs)
      · exact absurd hs hsdst

/-- Once its outcome is recorded no stage is running. -/
theorem not_running_withEntry {o : StageExecutionOutcome}
    (h : ∀ st', (p.get st').status = .running ↔
      (Control.recordOutcome st actor o).executing = some st')
    (hetype : e.stageType = st) (hes : e.status ≠ .running) (st' : StageType) :
    ((p.withEntry e).get st').status ≠ .running := by
  rw [WorkflowProgress.get_withEntry, hetype]
  split
  · exact hes
  · next hne => simp [h, Control.executing, Ne.symm hne]

theorem valid_completed {o : StageExecutionOutcome} {ref : Option String}
    (h : Progressing T s p (.recordOutcome st actor o) stack) :
    Progressing T s (p.withEntry ((p.get st).completed now ref)) .onStageCompleted stack := by
  obtain ⟨hrun, sd₀, hsd₀, htype⟩ := h.holds
  set e := (p.get st).completed now ref with he
  have hetype : e.stageType = st := by simp [he]
  have hfwd : p.Forward e := Or.inl rfl
  refine ⟨hrun, fun l hl sd hsd => (h.pending l hl sd hsd).withEntry hfwd, fun st' => ?_,
    known_withEntry h.known (hetype ▸ htype ▸ hsd₀.required), fun sd _ => Or.inr (Or.inr trivial)⟩
  exact ⟨fun hc => absurd hc (not_running_withEntry h.running_iff hetype (by simp [he]) st'),
    fun hc => by cases hc⟩

theorem valid_failed {o : StageExecutionOutcome} {err : Option String}
    (h : Progressing T s p (.recordOutcome st actor o) stack) :
    Progressing T s (p.withEntry ((p.get st).failedWith err)) (.onStageFailed st) stack := by
  obtain ⟨hrun, sd₀, hsd₀, htype⟩ := h.holds
  have hstrun : (p.get st).status = .running := (h.running_iff st).mpr rfl
  set e := (p.get st).failedWith err with he
  have hetype : e.stageType = st := by simp [he]
  have hfwd : p.Forward e := Or.inr (by
    rw [hetype, WorkflowProgress.isComplete, hstrun]; decide)
  refine ⟨⟨hrun, ?_, sd₀, hsd₀.withEntry hfwd, htype⟩,
    fun l hl sd hsd => (h.pending l hl sd hsd).withEntry hfwd, fun st' => ?_,
    known_withEntry h.known (hetype ▸ htype ▸ hsd₀.required), fun sd hsd => ?_⟩
  · rw [WorkflowProgress.get_withEntry, hetype, if_pos rfl]
    rfl
  · exact ⟨fun hc => absurd hc (not_running_withEntry h.running_iff hetype (by simp [he]) st'),
      fun hc => by cases hc⟩
  · by_cases hsdst : sd.stageType = st
    · exact Or.inr (Or.inr hsdst)
    · rcases h.covered sd (hsd.of_withEntry (by simp [he])) with hs | hs | hs
      · exact Or.inl (hs.withEntry (hetype ▸ hsdst))
      · exact Or.inr (Or.inl hs)
      · exact absurd hs hsdst

end Step

/-! ### Every move keeps it -/

section Moves

variable {templates : WorkflowTemplateId → Option WorkflowTemplate} {T : WorkflowTemplate}
  {a a' : Assessment} {reply : StageType → ExecutorReply} {now : Timestamp} {control : Control}
  {stack : List (List StageDefinition)} {state : CallState} {st : StageType}
  {sd : StageDefinition} {pending : List StageDefinition}

theorem valid_onStageCompleted
    (h : Progressing T a.status a.workflowProgress .onStageCompleted stack) :
    (onStageCompleted stack a (some T)).Valid T a.status a.workflowProgress := by
  have hnone : ∀ st, (a.workflowProgress.get st).status ≠ .running :=
    fun st hc => by cases (h.running_iff st).mp hc
  unfold onStageCompleted
  dsimp only
  split
  · next hall =>
    refine ⟨⟨h.holds, hall⟩, h.pending, fun st => ⟨fun hc => absurd hc (hnone st),
      fun hc => by cases hc⟩, h.known, fun sd hsd => Or.inl (Or.inl (hall _ hsd.required))⟩
  · next hall =>
    exact ⟨⟨h.holds, fun hc => absurd hc hall⟩, h.pending, h.running_iff, h.known,
      fun sd _ => Or.inr (Or.inr trivial)⟩

theorem valid_advanced (h : Progressing T a.status a.workflowProgress .advance stack) :
    (CallState.ret stack).Valid T .validated a.workflowProgress := by
  obtain ⟨hrun, hall⟩ := h.holds
  refine valid_ret (Or.inr ⟨rfl, hall⟩) h.pending (fun st hc => by cases (h.running_iff st).mp hc)
    h.known fun sd hsd => Or.inl (Or.inl (hall _ hsd.required))

/-- A failed stage is retried while the template grants it attempts. -/
theorem valid_onStageFailed (hdist : T.Distinct)
    (h : Progressing T a.status a.workflowProgress (.onStageFailed st) stack) :
    (onStageFailed st stack a (some T)).Valid T a.status a.workflowProgress := by
  obtain ⟨hrun, hfail, sd₀, hsd₀, rfl⟩ := h.holds
  have hnone : ∀ st, (a.workflowProgress.get st).status ≠ .running :=
    fun st hc => by cases (h.running_iff st).mp hc
  unfold onStageFailed
  simp only [WorkflowTemplate.getStageDefinition_of_mem hdist hsd₀.mem]
  split
  · refine ⟨⟨hrun, Or.inr hfail, sd₀, hsd₀, rfl⟩, h.pending,
      fun st => ⟨fun hc => absurd hc (hnone st), fun hc => by cases hc⟩, h.known, h.covered⟩
  · next hmax =>
    have hwork : WorkLeft T a.workflowProgress := fun hall => by
      have := hall _ hsd₀.required
      rw [WorkflowProgress.isComplete, hfail] at this
      cases this
    refine valid_ret (Or.inl ⟨hrun, hwork⟩) h.pending hnone h.known fun sd hsd => ?_
    rcases h.covered sd hsd with hs | hs | hs
    · exact Or.inl hs
    · exact Or.inr hs
    · obtain rfl : sd = sd₀ := List.inj_on_of_nodup_map hdist hsd.mem hsd₀.mem hs
      exact Or.inl (Or.inr ⟨hfail, Nat.le_of_not_lt hmax⟩)

theorem valid_dispatched
    (h : Progressing T a.status a.workflowProgress .dispatchRunnableStages stack) :
    (dispatchRunnableStages stack a (some T)).Valid T a.status a.workflowProgress := by
  have hnone : ∀ st, (a.workflowProgress.get st).status ≠ .running :=
    fun st hc => by cases (h.running_iff st).mp hc
  have hmem : ∀ sd, sd ∈ T.automatic a.workflowProgress ↔
      Waits T a.workflowProgress sd ∧ (a.workflowProgress.get sd.stageType).Startable := by
    intro sd
    rw [WorkflowTemplate.automatic, List.mem_filter, WorkflowTemplate.mem_runnableStages,
      decide_eq_true_eq]
    exact ⟨fun ⟨⟨h1, h2, h3⟩, h4⟩ => ⟨⟨h1, h4, h3⟩, h2⟩,
      fun ⟨⟨h1, h4, h3⟩, h2⟩ => ⟨⟨h1, h2, h3⟩, h4⟩⟩
  refine ⟨⟨Or.inl h.holds, fun sd hsd => ((hmem sd).mp hsd).1⟩, h.pending,
    fun st => ⟨fun hc => absurd hc (hnone st), fun hc => by cases hc⟩, h.known, fun sd hsd => ?_⟩
  by_cases hc : a.workflowProgress.isComplete sd.stageType
  · exact Or.inl (Or.inl hc)
  · refine Or.inr (Or.inr ((hmem sd).mpr ⟨hsd, ?_⟩))
    have hr := hnone sd.stageType
    unfold WorkflowProgress.isComplete at hc
    unfold StageProgressEntry.Startable
    cases hs : (a.workflowProgress.get sd.stageType).status <;> simp_all

theorem valid_loopEnd (h : Progressing T a.status a.workflowProgress (.forEach []) stack) :
    (CallState.ret stack).Valid T a.status a.workflowProgress := by
  refine valid_ret h.holds.1 h.pending (fun st hc => by cases (h.running_iff st).mp hc) h.known
    fun sd hsd => ?_
  rcases h.covered sd hsd with hs | hs | hs
  · exact Or.inl hs
  · exact Or.inr hs
  · exact absurd hs List.not_mem_nil

theorem valid_turn (h : Progressing T a.status a.workflowProgress (.forEach (sd :: pending)) stack) :
    (forEachTurn sd pending stack a).Valid T a.status a.workflowProgress := by
  obtain ⟨hlive, hwaits⟩ := h.holds
  have hsd := hwaits sd (List.mem_cons_self ..)
  have hnone : ∀ st, (a.workflowProgress.get st).status ≠ .running :=
    fun st hc => by cases (h.running_iff st).mp hc
  unfold forEachTurn
  split
  · next hst =>
    have hrun : a.status = .running := by
      rcases hlive with ⟨hr, _⟩ | ⟨_, hall⟩
      · exact hr
      · have := hall _ hsd.required
        unfold WorkflowProgress.isComplete at this
        rcases hst with hst | hst <;> rw [hst] at this <;> cases this
    refine ⟨⟨hrun, hst, sd, hsd, rfl⟩, ?_, fun st => ⟨fun hc => absurd hc (hnone st),
      fun hc => by cases hc⟩, h.known, fun sd' hsd' => ?_⟩
    · rintro l hl
      rcases List.mem_cons.mp hl with rfl | hl
      · exact fun sd' hsd' => hwaits sd' (List.mem_cons_of_mem _ hsd')
      · exact h.pending l hl
    · rcases h.covered sd' hsd' with hs | ⟨l, hl, hs⟩ | hs
      · exact Or.inl hs
      · exact Or.inr (Or.inl ⟨l, List.mem_cons_of_mem _ hl, hs⟩)
      · rcases List.mem_cons.mp hs with rfl | hs
        · exact Or.inr (Or.inr rfl)
        · exact Or.inr (Or.inl ⟨pending, List.mem_cons_self .., hs⟩)
  · next hst =>
    refine ⟨⟨hlive, fun sd' hsd' => hwaits sd' (List.mem_cons_of_mem _ hsd')⟩, h.pending,
      fun st => ⟨fun hc => absurd hc (hnone st), fun hc => by cases hc⟩, h.known,
      fun sd' hsd' => ?_⟩
    rcases h.covered sd' hsd' with hs | hs | hs
    · exact Or.inl hs
    · exact Or.inr (Or.inl hs)
    · rcases List.mem_cons.mp hs with rfl | hs
      · -- passed by: neither startable nor running, so complete
        refine Or.inl (Or.inl ?_)
        have hr := hnone sd'.stageType
        unfold StageProgressEntry.Startable at hst
        unfold WorkflowProgress.isComplete
        cases hs : (a.workflowProgress.get sd'.stageType).status <;> simp_all
      · exact Or.inr (Or.inr hs)

/-- The invariant is kept by every move, and excludes every error. -/
theorem valid_move (hdist : T.Distinct) (hT : a.workflowTemplateId.bind templates = some T)
    (hreply : ∀ st, ∃ o, reply st = .outcome o)
    (h : Progressing T a.status a.workflowProgress control stack)
    (hmove : Move templates reply now a control stack a' state) :
    state.Valid T a'.status a'.workflowProgress := by
  cases hmove with
  | bound | notBound => exact h.holds.elim
  | started => exact valid_started h
  | notStarted hno => exact absurd ⟨h.holds.1, h.holds.2.1⟩ hno
  | replied => exact ⟨h.holds, h.pending, h.running_iff, h.known, h.covered⟩
  | @executorRaised st actor _ message hm =>
    obtain ⟨o, ho⟩ := hreply st
    rw [hm] at ho; cases ho
  | completed => exact valid_completed h
  | failed => exact valid_failed h
  | notRecorded hno => exact absurd ⟨h.holds.1, (h.running_iff _).mpr rfl⟩ hno
  | afterCompletion => rw [hT]; exact valid_onStageCompleted h
  | advanced => exact valid_advanced (a := a) h
  | notAdvanced hno => exact absurd h.holds.1 (hno T hT h.holds.2)
  | afterFailure => rw [hT]; exact valid_onStageFailed hdist h
  | dispatched => rw [hT]; exact valid_dispatched h
  | loopEnd => exact valid_loopEnd h
  | turn => exact valid_turn h

/-- A bound assessment stays bound to its template. -/
theorem bound_move (hT : a.workflowTemplateId.bind templates = some T)
    (h : Progressing T a.status a.workflowProgress control stack)
    (hmove : Move templates reply now a control stack a' state) :
    a'.workflowTemplateId.bind templates = some T := by
  rw [hmove.template_eq, hT]
  rintro templateId actor rfl
  exact h.holds

end Moves

/-! ### Over the runs of `startWorkflow` -/

section Runs

variable {target : Target} {clock : ℕ → Timestamp} {templateId : Spelled WorkflowTemplateId}
  {actor : UserId} {db : Db} {T : WorkflowTemplate} {a₀ : Assessment}

/-- An executor that answers each call by the history of its calls, and does not raise. -/
abbrev OutcomeExecutor := Trace → StageType → StageExecutionOutcome

def OutcomeExecutor.toExecutor (f : OutcomeExecutor) : StageExecutor :=
  fun tr st => .outcome (f tr st)

/-- `startWorkflow` is called on a ready assessment with a published template. -/
structure Startup (target : Target) (templateId : Spelled WorkflowTemplateId) (db : Db)
    (T : WorkflowTemplate) (a₀ : Assessment) : Prop where
  row : db.Row target a₀
  ready : a₀.status = .ready
  template : db.workflowTemplates.get templateId.id = some T
  published : T.status = .published

/-- The assessment as `startWorkflow` binds it to the template. -/
def boundTo (T : WorkflowTemplate) (a₀ : Assessment) (now : Timestamp) : Assessment :=
  { a₀ with
    status := .running, updatedAt := now, workflowTemplateId := some T.id
    workflowProgress := a₀.workflowProgress.initialized T.id T.requiredStageTypes }

/-- The run is its first step, and the run from there. -/
theorem startWorkflowRun_succ {executor : StageExecutor} (n : ℕ) :
    Run.startWorkflowRun target executor clock templateId actor db (n + 1) =
      Lib.iterate (Run.step target executor fun k => clock (k + 1))
        (Run.startWorkflowRun target executor clock templateId actor db 1) n :=
  Lib.iterate_succ' n

/-- The first step binds a template of the assessment's hazard type. -/
theorem run_bound (executor : StageExecutor) (clock : ℕ → Timestamp) (actor : UserId)
    (h : Startup target templateId db T a₀)
    (hhaz : T.hazardType = a₀.hazardType) :
    (Run.startWorkflowRun target executor clock templateId actor db 1).At
        db.workflowTemplates.get target (boundTo T a₀ (clock 0)).saved ∧
      (Run.startWorkflowRun target executor clock templateId actor db 1).state =
        .active .dispatchRunnableStages [] ∧
      (Run.startWorkflowRun target executor clock templateId actor db 1).trace = [] := by
  obtain ⟨a', hmove, hat'⟩ := (Run.At.initial h.row
    (.startWorkflow templateId (.user actor))).step rfl executor clock 0
  have htr : (Run.startWorkflowRun target executor clock templateId actor db 1).trace = [] := rfl
  change Move _ _ _ _ _ _ a'
    (Run.startWorkflowRun target executor clock templateId actor db 1).state at hmove
  generalize (Run.startWorkflowRun target executor clock templateId actor db 1).state = s at hmove
  cases hmove with
  | @bound _ _ _ T' hT' hpub' hhaz' hready' =>
    obtain rfl : T = T' := by simpa [h.template] using hT'
    exact ⟨hat', rfl, htr⟩
  | notBound hno => exact absurd h.ready (hno T h.template h.published hhaz)

/-- A template of another hazard type is rejected at the first step, with nothing written. -/
theorem run_mismatch (executor : StageExecutor) (clock : ℕ → Timestamp) (actor : UserId)
    (h : Startup target templateId db T a₀)
    (hhaz : T.hazardType ≠ a₀.hazardType) (n : ℕ) : ∃ e : AssessmentError,
    (e.kind = .workflowTemplateNotFound ∨ e.kind = .guardRejected) ∧
    (Run.startWorkflowRun target executor clock templateId actor db (n + 1)).state =
      .raised (.domain e) ∧
    (Run.startWorkflowRun target executor clock templateId actor db (n + 1)).At
      db.workflowTemplates.get target a₀ := by
  obtain ⟨a', hmove, hat'⟩ := (Run.At.initial h.row
    (.startWorkflow templateId (.user actor))).step rfl executor clock 0
  have hfirst : ∃ e : AssessmentError, (e.kind = .workflowTemplateNotFound ∨ e.kind = .guardRejected) ∧
      (Run.startWorkflowRun target executor clock templateId actor db 1).state =
        .raised (.domain e) ∧ a' = a₀ := by
    change Move _ _ _ _ _ _ a'
      (Run.startWorkflowRun target executor clock templateId actor db 1).state at hmove
    generalize (Run.startWorkflowRun target executor clock templateId actor db 1).state = s
      at hmove
    cases hmove with
    | @bound _ _ _ T' hT' hpub' hhaz' hready' =>
      obtain rfl : T = T' := by simpa [h.template] using hT'
      exact absurd hhaz' hhaz
    | notBound _ hkind => exact ⟨_, hkind h.ready, rfl, rfl⟩
  obtain ⟨e, hkind, hs, rfl⟩ := hfirst
  rw [startWorkflowRun_succ, Lib.iterate_of_fixed fun n => Run.step_done (by rw [hs]; trivial) n]
  exact ⟨e, hkind, hs, hat'⟩

/-- Invariant rule for the runs that bind: the invariant of the engine holds at every step, and so
    does what the moves of the run keep besides. -/
theorem run_valid (f : OutcomeExecutor) (clock : ℕ → Timestamp) (actor : UserId)
    {Q : Assessment → CallState → Trace → Prop}
    (h : Startup target templateId db T a₀) (hhaz : T.hazardType = a₀.hazardType)
    (hdist : T.Distinct) (hQ0 : Q (boundTo T a₀ (clock 0)).saved (.active .dispatchRunnableStages []) [])
    (hQ : ∀ n {a control stack a'} {r₁ r₂ : Run},
      r₁ = Run.startWorkflowRun target f.toExecutor clock templateId actor db n →
      r₁.At db.workflowTemplates.get target a → r₁.state = .active control stack →
      Progressing T a.status a.workflowProgress control stack → Q a (.active control stack) r₁.trace →
      Move db.workflowTemplates.get (f.toExecutor r₁.trace) (clock n) a control stack a' r₂.state →
      Q a' r₂.state (r₁.trace ++ (CallState.active control stack).called (f.toExecutor r₁.trace)))
    (n : ℕ) :
    ∃ a, (Run.startWorkflowRun target f.toExecutor clock templateId actor db (n + 1)).At
        db.workflowTemplates.get target a ∧
      (Run.startWorkflowRun target f.toExecutor clock templateId actor db (n + 1)).state.Valid T
        a.status a.workflowProgress ∧
      Q a (Run.startWorkflowRun target f.toExecutor clock templateId actor db (n + 1)).state
        (Run.startWorkflowRun target f.toExecutor clock templateId actor db (n + 1)).trace := by
  obtain ⟨hat, hs, htr⟩ := run_bound f.toExecutor clock actor h hhaz
  have hTid : db.workflowTemplates.get T.id = some T := by
    rw [Lib.Table.key_of_get h.template, h.template]
  obtain ⟨a, hata, _, hv, hq⟩ := run_inv f.toExecutor (fun k => clock (k + 1))
    (P := fun a s tr => a.workflowTemplateId.bind db.workflowTemplates.get = some T ∧
      s.Valid T a.status a.workflowProgress ∧ Q a s tr)
    hat
    ⟨hTid, by rw [hs]; exact valid_bound T a₀.workflowProgress T.id, by rw [hs, htr]; exact hQ0⟩
    (fun n a control stack a' r₁ r₂ hr₁ _ hata hs ⟨hT, hv, hq⟩ hmove =>
      ⟨bound_move hT hv hmove, valid_move hdist hT (fun st => ⟨_, rfl⟩) hv hmove, by
        rw [hs]
        exact hQ (n + 1) (hr₁.trans (startWorkflowRun_succ n).symm) hata hs hv hq hmove⟩) n
  rw [← startWorkflowRun_succ] at hata hv hq
  exact ⟨a, hata, hv, hq⟩

/-- The invariant of the engine at every step. -/
theorem run_progresses (f : OutcomeExecutor) (clock : ℕ → Timestamp) (actor : UserId)
    (h : Startup target templateId db T a₀) (hhaz : T.hazardType = a₀.hazardType)
    (hdist : T.Distinct) (n : ℕ) :
    ∃ a, (Run.startWorkflowRun target f.toExecutor clock templateId actor db (n + 1)).At
        db.workflowTemplates.get target a ∧
      (Run.startWorkflowRun target f.toExecutor clock templateId actor db (n + 1)).state.Valid T
        a.status a.workflowProgress := by
  obtain ⟨a, hat, hv, _⟩ := run_valid f clock actor (Q := fun _ _ _ => True) h hhaz hdist trivial
    (fun _ _ _ _ _ _ _ _ _ _ _ _ _ => trivial) n
  exact ⟨a, hat, hv⟩

/-- Every run of `startWorkflow` ends. -/
theorem startWorkflow_terminates (executor : StageExecutor) (clock : ℕ → Timestamp)
    (templateId : Spelled WorkflowTemplateId) (actor : UserId) {a : Assessment}
    (h : db.Row target a) :
    ∃ n, (Run.startWorkflowRun target executor clock templateId actor db n).state.Done :=
  run_terminates (.initial h _)

end Runs

end GeoRisk.Orchestration
