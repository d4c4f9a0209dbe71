import Mathlib
import GeoRisk.Lib.Dag
import GeoRisk.Orchestration.EngineInvariant

/-! What `startWorkflow` achieves on a ready assessment when nobody else acts on it: it settles
    every automatic stage it can reach; with stages that all succeed it runs the whole template, in
    order, each stage once; and it keeps to the retry budgets exactly as long as the dispatch loop
    does not take up a failed stage whose budget is spent, which nothing in the loop prevents. -/

namespace GeoRisk.Orchestration

section Results

variable {target : Target} {clock : ℕ → Timestamp} {templateId : Spelled WorkflowTemplateId}
  {actor : UserId} {db : Db} {T : WorkflowTemplate} {a₀ : Assessment} {f : OutcomeExecutor}

/-- A run at its end is past its first step. -/
theorem done_pos {executor : StageExecutor} {n : ℕ}
    (h : (Run.startWorkflowRun target executor clock templateId actor db n).state.Done) :
    ∃ m, n = m + 1 := by
  cases n with
  | zero => exact h.elim
  | succ m => exact ⟨m, rfl⟩

/-- Every run ends without an illegal transition, and a run that returns leaves no stage running and
    every automatic stage with complete predecessors complete, or failed with its budget spent. -/
theorem startWorkflow_settles (h : Startup target templateId db T a₀) (hdist : T.Distinct)
    (f : OutcomeExecutor) (clock : ℕ → Timestamp) (actor : UserId) :
    ∃ n, let r := Run.startWorkflowRun target f.toExecutor clock templateId actor db n
      r.state.Done ∧
      (∀ err, r.state = .raised err → ∃ e, err = .domain e ∧
        e.kind ≠ .illegalStageExecutionTransition ∧ e.kind ≠ .illegalAssessmentStatusTransition) ∧
      (T.hazardType = a₀.hazardType → r.state = .returned) ∧
      (r.state = .returned → ∀ a, r.db.Row target a →
        (∀ st, (a.workflowProgress.get st).status ≠ .running) ∧
        ∀ sd ∈ T.stageDefinitions, sd.triggerMode = .automatic →
          a.workflowProgress.allComplete sd.requiredPredecessors →
          (a.workflowProgress.get sd.stageType).status = .complete ∨
            (a.workflowProgress.get sd.stageType).status = .failed ∧
              sd.maxAttempts ≤ (a.workflowProgress.get sd.stageType).attemptCount) := by
  obtain ⟨n, hn⟩ := startWorkflow_terminates f.toExecutor clock templateId actor h.row
  obtain ⟨m, rfl⟩ := done_pos hn
  refine ⟨m + 1, ?_⟩
  by_cases hhaz : T.hazardType = a₀.hazardType
  · obtain ⟨a, hat, hv⟩ := run_progresses f clock actor h hhaz hdist m
    generalize Run.startWorkflowRun target f.toExecutor clock templateId actor db (m + 1) = r
      at hn hat hv
    -- at its end the run has returned, since no raised state is valid
    have hret : r.state = .returned := by
      cases hs : r.state with
      | active control stack => rw [hs] at hn; exact hn.elim
      | returned => rfl
      | raised e => rw [hs] at hv; exact hv.elim
    rw [hret] at hv
    refine ⟨hn, fun err herr => ?_, fun _ => hret, fun _ b hb => ?_⟩
    · rw [hret] at herr; cases herr
    · obtain rfl : a = b := by simpa [hat.row.1] using hb.1
      exact ⟨hv.not_running, fun sd hsd hauto hpre => hv.settled sd ⟨hsd, hauto, hpre⟩⟩
  · obtain ⟨e, hkind, hs, _⟩ := run_mismatch f.toExecutor clock actor h hhaz m
    generalize Run.startWorkflowRun target f.toExecutor clock templateId actor db (m + 1) = r
      at hn hs
    refine ⟨hn, fun err herr => ?_, fun hc => absurd hc hhaz, fun hc => absurd (hs.symm.trans hc) (by simp)⟩
    rw [hs] at herr
    cases herr
    exact ⟨e, rfl, by rcases hkind with hk | hk <;> simp [hk],
      by rcases hkind with hk | hk <;> simp [hk]⟩

/-- Two stages that run first, one of them with a single attempt, and one that needs both. -/
def sampleTemplate : WorkflowTemplate where
  id := ⟨1⟩
  hazardType := .flood
  name := "Flood"
  version := 1
  status := .published
  stageDefinitions := [
    { StageDefinition.initial .hazard .automatic with maxAttempts := 1, attempts_pos := by decide },
    .initial .exposure .automatic,
    { StageDefinition.initial .risk .automatic with
      requiredPredecessors := {.hazard, .exposure}, not_self := by decide }]
  createdAt := 0

def sampleAssessment : Assessment where
  id := ⟨1⟩
  tenantId := ⟨1⟩
  name := "River"
  hazardType := .flood
  status := .ready
  createdBy := ⟨1⟩
  createdAt := 0
  updatedAt := 0

def sampleDb : Db :=
  ⟨Lib.Table.empty.put sampleAssessment, Lib.Table.empty.put sampleTemplate, []⟩

def sampleTarget : Target := ⟨⟨1⟩, ⟨"1", ⟨1⟩⟩⟩

theorem sampleDb_startup : Startup sampleTarget ⟨"1", ⟨1⟩⟩ sampleDb sampleTemplate sampleAssessment :=
  ⟨⟨rfl, rfl⟩, rfl, rfl, rfl⟩

/-- An executor whose calls all succeed. -/
def succeeding : OutcomeExecutor := fun _ _ => { success := true }

/-- An executor on which one stage always fails. -/
def failingAt (st : StageType) : OutcomeExecutor := fun _ st' => { success := st' ≠ st }

/-- The sample workflow, started with an executor. -/
def sampleRun (f : OutcomeExecutor) : ℕ → Run :=
  Run.startWorkflowRun sampleTarget f.toExecutor id ⟨"1", ⟨1⟩⟩ ⟨1⟩ sampleDb

theorem startWorkflow_settles_sample :
    ∃ n, let r := sampleRun (failingAt .hazard) n
      r.state.Done ∧
      (∀ err, r.state = .raised err → ∃ e, err = .domain e ∧
        e.kind ≠ .illegalStageExecutionTransition ∧ e.kind ≠ .illegalAssessmentStatusTransition) ∧
      (sampleTemplate.hazardType = sampleAssessment.hazardType → r.state = .returned) ∧
      (r.state = .returned → ∀ a, r.db.Row sampleTarget a →
        (∀ st, (a.workflowProgress.get st).status ≠ .running) ∧
        ∀ sd ∈ sampleTemplate.stageDefinitions, sd.triggerMode = .automatic →
          a.workflowProgress.allComplete sd.requiredPredecessors →
          (a.workflowProgress.get sd.stageType).status = .complete ∨
            (a.workflowProgress.get sd.stageType).status = .failed ∧
              sd.maxAttempts ≤ (a.workflowProgress.get sd.stageType).attemptCount) :=
  startWorkflow_settles sampleDb_startup (by decide) (failingAt .hazard) id ⟨1⟩

/-! ### Stages that all succeed -/

/-- The outcome a call is about to record. -/
def CallState.recording : CallState → Option (StageType × StageExecutionOutcome)
  | .active (.recordOutcome st _ o) _ => some (st, o)
  | _ => none

/-- What a stage's definition requires. -/
def required (T : WorkflowTemplate) (st : StageType) : Finset StageType :=
  ((T.getStageDefinition st).map (·.requiredPredecessors)).getD ∅

/-- The executor was called for the complete stages and the one being recorded, each once and after
    its predecessors, and no stage has failed. -/
structure Orderly (T : WorkflowTemplate) (a : Assessment) (s : CallState) (tr : Trace) : Prop where
  called : ∀ st, st ∈ tr.map Prod.fst ↔
    a.workflowProgress.isComplete st ∨ ∃ o, s.recording = some (st, o)
  once : (tr.map Prod.fst).Nodup
  ordered : Lib.TopoOrdered (required T) (tr.map Prod.fst)
  success : ∀ st o, s.recording = some (st, o) → o.success = true
  not_failed : ∀ st, (a.workflowProgress.get st).status ≠ .failed

/-- Between outcomes the trace and the complete stages stay as they are. -/
theorem Orderly.quiet {a a' : Assessment} {s s' : CallState} {tr : Trace} (h : Orderly T a s tr)
    (hs : s.recording = none) (hs' : s'.recording = none)
    (hc : ∀ st, a'.workflowProgress.isComplete st ↔ a.workflowProgress.isComplete st)
    (hf : ∀ st, (a'.workflowProgress.get st).status ≠ .failed) : Orderly T a' s' tr :=
  ⟨fun st => by rw [h.called, hc, hs, hs'], h.once, h.ordered,
    fun st o ho => absurd (hs'.symm.trans ho) (by simp), hf⟩

theorem recording_ret (stack : List (List StageDefinition)) :
    (CallState.ret stack).recording = none := by
  cases stack <;> rfl

theorem recording_onStageCompleted (stack : List (List StageDefinition)) (a : Assessment)
    (T : Option WorkflowTemplate) : (onStageCompleted stack a T).recording = none := by
  cases T with
  | none => exact recording_ret stack
  | some T => unfold onStageCompleted; dsimp only; split <;> rfl

theorem recording_dispatchRunnableStages (stack : List (List StageDefinition)) (a : Assessment)
    (T : Option WorkflowTemplate) : (dispatchRunnableStages stack a T).recording = none := by
  cases T with
  | none => exact recording_ret stack
  | some T => rfl

theorem recording_forEachTurn (sd : StageDefinition) (pending : List StageDefinition)
    (stack : List (List StageDefinition)) (a : Assessment) :
    (forEachTurn sd pending stack a).recording = none := by
  unfold forEachTurn; split <;> rfl

/-- Every move of a run whose stages succeed keeps the order. -/
theorem orderly_move (hdist : T.Distinct) (hsucc : ∀ tr st, (f tr st).success = true)
    {templates : WorkflowTemplateId → Option WorkflowTemplate} {a a' : Assessment}
    {control : Control} {stack : List (List StageDefinition)} {tr : Trace} {now : Timestamp}
    {state : CallState} (hp : Progressing T a.status a.workflowProgress control stack)
    (h : Orderly T a (.active control stack) tr)
    (hmove : Move templates (f.toExecutor tr) now a control stack a' state) :
    Orderly T a' state (tr ++ (CallState.active control stack).called (f.toExecutor tr)) := by
  have hsame : ∀ s : CallState, (CallState.active control stack).recording = none →
      s.recording = none → Orderly T a s tr :=
    fun s hs hs' => h.quiet hs hs' (fun _ => Iff.rfl) h.not_failed
  -- a control point that does not call the executor adds nothing to the trace
  have hnil : ∀ {a s}, Orderly T a s tr → Orderly T a s (tr ++ []) := by simp
  cases hmove with
  | bound | notBound => exact hp.holds.elim
  | @started st _ _ hrun hst =>
    have hget := WorkflowProgress.get_withEntry a.workflowProgress
      ((a.workflowProgress.get st).started now)
    simp only [StageProgressEntry.started_stageType, WorkflowProgress.get_stageType] at hget
    refine hnil (h.quiet rfl rfl (fun st' => ?_) fun st' => ?_)
    · change ((a.workflowProgress.withEntry _).get st').status = _ ↔ _
      rw [hget]
      split
      · next heq => subst heq; rcases hst with hs | hs <;> simp [WorkflowProgress.isComplete, hs]
      · exact Iff.rfl
    · change ((a.workflowProgress.withEntry _).get st').status ≠ _
      rw [hget]
      split
      · simp
      · exact h.not_failed st'
  | notStarted hno => exact absurd ⟨hp.holds.1, hp.holds.2.1⟩ hno
  | @replied st _ _ o ho =>
    obtain ⟨_, sd, hsd, rfl⟩ := hp.holds
    cases ho
    have hrun : (a.workflowProgress.get sd.stageType).status = .running :=
      (hp.running_iff _).mpr rfl
    have hfresh : sd.stageType ∉ tr.map Prod.fst := by
      rw [h.called]
      rintro (hc | ⟨o, ho⟩)
      · rw [WorkflowProgress.isComplete, hrun] at hc; cases hc
      · cases ho
    have hreq : required T sd.stageType = sd.requiredPredecessors := by
      simp [required, WorkflowTemplate.getStageDefinition_of_mem hdist hsd.mem]
    simp only [CallState.called]
    refine ⟨fun st' => ?_, ?_, ?_, fun st' o ho => ?_, h.not_failed⟩
    · rw [List.map_append, List.mem_append, h.called]
      simp [CallState.recording, eq_comm]
    · rw [List.map_append]
      exact List.nodup_append.mpr ⟨h.once, by simp, by
        rintro x hx y hy rfl
        obtain rfl : x = sd.stageType := by simpa using hy
        exact hfresh hx⟩
    · rw [List.map_append]
      refine Lib.topoOrdered_concat h.ordered fun st' hst' => ?_
      exact (h.called st').mpr (Or.inl (hsd.predecessors st' (hreq ▸ hst')))
    · simp only [CallState.recording, Option.some.injEq, Prod.mk.injEq] at ho
      exact ho.2 ▸ hsucc _ _
  | executorRaised hm => cases hm
  | @completed st _ _ o ho hrun hst =>
    have hget := WorkflowProgress.get_withEntry a.workflowProgress
      ((a.workflowProgress.get st).completed now o.stageResultRef)
    simp only [StageProgressEntry.completed_stageType, WorkflowProgress.get_stageType] at hget
    refine hnil ⟨fun st' => ?_, h.once, h.ordered, fun st' o' ho' => (by cases ho'), fun st' => ?_⟩
    · rw [h.called]
      change _ ↔ ((a.workflowProgress.withEntry _).get st').status = _ ∨ _
      rw [hget]
      split
      · next heq => simp [CallState.recording, heq]
      · next hne => simp [CallState.recording, Ne.symm hne, WorkflowProgress.isComplete]
    · change ((a.workflowProgress.withEntry _).get st').status ≠ _
      rw [hget]
      split
      · simp
      · exact h.not_failed st'
  | @failed st _ _ o ho =>
    have := h.success st o rfl
    rw [ho] at this; cases this
  | notRecorded hno => exact absurd ⟨hp.holds.1, (hp.running_iff _).mpr rfl⟩ hno
  | afterCompletion =>
    exact hnil (hsame _ rfl (recording_onStageCompleted _ _ _))
  | advanced =>
    exact hnil (h.quiet rfl (recording_ret stack) (fun _ => Iff.rfl) h.not_failed)
  | notAdvanced => exact hnil (hsame _ rfl rfl)
  | afterFailure => exact absurd hp.holds.2.1 (h.not_failed _)
  | dispatched => exact hnil (hsame _ rfl (recording_dispatchRunnableStages _ _ _))
  | loopEnd => exact hnil (hsame _ rfl (recording_ret stack))
  | turn => exact hnil (hsame _ rfl (recording_forEachTurn _ _ _ _))

/-- With automatic stages that all succeed, `startWorkflow` returns with the assessment validated,
    and has called the executor for exactly the stages of the template, each once and after all its
    predecessors. -/
theorem startWorkflow_completes (h : Startup target templateId db T a₀)
    (hhaz : T.hazardType = a₀.hazardType) (hacc : T.Accepted) (hdist : T.Distinct)
    (hauto : ∀ sd ∈ T.stageDefinitions, sd.triggerMode = .automatic) (f : OutcomeExecutor)
    (hsucc : ∀ tr st, (f tr st).success = true) (clock : ℕ → Timestamp) (actor : UserId) :
    ∃ n, let r := Run.startWorkflowRun target f.toExecutor clock templateId actor db n
      let calls := r.trace.map Prod.fst
      r.state = .returned ∧ (∃ a, r.db.Row target a ∧ a.status = .validated) ∧ calls.Nodup ∧
      (∀ st, st ∈ calls ↔ st ∈ T.requiredStageTypes) ∧
      ∀ sd ∈ T.stageDefinitions, ∀ pre suf, calls = pre ++ sd.stageType :: suf →
        ∀ st ∈ sd.requiredPredecessors, st ∈ pre := by
  obtain ⟨n, hn⟩ := startWorkflow_terminates f.toExecutor clock templateId actor h.row
  obtain ⟨m, rfl⟩ := done_pos hn
  refine ⟨m + 1, ?_⟩
  have h0 : Orderly T (boundTo T a₀ (clock 0)).saved (.active .dispatchRunnableStages []) [] := by
    refine ⟨fun st => ?_, List.nodup_nil, Lib.topoOrdered_nil _, fun _ _ ho => (by cases ho),
      fun st => ?_⟩ <;>
    simp [boundTo, Assessment.saved, WorkflowProgress.isComplete, CallState.recording]
  obtain ⟨a, hat, hv, hq⟩ := run_valid f clock actor (Q := Orderly T) h hhaz hdist h0
    (fun n a control stack a' r₁ r₂ _ _ _ hp hq hmove => orderly_move hdist hsucc hp hq hmove) m
  generalize Run.startWorkflowRun target f.toExecutor clock templateId actor db (m + 1) = r
    at hn hat hv hq
  have hret : r.state = .returned := by
    cases hs : r.state with
    | active control stack => rw [hs] at hn; exact hn.elim
    | returned => rfl
    | raised e => rw [hs] at hv; exact hv.elim
  rw [hret] at hv hq
  -- settled without failures means complete, and completeness spreads along the graph
  have hall : ∀ sd ∈ T.stageDefinitions, a.workflowProgress.isComplete sd.stageType := by
    refine hacc.induct hdist fun sd hsd hpre => ?_
    rcases hv.settled sd ⟨hsd, hauto sd hsd, hpre⟩ with hc | ⟨hc, _⟩
    · exact hc
    · exact absurd hc (hq.not_failed _)
  have hvalidated : a.status = .validated := by
    rcases hv.live with ⟨_, hwork⟩ | ⟨hval, _⟩
    · exact absurd (hwork (WorkflowTemplate.allComplete_required_iff.mpr hall)) hacc.2.1
    · exact hval
  refine ⟨hret, ⟨a, hat.row, hvalidated⟩, hq.once, fun st => ?_, fun sd hsd pre suf heq st hst => ?_⟩
  · rw [hq.called]
    constructor
    · rintro (hc | ⟨o, ho⟩)
      · refine hv.known st ?_
        rw [hc]; decide
      · cases ho
    · intro hst
      obtain ⟨sd, hsd, rfl⟩ := WorkflowTemplate.mem_requiredStageTypes.mp hst
      exact Or.inl (hall sd hsd)
  · refine hq.ordered pre sd.stageType suf heq st ?_
    simpa [required, WorkflowTemplate.getStageDefinition_of_mem hdist hsd] using hst

theorem startWorkflow_completes_sample :
    ∃ n, let r := sampleRun succeeding n
      let calls := r.trace.map Prod.fst
      r.state = .returned ∧ (∃ a, r.db.Row sampleTarget a ∧ a.status = .validated) ∧ calls.Nodup ∧
      (∀ st, st ∈ calls ↔ st ∈ sampleTemplate.requiredStageTypes) ∧
      ∀ sd ∈ sampleTemplate.stageDefinitions, ∀ pre suf, calls = pre ++ sd.stageType :: suf →
        ∀ st ∈ sd.requiredPredecessors, st ∈ pre :=
  startWorkflow_completes sampleDb_startup rfl (by decide) (by decide) (by decide) succeeding
    (fun _ _ => rfl) id ⟨1⟩

/-! ### Retry budgets -/

/-- Within its budget: no stage of the template has been started more often than it may be. -/
def WithinBudget (T : WorkflowTemplate) (a : Assessment) : Prop :=
  ∀ sd ∈ T.stageDefinitions, (a.workflowProgress.get sd.stageType).attemptCount ≤ sd.maxAttempts

instance (T : WorkflowTemplate) (a : Assessment) : Decidable (WithinBudget T a) :=
  inferInstanceAs (Decidable (∀ sd ∈ T.stageDefinitions, _ ≤ _))

/-- Within its budget, and a stage about to start has an attempt left. -/
def Budgeted (T : WorkflowTemplate) (a : Assessment) (s : CallState) : Prop :=
  WithinBudget T a ∧ ∀ st actor stack, s = .active (.executeStage st actor) stack →
    ∀ sd ∈ T.stageDefinitions, sd.stageType = st →
      (a.workflowProgress.get st).attemptCount < sd.maxAttempts

/-- The dispatch loop takes a stage up only when it has an attempt left. -/
def DispatchInBudget (a : Assessment) : CallState → Prop
  | .active (.forEach (sd :: _)) _ => (a.workflowProgress.get sd.stageType).Startable →
      (a.workflowProgress.get sd.stageType).attemptCount < sd.maxAttempts
  | _ => True

theorem withinBudget_withEntry {a : Assessment} {e : StageProgressEntry} {now : Timestamp}
    (h : WithinBudget T a) (he : ∀ sd ∈ T.stageDefinitions, sd.stageType = e.stageType →
      e.attemptCount ≤ sd.maxAttempts) : WithinBudget T (a.withStage e now).saved := by
  intro sd hsd
  rw [Assessment.saved_progress, Assessment.withStage_get]
  split
  · next heq => exact he sd hsd heq
  · exact h sd hsd

/-- Not about to start a stage. -/
def CallState.starting : CallState → Bool
  | .active (.executeStage _ _) _ => true
  | _ => false

theorem Budgeted.of_not_starting {a : Assessment} {s : CallState} (h : WithinBudget T a)
    (hs : s.starting = false) : Budgeted T a s := by
  refine ⟨h, fun st actor stack hc => ?_⟩
  rw [hc] at hs
  cases hs

theorem starting_ret (stack : List (List StageDefinition)) :
    (CallState.ret stack).starting = false := by
  cases stack <;> rfl

theorem budgeted_onStageFailed (hdist : T.Distinct) {a : Assessment} {st : StageType}
    {stack : List (List StageDefinition)} (h : WithinBudget T a) :
    Budgeted T a (onStageFailed st stack a (some T)) := by
  unfold onStageFailed
  cases hd : T.getStageDefinition st with
  | none => simpa only [hd] using Budgeted.of_not_starting h (starting_ret stack)
  | some sd =>
    simp only [hd]
    split
    · next hlt =>
      refine ⟨h, fun st' actor stack' hs sd' hsd' htype => ?_⟩
      cases hs
      obtain ⟨hmem, hst⟩ := WorkflowTemplate.getStageDefinition_some hd
      obtain rfl : sd' = sd := List.inj_on_of_nodup_map hdist hsd' hmem (htype.trans hst.symm)
      exact hlt
    · exact Budgeted.of_not_starting h (starting_ret stack)

/-- A move keeps the budget when the loop does. -/
theorem budgeted_move (hdist : T.Distinct) {templates : WorkflowTemplateId → Option WorkflowTemplate}
    {a a' : Assessment} {control : Control} {stack : List (List StageDefinition)}
    {reply : StageType → ExecutorReply} {now : Timestamp} {state : CallState}
    (hT : a.workflowTemplateId.bind templates = some T)
    (hp : Progressing T a.status a.workflowProgress control stack)
    (hdisp : DispatchInBudget a (.active control stack)) (h : Budgeted T a (.active control stack))
    (hmove : Move templates reply now a control stack a' state) : Budgeted T a' state := by
  cases hmove with
  | bound | notBound => exact hp.holds.elim
  | @started st actor _ hrun hst =>
    refine .of_not_starting (withinBudget_withEntry h.1 fun sd hsd htype => ?_) rfl
    simp only [StageProgressEntry.started_stageType, WorkflowProgress.get_stageType] at htype
    exact h.2 st actor stack rfl sd hsd htype
  | @completed st _ _ o =>
    refine .of_not_starting (withinBudget_withEntry h.1 fun sd hsd htype => ?_) rfl
    simp only [StageProgressEntry.completed_stageType, WorkflowProgress.get_stageType] at htype
    exact htype ▸ h.1 sd hsd
  | @failed st _ _ o =>
    refine .of_not_starting (withinBudget_withEntry h.1 fun sd hsd htype => ?_) rfl
    simp only [StageProgressEntry.failedWith_stageType, WorkflowProgress.get_stageType] at htype
    exact htype ▸ h.1 sd hsd
  | afterCompletion =>
    refine .of_not_starting h.1 ?_
    rw [hT]; unfold onStageCompleted; dsimp only; split <;> rfl
  | afterFailure => rw [hT]; exact budgeted_onStageFailed hdist h.1
  | dispatched => rw [hT]; exact .of_not_starting h.1 rfl
  | advanced => exact .of_not_starting h.1 (starting_ret stack)
  | loopEnd => exact .of_not_starting h.1 (starting_ret stack)
  | @turn sd pending _ =>
    unfold forEachTurn
    split
    · next hst =>
      refine ⟨h.1, fun st actor stack' hs sd' hsd' htype => ?_⟩
      cases hs
      obtain rfl : sd' = sd := List.inj_on_of_nodup_map hdist hsd'
        (hp.holds.2 sd (List.mem_cons_self ..)).mem htype
      exact hdisp hst
    · exact .of_not_starting h.1 rfl
  | _ => exact .of_not_starting h.1 rfl

/-- A stage the loop takes up is started two steps later. -/
theorem turn_starts (executor : StageExecutor) (clock : ℕ → Timestamp) (n : ℕ) {r : Run}
    {a : Assessment}
    {templates : WorkflowTemplateId → Option WorkflowTemplate} {sd : StageDefinition}
    {pending : List StageDefinition} {stack : List (List StageDefinition)}
    (hat : r.At templates target a) (hs : r.state = .active (.forEach (sd :: pending)) stack)
    (hrun : a.status = .running) (hst : (a.workflowProgress.get sd.stageType).Startable) :
    ((r.step target executor clock n).step target executor clock (n + 1)).At templates target
      (a.withStage ((a.workflowProgress.get sd.stageType).started (clock (n + 1)))
        (clock (n + 1))).saved := by
  obtain ⟨a₁, hmove₁, hat₁⟩ := hat.step hs executor clock n
  generalize hr₁ : r.step target executor clock n = r₁ at hmove₁ hat₁
  generalize hs₁ : r₁.state = s₁ at hmove₁
  cases hmove₁
  rw [forEachTurn, if_pos hst] at hs₁
  obtain ⟨a₂, hmove₂, hat₂⟩ := hat₁.step hs₁ executor clock (n + 1)
  generalize (r₁.step target executor clock (n + 1)).state = s₂ at hmove₂
  cases hmove₂ with
  | started => exact hat₂
  | notStarted hno => exact absurd ⟨hrun, hst⟩ hno

/-- The attempts of every stage stay within its budget throughout the run iff the dispatch loop
    never takes up a stage that has none left. -/
theorem withinBudget_iff (h : Startup target templateId db T a₀) (hdist : T.Distinct)
    (f : OutcomeExecutor) (clock : ℕ → Timestamp) (actor : UserId) :
    (∀ n a, (Run.startWorkflowRun target f.toExecutor clock templateId actor db n).db.Row target a →
        a.status ≠ .ready → WithinBudget T a) ↔
      ∀ n a, (Run.startWorkflowRun target f.toExecutor clock templateId actor db n).db.Row target a →
        DispatchInBudget a
          (Run.startWorkflowRun target f.toExecutor clock templateId actor db n).state := by
  by_cases hhaz : T.hazardType = a₀.hazardType
  swap
  · -- nothing is started at all
    constructor
    · rintro _ (_ | n) a _
      · trivial
      · obtain ⟨e, _, hs, _⟩ := run_mismatch f.toExecutor clock actor h hhaz n
        rw [hs]; trivial
    · rintro _ (_ | n) a hrow hne
      · obtain rfl : a = a₀ := Option.some.inj (hrow.1.symm.trans h.row.1)
        exact absurd h.ready hne
      · obtain ⟨e, _, _, hat⟩ := run_mismatch f.toExecutor clock actor h hhaz n
        obtain rfl : a = a₀ := by simpa [hat.row.1] using hrow.1.symm
        exact absurd h.ready hne
  constructor
  · rintro hL (_ | n) a hrow
    · trivial
    obtain ⟨b, hat, hv⟩ := run_progresses f clock actor h hhaz hdist n
    obtain rfl : a = b := by simpa [hat.row.1] using hrow.1.symm
    have hstep := hL (n + 1 + 1 + 1)
    simp only [Run.startWorkflowRun, Run.call, Lib.iterate] at hstep hat hv ⊢
    generalize Run.step target f.toExecutor clock n _ = r at hstep hat hv ⊢
    unfold DispatchInBudget
    split
    · next sd pending stack hs =>
      intro hst
      rw [hs] at hv
      obtain ⟨hlive, hwaits⟩ := hv.holds
      have hsd := hwaits sd (List.mem_cons_self ..)
      have hrun : a.status = .running := by
        rcases hlive with ⟨hr, _⟩ | ⟨_, hall⟩
        · exact hr
        · have := hall _ hsd.required
          unfold WorkflowProgress.isComplete at this
          rcases hst with hst | hst <;> rw [hst] at this <;> cases this
      have hat₂ := turn_starts f.toExecutor clock (n + 1) hat hs hrun hst
      have hle := hstep _ hat₂.row (by simp [hrun]) sd hsd.mem
      rw [Assessment.saved_progress, Assessment.withStage_get, if_pos (by simp)] at hle
      simpa using hle
    · trivial
  · rintro hR (_ | n) a hrow hne
    · obtain rfl : a = a₀ := Option.some.inj (hrow.1.symm.trans h.row.1)
      exact absurd h.ready hne
    have hT : db.workflowTemplates.get T.id = some T := by
      rw [Lib.Table.key_of_get h.template, h.template]
    obtain ⟨b, hat, hv, _, hbud⟩ := run_valid f clock actor
      (Q := fun a s _ => a.workflowTemplateId.bind db.workflowTemplates.get = some T ∧
        Budgeted T a s) h hhaz hdist
      ⟨hT, .of_not_starting (fun sd _ => by simp [boundTo]) rfl⟩
      (fun m a control stack a' r₁ r₂ hr₁ hat hs hp hq hmove =>
        ⟨bound_move hq.1 hp hmove, budgeted_move hdist hq.1 hp
          (by have := hR m a (hr₁ ▸ hat.row); rwa [← hr₁, hs] at this) hq.2 hmove⟩) n
    obtain rfl : a = b := by simpa [hat.row.1] using hrow.1.symm
    exact hbud.1

theorem withinBudget_iff_sample :
    (∀ n a, (sampleRun succeeding n).db.Row sampleTarget a → a.status ≠ .ready →
        WithinBudget sampleTemplate a) ↔
      ∀ n a, (sampleRun succeeding n).db.Row sampleTarget a →
        DispatchInBudget a (sampleRun succeeding n).state :=
  withinBudget_iff sampleDb_startup (by decide) succeeding id ⟨1⟩

/-- The first stage fails and its only attempt is spent; when the second stage completes, the first
    is dispatched again. -/
theorem budget_exceeded : ¬ ∀ (target : Target) (templateId : Spelled WorkflowTemplateId) (db : Db)
    (T : WorkflowTemplate) (a₀ : Assessment) (f : OutcomeExecutor) (clock : ℕ → Timestamp)
    (actor : UserId), Startup target templateId db T a₀ → T.Accepted → T.Distinct →
    ∀ n a, (Run.startWorkflowRun target f.toExecutor clock templateId actor db n).db.Row target a →
      a.status ≠ .ready → WithinBudget T a := by
  intro h
  have hbad : ((sampleRun (failingAt .hazard) 15).db.assessments.get ⟨1⟩).any (fun a =>
      a.tenantId = ⟨1⟩ ∧ a.status ≠ .ready ∧ ¬ WithinBudget sampleTemplate a) = true := by
    decide +kernel
  obtain ⟨a, ha, hp⟩ := (Option.any_eq_true _ _).mp hbad
  obtain ⟨htenant, hready, hover⟩ := of_decide_eq_true hp
  exact hover (h sampleTarget _ _ _ _ _ _ _ sampleDb_startup (by decide) (by decide) 15 a
    ⟨ha, htenant⟩ hready)

end Results

end GeoRisk.Orchestration
