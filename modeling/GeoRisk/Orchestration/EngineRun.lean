import Mathlib
import GeoRisk.Lib.Runs
import GeoRisk.Orchestration.Engine

/-! One call of the engine, alone with its database and its executor: `startWorkflowRun` and
    `executeStageRun`. The executor may answer by the whole history of its calls. `run_inv` takes
    an invariant of the moves to the states of the run, and `run_terminates` says that every call
    ends: stages complete at most once, between completions the retry budgets and the pending
    loops only shrink. -/

namespace GeoRisk.Orchestration

/-- The executor calls of a run, in order, with their replies. -/
abbrev Trace := List (StageType × ExecutorReply)

/-- An executor, which may remember its calls. -/
abbrev StageExecutor := Trace → StageType → ExecutorReply

structure Run where
  db : Db
  state : CallState
  trace : Trace

def CallState.called (reply : StageType → ExecutorReply) : CallState → Trace
  | .active (.callExecutor st _) _ => [(st, reply st)]
  | _ => []

namespace Run

variable (target : Target) (executor : StageExecutor) (clock : ℕ → Timestamp)

def step (n : ℕ) (r : Run) : Run :=
  let (db, state) := r.state.step target (executor r.trace) (clock n) r.db
  { db, state, trace := r.trace ++ r.state.called (executor r.trace) }

/-- A call that begins at `control`, after `n` steps. -/
def call (control : Control) (db : Db) : ℕ → Run :=
  Lib.iterate (step target executor clock) { db, state := .active control [], trace := [] }

/-- `WorkflowEngine.start_workflow`. -/
def startWorkflowRun (templateId : Spelled WorkflowTemplateId) (actor : UserId) : Db → ℕ → Run :=
  call target executor clock (.startWorkflow templateId (.user actor))

/-- `WorkflowEngine.execute_stage`, as the API calls it. -/
def executeStageRun (st : StageType) (actor : UserId) : Db → ℕ → Run :=
  call target executor clock (.executeStage st (.user actor))

end Run

/-- The call has returned or raised. -/
def CallState.Done : CallState → Prop
  | .active _ _ => False
  | _ => True

instance : DecidablePred CallState.Done
  | .active _ _ => isFalse id
  | .returned => isTrue trivial
  | .raised _ => isTrue trivial

/-! ### From moves to runs -/

section Inv

variable {target : Target} {executor : StageExecutor} {clock : ℕ → Timestamp} {r : Run}
  {templates : WorkflowTemplateId → Option WorkflowTemplate} {a a' : Assessment}
  {reply : StageType → ExecutorReply} {now : Timestamp} {control : Control}
  {stack : List (List StageDefinition)} {state : CallState}

/-- The run is over this row and these templates. -/
structure Run.At (templates : WorkflowTemplateId → Option WorkflowTemplate) (target : Target)
    (r : Run) (a : Assessment) : Prop where
  row : r.db.Row target a
  templates : r.db.workflowTemplates.get = templates

theorem Run.At.initial {db : Db} (h : db.Row target a) (control : Control) :
    Run.At db.workflowTemplates.get target ⟨db, .active control [], []⟩ a :=
  ⟨h, rfl⟩

theorem Run.At.unique (h : r.At templates target a) (h' : r.At templates target a') : a = a' := by
  simpa [h.row.1] using h'.row.1

theorem Move.tenantId (h : Move templates reply now a control stack a' state) :
    a'.tenantId = a.tenantId := by
  cases h <;> rfl

/-- The states of a run after its first step are what a move leads to. -/
theorem Run.At.step (h : r.At templates target a) (hs : r.state = .active control stack)
    (executor : StageExecutor) (clock : ℕ → Timestamp) (n : ℕ) :
    ∃ a', Move templates (executor r.trace) (clock n) a control stack a'
        (r.step target executor clock n).state ∧
      (r.step target executor clock n).At templates target a' := by
  obtain ⟨a', hmove, hrep⟩ := step_move h.row (executor r.trace) (clock n) control stack
  rw [h.templates] at hmove
  simp only [Run.step, hs, CallState.step]
  refine ⟨a', hmove, ⟨hrep.get_self, hmove.tenantId.trans h.row.2⟩, ?_⟩
  rw [hrep.templates, h.templates]

theorem Run.step_done (h : r.state.Done) (n : ℕ) : r.step target executor clock n = r := by
  obtain ⟨db, state, trace⟩ := r
  cases state with
  | active control stack => exact h.elim
  | returned | raised => simp [Run.step, CallState.step, CallState.called]

/-- Invariant rule for the calls of the engine: what holds at the start and is kept by the moves the
    run makes holds at every step. -/
theorem run_inv (executor : StageExecutor) (clock : ℕ → Timestamp)
    {P : Assessment → CallState → Trace → Prop} (hr : r.At templates target a)
    (h0 : P a r.state r.trace)
    (hP : ∀ n {a control stack a'} {r₁ r₂ : Run}, r₁ = Lib.iterate (Run.step target executor clock) r n →
      r₂ = r₁.step target executor clock n → r₁.At templates target a →
      r₁.state = .active control stack → P a (.active control stack) r₁.trace →
      Move templates (executor r₁.trace) (clock n) a control stack a' r₂.state →
      P a' r₂.state (r₁.trace ++ r₁.state.called (executor r₁.trace))) (n : ℕ) :
    ∃ a, (Lib.iterate (Run.step target executor clock) r n).At templates target a ∧
      P a (Lib.iterate (Run.step target executor clock) r n).state
        (Lib.iterate (Run.step target executor clock) r n).trace := by
  induction n with
  | zero => exact ⟨a, hr, h0⟩
  | succ n ih =>
    obtain ⟨b, hb, hPb⟩ := ih
    rw [Lib.iterate]
    generalize ht : Lib.iterate (Run.step target executor clock) r n = t at hb hPb
    by_cases hd : t.state.Done
    · rw [Run.step_done hd]; exact ⟨b, hb, hPb⟩
    · cases hs : t.state with
      | active control stack =>
        obtain ⟨a', hmove, hat⟩ := hb.step hs executor clock n
        exact ⟨a', hat, hP n ht.symm rfl hb hs (hs ▸ hPb) hmove⟩
      | returned | raised => rw [hs] at hd; exact absurd trivial hd

end Inv

/-! ### Termination -/

section Termination

variable {target : Target} {executor : StageExecutor} {clock : ℕ → Timestamp}
  {templates : WorkflowTemplateId → Option WorkflowTemplate} {a a' : Assessment}
  {reply : StageType → ExecutorReply} {now : Timestamp} {control : Control}
  {stack : List (List StageDefinition)} {state : CallState}

/-- The stages not yet complete. -/
def incomplete (a : Assessment) : ℕ :=
  (Finset.univ.filter fun st => ¬ a.workflowProgress.isComplete st).card

/-- The attempts a stage has left. -/
def attemptsLeft (T : Option WorkflowTemplate) (a : Assessment) (st : StageType) : ℕ :=
  ((T.bind (·.getStageDefinition st)).map (·.maxAttempts)).getD 0 -
    (a.workflowProgress.get st).attemptCount

def budget (T : Option WorkflowTemplate) (a : Assessment) : ℕ :=
  ∑ st : StageType, attemptsLeft T a st

/-- The steps a control point may still take before it returns to its loop or starts an attempt
    that was left. -/
def weight (T : Option WorkflowTemplate) (a : Assessment) : Control → ℕ
  | .startWorkflow _ _ => 1
  | .executeStage _ _ => 5
  | .callExecutor st _ => if 0 < attemptsLeft T a st then 8 else 4
  | .recordOutcome st _ _ => if 0 < attemptsLeft T a st then 7 else 3
  | .onStageFailed st => if 0 < attemptsLeft T a st then 6 else 2
  | .onStageCompleted => 6 * (T.map (·.stageDefinitions.length)).getD 0 + 3
  | .dispatchRunnableStages => 6 * (T.map (·.stageDefinitions.length)).getD 0 + 2
  | .advance => 1
  | .forEach pending => 6 * pending.length + 1

def stackWeight (stack : List (List StageDefinition)) : ℕ :=
  (stack.map fun pending => 6 * pending.length + 1).sum

/-- The measure, lexicographic: completions left, and what may happen up to the next one. -/
def measure (T : Option WorkflowTemplate) (a : Assessment) : CallState → ℕ × ℕ
  | .active (.startWorkflow _ _) _ => (Fintype.card StageType + 1, 0)
  | .active control stack => (incomplete a, 8 * budget T a + weight T a control + stackWeight stack)
  | _ => (incomplete a, 8 * budget T a)

theorem measure_ret (T : Option WorkflowTemplate) (a : Assessment) :
    measure T a (.ret stack) = (incomplete a, 8 * budget T a + stackWeight stack) := by
  cases stack with
  | nil => rfl
  | cons pending stack => simp [CallState.ret, measure, weight, stackWeight, Nat.add_assoc]

theorem incomplete_le (a : Assessment) : incomplete a ≤ Fintype.card StageType :=
  Finset.card_le_univ _

/-- Replacing an entry by one that is complete iff the old one was. -/
theorem incomplete_withStage (now : Timestamp) {e : StageProgressEntry}
    (h : e.status = .complete ↔ a.workflowProgress.isComplete e.stageType) :
    incomplete (a.withStage e now) = incomplete a := by
  unfold incomplete
  congr 1
  refine Finset.filter_congr fun st _ => ?_
  unfold WorkflowProgress.isComplete at h ⊢
  rw [Assessment.withStage_get]
  split
  · next hst => rw [hst, h]
  · rfl

/-- Completing a stage leaves fewer incomplete. -/
theorem incomplete_completed {st : StageType} {ref : Option String}
    (h : (a.workflowProgress.get st).status = .running) :
    incomplete (a.withStage ((a.workflowProgress.get st).completed now ref) now) < incomplete a := by
  have hmem : ∀ b : Assessment, ∀ st', st' ∈ Finset.univ.filter (fun st =>
      ¬ b.workflowProgress.isComplete st) ↔ (b.workflowProgress.get st').status ≠ .complete :=
    fun b st' => by rw [Finset.mem_filter]; exact ⟨fun h => h.2, fun h => ⟨Finset.mem_univ _, h⟩⟩
  refine Finset.card_lt_card (Finset.ssubset_iff_of_subset ?_ |>.mpr ⟨st, ?_, ?_⟩)
  · intro st' hst'
    rw [hmem, Assessment.withStage_get] at hst'
    rw [hmem]
    split at hst'
    · exact absurd rfl hst'
    · exact hst'
  · rw [hmem, h]; decide
  · rw [hmem, Assessment.withStage_get]; simp

/-- The budget of a row with one entry replaced. -/
theorem budget_withStage (T : Option WorkflowTemplate) (a : Assessment) (e : StageProgressEntry)
    (now : Timestamp) :
    budget T (a.withStage e now) + attemptsLeft T a e.stageType =
      budget T a + attemptsLeft T (a.withStage e now) e.stageType := by
  unfold budget
  rw [← Finset.add_sum_erase _ _ (Finset.mem_univ e.stageType),
    ← Finset.add_sum_erase _ (attemptsLeft T a) (Finset.mem_univ e.stageType)]
  have hrest : ∑ st ∈ Finset.univ.erase e.stageType, attemptsLeft T (a.withStage e now) st =
      ∑ st ∈ Finset.univ.erase e.stageType, attemptsLeft T a st := by
    refine Finset.sum_congr rfl fun st hst => ?_
    rw [attemptsLeft, Assessment.withStage_get, if_neg (Finset.ne_of_mem_erase hst), attemptsLeft]
  omega

theorem attemptsLeft_withStage (T : Option WorkflowTemplate) (a : Assessment)
    (e : StageProgressEntry) (now : Timestamp) : attemptsLeft T (a.withStage e now) e.stageType =
      ((T.bind (·.getStageDefinition e.stageType)).map (·.maxAttempts)).getD 0 - e.attemptCount := by
  rw [attemptsLeft, Assessment.withStage_get, if_pos rfl]

/-- A move over the same row to a state of less weight. -/
theorem lex_of_weight {x y b : ℕ} {s : CallState} {T : Option WorkflowTemplate}
    (hs : measure T a s = (x, b)) (h : b < y) :
    Prod.Lex (· < ·) (· < ·) (measure T a s) (x, y) :=
  hs ▸ Prod.Lex.right x h

theorem measure_forEachTurn (T : Option WorkflowTemplate) (a : Assessment) (sd : StageDefinition)
    (pending : List StageDefinition) (stack : List (List StageDefinition)) :
    ∃ w, measure T a (forEachTurn sd pending stack a) = (incomplete a, w) ∧
      w < 8 * budget T a + (6 * (sd :: pending).length + 1) + stackWeight stack := by
  unfold forEachTurn
  split
  · refine ⟨_, rfl, ?_⟩
    simp only [weight, stackWeight, List.map_cons, List.sum_cons, List.length_cons]
    omega
  · refine ⟨_, rfl, ?_⟩
    simp only [weight, List.length_cons]
    omega

/-- Only `startWorkflow` binds a template. -/
theorem Move.template_eq (h : Move templates reply now a control stack a' state)
    (hc : ∀ templateId actor, control ≠ .startWorkflow templateId actor) :
    a'.workflowTemplateId = a.workflowTemplateId := by
  cases h <;> first | rfl | exact absurd rfl (hc _ _)

/-- The measure decreases while a stage starts: an attempt that was left pays for the weight of
    the attempts left after it. -/
theorem measure_started (T : Option WorkflowTemplate) {st : StageType} {actor : Actor}
    (hst : (a.workflowProgress.get st).Startable) :
    Prod.Lex (· < ·) (· < ·)
      (measure T (a.withStage ((a.workflowProgress.get st).started now) now)
        (.active (.callExecutor st actor) stack))
      (measure T a (.active (.executeStage st actor) stack)) := by
  have hinc := incomplete_withStage (a := a) now
    (e := (a.workflowProgress.get st).started now)
    (by rcases hst with h | h <;> simp [WorkflowProgress.isComplete, h])
  have hb := budget_withStage T a ((a.workflowProgress.get st).started now) now
  have hl := attemptsLeft_withStage T a ((a.workflowProgress.get st).started now) now
  have ha : attemptsLeft T a st = ((T.bind (·.getStageDefinition st)).map (·.maxAttempts)).getD 0 -
    (a.workflowProgress.get st).attemptCount := rfl
  simp only [StageProgressEntry.started_stageType, WorkflowProgress.get_stageType,
    StageProgressEntry.started_attemptCount] at hb hl
  simp only [measure, hinc]
  refine Prod.Lex.right _ ?_
  simp only [weight]
  split <;> omega

theorem measure_failed (T : Option WorkflowTemplate) (now : Timestamp) {st : StageType} {actor : Actor}
    {o : StageExecutionOutcome} {err : Option String}
    (hst : (a.workflowProgress.get st).status = .running) :
    Prod.Lex (· < ·) (· < ·)
      (measure T (a.withStage ((a.workflowProgress.get st).failedWith err) now)
        (.active (.onStageFailed st) stack))
      (measure T a (.active (.recordOutcome st actor o) stack)) := by
  have hinc := incomplete_withStage (a := a) now
    (e := (a.workflowProgress.get st).failedWith err)
    (by simp [WorkflowProgress.isComplete, hst])
  have hb := budget_withStage T a ((a.workflowProgress.get st).failedWith err) now
  have hl := attemptsLeft_withStage T a ((a.workflowProgress.get st).failedWith err) now
  have ha : attemptsLeft T a st = ((T.bind (·.getStageDefinition st)).map (·.maxAttempts)).getD 0 -
    (a.workflowProgress.get st).attemptCount := rfl
  simp only [StageProgressEntry.failedWith_stageType, WorkflowProgress.get_stageType,
    StageProgressEntry.failedWith_attemptCount] at hb hl
  simp only [measure, hinc]
  refine Prod.Lex.right _ ?_
  simp only [weight, hl, ← ha]
  split <;> omega

theorem measure_onStageCompleted (T : Option WorkflowTemplate) (a : Assessment) :
    Prod.Lex (· < ·) (· < ·) (measure T a (onStageCompleted stack a T))
      (measure T a (.active .onStageCompleted stack)) := by
  cases T with
  | none => exact lex_of_weight (measure_ret _ a) (by simp only [weight]; omega)
  | some tpl =>
    unfold onStageCompleted
    dsimp only
    split <;> exact lex_of_weight rfl (by simp only [weight]; omega)

theorem measure_onStageFailed (T : Option WorkflowTemplate) (a : Assessment) (st : StageType) :
    Prod.Lex (· < ·) (· < ·) (measure T a (onStageFailed st stack a T))
      (measure T a (.active (.onStageFailed st) stack)) := by
  have hret : Prod.Lex (· < ·) (· < ·) (measure T a (.ret stack))
      (measure T a (.active (.onStageFailed st) stack)) :=
    lex_of_weight (measure_ret _ a) (by simp only [weight]; split <;> omega)
  cases T with
  | none => exact hret
  | some tpl =>
    unfold onStageFailed
    cases hd : tpl.getStageDefinition st with
    | none => simpa only [hd] using hret
    | some sd =>
      simp only [hd]
      split
      · next hlt =>
        have hleft : 0 < attemptsLeft (some tpl) a st := by
          simp only [attemptsLeft, Option.bind_some, hd, Option.map_some, Option.getD_some]
          omega
        exact lex_of_weight rfl (by simp only [weight, if_pos hleft]; omega)
      · exact hret

theorem measure_dispatchRunnableStages (T : Option WorkflowTemplate) (a : Assessment) :
    Prod.Lex (· < ·) (· < ·) (measure T a (dispatchRunnableStages stack a T))
      (measure T a (.active .dispatchRunnableStages stack)) := by
  cases T with
  | none => exact lex_of_weight (measure_ret _ a) (by simp only [weight]; omega)
  | some tpl =>
    have hlen : (tpl.automatic a.workflowProgress).length ≤ tpl.stageDefinitions.length :=
      (List.length_filter_le _ _).trans (List.length_filter_le _ _)
    exact lex_of_weight rfl (by
      simp only [weight, Option.map_some, Option.getD_some]; omega)

/-- Every step of a call decreases the measure. -/
theorem measure_lt (h : Move templates reply now a control stack a' state) :
    Prod.Lex (· < ·) (· < ·) (measure (a'.workflowTemplateId.bind templates) a' state)
      (measure (a.workflowTemplateId.bind templates) a (.active control stack)) := by
  by_cases hc : ∀ templateId actor, control ≠ .startWorkflow templateId actor
  · rw [h.template_eq hc]
    generalize hT : a.workflowTemplateId.bind templates = T
    cases h with
    | bound | notBound => exact absurd rfl (hc _ _)
    | started hrun hst => exact measure_started T hst
    | notStarted | notAdvanced => exact lex_of_weight rfl (by simp only [weight]; omega)
    | replied | executorRaised | notRecorded =>
      exact lex_of_weight rfl (by simp only [weight]; split <;> omega)
    | completed ho hrun hst => exact Prod.Lex.left _ _ (incomplete_completed hst)
    | failed ho hrun hst => exact measure_failed T now hst
    | afterCompletion => exact hT ▸ measure_onStageCompleted T a
    | advanced _ hall hrun => exact lex_of_weight (measure_ret T a) (by simp only [weight]; omega)
    | afterFailure => exact hT ▸ measure_onStageFailed T a _
    | dispatched => exact hT ▸ measure_dispatchRunnableStages T a
    | loopEnd => exact lex_of_weight (measure_ret T a) (by simp only [weight, List.length_nil]; omega)
    | @turn sd pending _ =>
      obtain ⟨w, hw, hlt⟩ := measure_forEachTurn T a sd pending stack
      exact lex_of_weight hw hlt
  · have hstart : ∃ templateId actor, control = .startWorkflow templateId actor := by
      simpa using hc
    obtain ⟨templateId, actor, rfl⟩ := hstart
    cases h <;> exact Prod.Lex.left _ _ (Nat.lt_succ_of_le (incomplete_le _))

/-- The measure of a run, over the assessment as it stands. -/
def Run.measure (templates : WorkflowTemplateId → Option WorkflowTemplate) (target : Target)
    (r : Run) : ℕ × ℕ :=
  match r.db.assessments.get target.assessmentId.id with
  | none => (0, 0)
  | some a => Orchestration.measure (a.workflowTemplateId.bind templates) a r.state

/-- Every call of the engine over a row ends: it returns or raises. -/
theorem run_terminates {r : Run} (hr : r.At templates target a) :
    ∃ n, (Lib.iterate (Run.step target executor clock) r n).state.Done := by
  refine Lib.iterate_reaches (J := fun r : Run => ∃ a, r.At templates target a)
    (WellFounded.prod_lex Nat.lt_wfRel.wf Nat.lt_wfRel.wf) (Run.measure templates target)
    (fun r => r.state.Done) ⟨a, hr⟩ ?_ ?_
  · rintro n t ⟨b, hb⟩
    cases hs : t.state with
    | active control stack =>
      obtain ⟨b', _, hb'⟩ := hb.step hs executor clock n
      exact ⟨b', hb'⟩
    | returned | raised => rw [Run.step_done (by rw [hs]; trivial)]; exact ⟨b, hb⟩
  · rintro n t ⟨b, hb⟩ hactive
    cases hs : t.state with
    | active control stack =>
      obtain ⟨b', hmove, hb'⟩ := hb.step hs executor clock n
      simp only [Run.measure, hb.row.1, hb'.row.1, hs]
      exact measure_lt hmove
    | returned | raised => exact absurd (by rw [hs]; trivial) hactive

end Termination

end GeoRisk.Orchestration
