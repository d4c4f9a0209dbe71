import Mathlib
import GeoRisk.Lib.Runs
import GeoRisk.Orchestration.Entity

/-! The life of one assessment: any calls of its methods in any order, each with the time it reads.
    A call raises and leaves the aggregate as it was, or moves one of two machines: the status of
    the assessment, or, while that is running, the entry of one stage.

        status   draft ──▶ ready ──▶ running ──▶ …       (start_workflow also resets the entries)
        entry                  notStarted ──▶ running ──▶ complete
                                               ▲   │
                                               └─ failed                                        -/

namespace GeoRisk.Orchestration

/-- A call of one of the aggregate's methods, with its arguments. -/
inductive Call where
  | markReady (changedBy : String)
  | start (changedBy : String)
  | startWorkflow (templateId : WorkflowTemplateId) (stageTypes : Finset StageType)
      (changedBy : String)
  | startStage (st : StageType) (triggeredBy : String)
  | completeStage (st : StageType) (stageResultRef : Option String) (changedBy : String)
  | failStage (st : StageType) (error changedBy : String)
  | advancePastRunning (requiredStageTypes : Finset StageType) (changedBy : String)
  | markValidated (changedBy : String)
  | markReported (changedBy : String)
  | archive (archivedBy : String)
  | cancel (reason cancelledBy : String)
  deriving DecidableEq

/-- The call's method; the event it returns is for the caller. -/
def Call.perform (now : Timestamp) : Call → AssessmentM Unit
  | .markReady who => discard (Assessment.markReady who now)
  | .start who => discard (Assessment.start who now)
  | .startWorkflow id sts who => discard (Assessment.startWorkflow id sts who now)
  | .startStage st who => discard (Assessment.startStage st who now)
  | .completeStage st ref who => discard (Assessment.completeStage st ref who now)
  | .failStage st error who => discard (Assessment.failStage st error who now)
  | .advancePastRunning sts who => discard (Assessment.advancePastRunning sts who now)
  | .markValidated who => discard (Assessment.markValidated who now)
  | .markReported who => discard (Assessment.markReported who now)
  | .archive who => discard (Assessment.archive who now)
  | .cancel reason who => discard (Assessment.cancel reason who now)

/-- A call at a time. -/
structure TimedCall where
  call : Call
  now : Timestamp
  deriving DecidableEq

namespace TimedCall

def result (c : TimedCall) (a : Assessment) : EStateM.Result AssessmentError Assessment Unit :=
  (c.call.perform c.now).run a

def succeeds (c : TimedCall) (a : Assessment) : Bool :=
  match c.result a with
  | .ok _ _ => true
  | .error _ _ => false

end TimedCall

namespace Assessment

/-- The aggregate as the call leaves it, whether it returned or raised. -/
def step (a : Assessment) (c : TimedCall) : Assessment :=
  match c.result a with
  | .ok _ a' => a'
  | .error _ a' => a'

def isTerminal (self : Assessment) : Prop := self.status = .archived ∨ self.status = .cancelled

/-- The calls of a run that did not raise, in order. -/
def successes : Assessment → List TimedCall → List TimedCall
  | _, [] => []
  | a, c :: cs => if c.succeeds a then c :: successes (a.step c) cs else successes (a.step c) cs

end Assessment

def Call.startsWorkflow : Call → Bool
  | .startWorkflow .. => true
  | _ => false

def Call.startsStage (st : StageType) : Call → Bool
  | .startStage st' _ => st' = st
  | _ => false

/-- How often the stage was started by the calls, since the latest of them that started the
    workflow. -/
def startsSinceWorkflow (st : StageType) (calls : List TimedCall) : ℕ :=
  (calls.reverse.takeWhile fun c => !c.call.startsWorkflow).countP (·.call.startsStage st)

/-! ### What one call does -/

namespace Assessment

/-- What a call that returns does to the aggregate, by the machine it moves. -/
inductive Moved (a : Assessment) (c : TimedCall) : Assessment → Prop
  /-- the status alone, neither from nor to an end by cancellation -/
  | status (s : AssessmentStatus) (hs : s ∈ legalTransitions a.status) (hc : s ≠ .cancelled)
      (hw : c.call.startsWorkflow = false) (hst : ∀ st, c.call.startsStage st = false) :
      Moved a c { a with status := s, updatedAt := c.now }
  | cancelled (reason : String) (hs : .cancelled ∈ legalTransitions a.status)
      (hr : isBlank reason = false) (hw : c.call.startsWorkflow = false)
      (hst : ∀ st, c.call.startsStage st = false) :
      Moved a c { a with status := .cancelled, cancellationReason := reason, updatedAt := c.now }
  | workflow (id : WorkflowTemplateId) (sts : Finset StageType)
      (hs : .running ∈ legalTransitions a.status) (hw : c.call.startsWorkflow = true) :
      Moved a c { a with
        status := .running, updatedAt := c.now, workflowTemplateId := some id
        workflowProgress := a.workflowProgress.initialized id sts }
  /-- one entry, which was not complete, and the count of its attempts -/
  | stage (e : StageProgressEntry) (hr : a.status = .running)
      (he : (a.workflowProgress.get e.stageType).status ≠ .complete)
      (hw : c.call.startsWorkflow = false)
      (hst : ∀ st, c.call.startsStage st = true → st = e.stageType)
      (hn : e.attemptCount = (a.workflowProgress.get e.stageType).attemptCount +
        (c.call.startsStage e.stageType).toNat) :
      Moved a c (a.withStage e c.now)

theorem discard_run_ok {α : Type} {x : AssessmentM α} {a a' : Assessment} :
    (discard x).run a = .ok () a' ↔ ∃ ev, x.run a = .ok ev a' := by
  have h : (discard x).run a = match x.run a with
      | .ok _ s => .ok () s
      | .error e s => .error e s := by
    show (Functor.map _ x).run a = _
    rw [EStateM.run_map]
    cases x.run a <;> rfl
  rw [h]
  cases x.run a <;> simp

theorem discard_run_error {α : Type} {x : AssessmentM α} {a a' : Assessment} {e : AssessmentError} :
    (discard x).run a = .error e a' ↔ x.run a = .error e a' := by
  have h : (discard x).run a = match x.run a with
      | .ok _ s => .ok () s
      | .error e s => .error e s := by
    show (Functor.map _ x).run a = _
    rw [EStateM.run_map]
    cases x.run a <;> rfl
  rw [h]
  cases x.run a <;> simp

variable {a a' : Assessment} {c : TimedCall}

/-- Inversion of a call that returns. -/
theorem moved_of_ok (h : c.result a = .ok () a') : a.Moved c a' := by
  obtain ⟨call, now⟩ := c
  have hstatus : ∀ {s : AssessmentStatus} {who : String}, call.startsWorkflow = false →
      (∀ st, call.startsStage st = false) → s ≠ .cancelled →
      (discard (transition s who now)).run a = .ok () a' → a.Moved ⟨call, now⟩ a' := by
    intro s who hw hst hc hrun
    obtain ⟨hs, rfl⟩ := (transition_ok who).mp (discard_run_ok.mp hrun)
    exact .status s hs hc hw hst
  cases call with
  | markReady who => exact hstatus rfl (fun _ => rfl) (by decide) h
  | start who => exact hstatus rfl (fun _ => rfl) (by decide) h
  | markValidated who => exact hstatus rfl (fun _ => rfl) (by decide) h
  | markReported who => exact hstatus rfl (fun _ => rfl) (by decide) h
  | startWorkflow id sts who =>
    obtain ⟨hs, rfl⟩ := (startWorkflow_ok id sts who now).mp (discard_run_ok.mp h)
    exact .workflow id sts hs rfl
  | startStage st who =>
    obtain ⟨hr, he, rfl⟩ := startStage_ok.mp (discard_run_ok.mp h)
    refine .stage _ hr ?_ rfl (fun st' hst => ?_) ?_
    · rw [StageProgressEntry.started_stageType, WorkflowProgress.get_stageType]
      rcases he with h | h <;> simp [h]
    · simpa [Call.startsStage, eq_comm] using hst
    · simp [Call.startsStage]
  | completeStage st ref who =>
    obtain ⟨hr, he, rfl⟩ := completeStage_ok.mp (discard_run_ok.mp h)
    exact .stage _ hr (by simp [he]) rfl (fun st' hst => by simp [Call.startsStage] at hst)
      (by simp [Call.startsStage])
  | failStage st error who =>
    obtain ⟨hr, he, rfl⟩ := failStage_ok.mp (discard_run_ok.mp h)
    exact .stage _ hr (by simp [he]) rfl (fun st' hst => by simp [Call.startsStage] at hst)
      (by simp [Call.startsStage])
  | advancePastRunning sts who =>
    obtain ⟨_, hs, rfl⟩ := advancePastRunning_ok.mp (discard_run_ok.mp h)
    exact .status .validated hs (by decide) rfl fun _ => rfl
  | archive who =>
    obtain ⟨hs, rfl⟩ := archive_ok.mp (discard_run_ok.mp h)
    exact .status .archived hs (by decide) rfl fun _ => rfl
  | cancel reason who =>
    obtain ⟨hs, hr, rfl⟩ := cancel_ok.mp (discard_run_ok.mp h)
    exact .cancelled reason hs hr rfl fun _ => rfl

/-! ### A call that raises -/

theorem run_bind_error {ε σ α β : Type} {x : EStateM ε σ α} {f : α → EStateM ε σ β} {e : ε}
    {s s' : σ} : (x >>= f).run s = .error e s' ↔
      x.run s = .error e s' ∨ ∃ b t, x.run s = .ok b t ∧ (f b).run t = .error e s' := by
  rw [EStateM.run_bind]
  cases x.run s <;> simp

theorem transition_error {s : AssessmentStatus} {who : String} {now : Timestamp}
    {e : AssessmentError} (h : (transition s who now).run a = .error e a') : a' = a := by
  rw [transition_run] at h
  split at h
  · cases h
  · cases h; rfl

theorem moveStage_error {verb : String} {st : StageType} {s : StageExecutionStatus}
    {ref err : Option String} {now : Timestamp} {e : AssessmentError}
    (h : (moveStage verb st s ref err now).run a = .error e a') : a' = a := by
  rw [moveStage_run] at h
  split at h
  · cases h; rfl
  · split at h
    · cases h; rfl
    · cases h

theorem archive_error {who : String} {now : Timestamp} {e : AssessmentError}
    (h : (archive who now).run a = .error e a') : a' = a := by
  by_cases hl : AssessmentStatus.archived ∈ legalTransitions a.status
  · simp [archive, hl] at h
  · simp only [archive, run_get_bind, hl, not_false_eq_true, if_true, run_bind_error, run_throw] at h
    rcases h with h | ⟨_, _, h, _⟩ <;> cases h
    rfl

theorem cancel_error {reason who : String} {now : Timestamp} {e : AssessmentError}
    (h : (cancel reason who now).run a = .error e a') : a' = a := by
  by_cases hl : AssessmentStatus.cancelled ∈ legalTransitions a.status
  · cases hb : isBlank reason with
    | false => simp [cancel, hl, hb] at h
    | true =>
      simp only [cancel, run_get_bind, hl, not_true_eq_false, if_false, hb, if_true,
        run_bind_error, run_throw] at h
      rcases h with h | ⟨_, _, h, _⟩ <;> cases h
      rfl
  · simp only [cancel, run_get_bind, hl, not_false_eq_true, if_true, run_bind_error, run_throw] at h
    rcases h with h | ⟨_, _, h, _⟩ <;> cases h
    rfl

theorem advancePastRunning_error {sts : Finset StageType} {who : String} {now : Timestamp}
    {e : AssessmentError} (h : (advancePastRunning sts who now).run a = .error e a') : a' = a := by
  by_cases hc : a.workflowProgress.allComplete sts
  · simp only [advancePastRunning, run_get_bind, hc, not_true_eq_false, if_false] at h
    exact transition_error h
  · simp only [advancePastRunning, run_get_bind, hc, not_false_eq_true, if_true, run_bind_error,
      run_throw] at h
    rcases h with h | ⟨_, _, h, _⟩ <;> cases h
    rfl

/-- Nothing that a method writes precedes a point at which it may raise. -/
theorem unchanged_of_error {e : AssessmentError} (h : c.result a = .error e a') : a' = a := by
  obtain ⟨call, now⟩ := c
  cases call with
  | markReady who => exact transition_error (discard_run_error.mp h)
  | start who => exact transition_error (discard_run_error.mp h)
  | markValidated who => exact transition_error (discard_run_error.mp h)
  | markReported who => exact transition_error (discard_run_error.mp h)
  | startWorkflow id sts who =>
    rcases run_bind_error.mp (discard_run_error.mp h) with h | ⟨_, _, _, h⟩
    · exact transition_error h
    · cases h
  | startStage st who =>
    rcases run_bind_error.mp (discard_run_error.mp h) with h | ⟨_, _, _, h⟩
    · exact moveStage_error h
    · cases h
  | completeStage st ref who =>
    rcases run_bind_error.mp (discard_run_error.mp h) with h | ⟨_, _, _, h⟩
    · exact moveStage_error h
    · cases h
  | failStage st error who =>
    rcases run_bind_error.mp (discard_run_error.mp h) with h | ⟨_, _, _, h⟩
    · exact moveStage_error h
    · cases h
  | advancePastRunning sts who => exact advancePastRunning_error (discard_run_error.mp h)
  | archive who => exact archive_error (discard_run_error.mp h)
  | cancel reason who => exact cancel_error (discard_run_error.mp h)

/-- A call moves the aggregate, or leaves it alone. -/
theorem step_cases (a : Assessment) (c : TimedCall) :
    (c.succeeds a = true ∧ a.Moved c (a.step c)) ∨ (c.succeeds a = false ∧ a.step c = a) := by
  unfold TimedCall.succeeds step
  cases h : c.result a with
  | ok u a' => exact .inl ⟨rfl, moved_of_ok h⟩
  | error e a' => exact .inr ⟨rfl, unchanged_of_error h⟩

/-! ### What every call keeps -/

/-- What holds of an assessment between any two calls. -/
structure Coherent (a : Assessment) : Prop where
  cancelled_iff : a.status = .cancelled ↔ isBlank a.cancellationReason = false
  one_entry : (a.workflowProgress.entries.map (·.stageType)).Nodup
  /-- no entry before the assessment runs -/
  no_entry : a.status = .draft ∨ a.status = .ready → a.workflowProgress.entries = []

theorem one_entry_withEntry {p : WorkflowProgress} (h : (p.entries.map (·.stageType)).Nodup)
    (e : StageProgressEntry) : ((p.withEntry e).entries.map (·.stageType)).Nodup := by
  rw [WorkflowProgress.withEntry, List.map_append, List.nodup_append]
  refine ⟨(List.filter_sublist.map _).nodup h, List.nodup_singleton _, ?_⟩
  intro st hst st' hst'
  obtain ⟨e', he', rfl⟩ := List.mem_map.mp hst
  obtain rfl : st' = e.stageType := by simpa using hst'
  simpa using (List.mem_filter.mp he').2

theorem one_entry_initialized (p : WorkflowProgress) (id : WorkflowTemplateId)
    (sts : Finset StageType) : ((p.initialized id sts).entries.map (·.stageType)).Nodup := by
  rw [WorkflowProgress.initialized, List.map_map, Function.comp_def, List.map_id']
  exact List.Nodup.filter _ (by decide)

theorem coherent_step (h : a.Coherent) (c : TimedCall) : (a.step c).Coherent := by
  rcases step_cases a c with ⟨_, hm⟩ | ⟨_, heq⟩
  · generalize a.step c = a' at hm ⊢
    cases hm with
    | status s hs hc =>
      refine ⟨?_, h.one_entry, fun hn => h.no_entry ?_⟩
      · refine iff_of_false hc ?_
        rw [← h.cancelled_iff]
        intro ha; simp [ha, legalTransitions] at hs
      · rcases hn with rfl | rfl <;>
          cases ha : a.status <;> simp_all [legalTransitions]
    | cancelled reason hs hr =>
      exact ⟨iff_of_true rfl hr, h.one_entry, by rintro (h | h) <;> cases h⟩
    | workflow id sts hs =>
      refine ⟨iff_of_false (by simp) ?_, one_entry_initialized a.workflowProgress id sts, by rintro (h | h) <;> cases h⟩
      rw [← h.cancelled_iff]
      intro ha; simp [ha, legalTransitions] at hs
    | stage e hr =>
      refine ⟨h.cancelled_iff, one_entry_withEntry h.one_entry e, ?_⟩
      rintro (hs | hs) <;> rw [withStage_status, hr] at hs <;> cases hs
  · rw [heq]; exact h

theorem coherent_create {id : AssessmentId} {tenantId : TenantId} {name : String}
    {hazardType : HazardType} {createdBy : UserId} {now : Timestamp} {ev : AssessmentCreated}
    (h : create id tenantId name hazardType createdBy now = .ok (a, ev)) : a.Coherent := by
  unfold create at h
  split at h
  · cases h
  · cases h
    exact ⟨iff_of_false (by simp) (by simp [isBlank]), List.nodup_nil, fun _ => rfl⟩

theorem coherent_run (h : a.Coherent) (calls : List TimedCall) : (calls.foldl step a).Coherent :=
  Lib.inv_foldl (P := Coherent) (fun _ c hs => coherent_step hs c) calls h

/-- Archived and cancelled are ends. -/
theorem isTerminal_step (h : a.isTerminal) (c : TimedCall) : (a.step c).status = a.status := by
  rcases step_cases a c with ⟨_, hm⟩ | ⟨_, heq⟩
  · generalize a.step c = a' at hm ⊢
    cases hm <;> rcases h with h | h <;> simp_all [legalTransitions]
  · rw [heq]

theorem isTerminal_run (h : a.isTerminal) (calls : List TimedCall) :
    (calls.foldl step a).status = a.status := by
  refine Lib.inv_foldl (P := fun b : Assessment => b.status = a.status) (fun b c hb => ?_) calls rfl
  rw [isTerminal_step (by rw [isTerminal, hb]; exact h), hb]

/-- An entry that differs after a call was moved while the assessment was running. -/
theorem get_step (h : a.Coherent) (c : TimedCall) (st : StageType) :
    (a.step c).workflowProgress.get st = a.workflowProgress.get st ∨
      a.status = .running ∧ (a.step c).status = .running := by
  rcases step_cases a c with ⟨_, hm⟩ | ⟨_, heq⟩
  · generalize a.step c = a' at hm ⊢
    cases hm with
    | status => exact .inl rfl
    | cancelled => exact .inl rfl
    | workflow id sts hs =>
      left
      have hready := running_legal_iff.mp hs
      have hempty := h.no_entry (.inr hready)
      rw [WorkflowProgress.get_initialized, WorkflowProgress.get, hempty]
      rfl
    | stage e hr => exact .inr ⟨hr, hr⟩
  · rw [heq]; exact .inl rfl

/-- The list of entries changes while the assessment is running: `startWorkflow` writes it once the
    status is set. -/
theorem entries_step (c : TimedCall)
    (h : (a.step c).workflowProgress.entries ≠ a.workflowProgress.entries) :
    (a.step c).status = .running := by
  rcases step_cases a c with ⟨_, hm⟩ | ⟨_, heq⟩
  · generalize a.step c = a' at hm h ⊢
    cases hm with
    | status => exact absurd rfl h
    | cancelled => exact absurd rfl h
    | workflow => rfl
    | stage e hr => exact hr
  · exact absurd (by rw [heq]) h

/-- A complete stage keeps its entry. -/
theorem isComplete_step (h : a.Coherent) (c : TimedCall) {st : StageType}
    (hst : a.workflowProgress.isComplete st) :
    (a.step c).workflowProgress.get st = a.workflowProgress.get st := by
  rcases step_cases a c with ⟨_, hm⟩ | ⟨_, heq⟩
  · generalize a.step c = a' at hm ⊢
    cases hm with
    | status => rfl
    | cancelled => rfl
    | workflow id sts hs =>
      have hempty := h.no_entry (.inr (running_legal_iff.mp hs))
      rw [WorkflowProgress.isComplete, WorkflowProgress.get, hempty] at hst
      cases hst
    | stage e hr he =>
      rw [withStage_get, if_neg]
      rintro rfl
      exact he hst
  · rw [heq]

theorem isComplete_run (h : a.Coherent) {st : StageType} (hst : a.workflowProgress.isComplete st)
    (calls : List TimedCall) :
    (calls.foldl step a).workflowProgress.get st = a.workflowProgress.get st := by
  have hrun := @Lib.inv_foldl _ _ step
    (fun b => b.Coherent ∧ b.workflowProgress.get st = a.workflowProgress.get st)
    (fun b c ⟨hb, hget⟩ => ⟨coherent_step hb c, by
      rw [isComplete_step hb c (by rw [WorkflowProgress.isComplete, hget]; exact hst), hget]⟩)
    calls a ⟨h, rfl⟩
  exact hrun.2

/-! ### Attempts -/

theorem successes_concat (a : Assessment) (calls : List TimedCall) (c : TimedCall) :
    a.successes (calls ++ [c]) =
      a.successes calls ++ if c.succeeds (calls.foldl step a) then [c] else [] := by
  induction calls generalizing a with
  | nil => cases h : c.succeeds a <;> simp [successes, h]
  | cons d calls ih =>
    simp only [List.cons_append, successes, List.foldl_cons, ih]
    cases d.succeeds a <;> rfl

theorem startsSinceWorkflow_concat (st : StageType) (calls : List TimedCall) (c : TimedCall) :
    startsSinceWorkflow st (calls ++ [c]) = if c.call.startsWorkflow then 0
      else startsSinceWorkflow st calls + (c.call.startsStage st).toNat := by
  rw [startsSinceWorkflow, List.reverse_concat, List.takeWhile_cons]
  cases hw : c.call.startsWorkflow with
  | true => rfl
  | false => cases hst : c.call.startsStage st <;> simp [startsSinceWorkflow, hst]

/-- The attempts of a stage count its successful starts. -/
theorem attempts_run
    (hzero : ∀ st, (a.workflowProgress.get st).attemptCount = 0) (calls : List TimedCall)
    (st : StageType) : ((calls.foldl step a).workflowProgress.get st).attemptCount =
      startsSinceWorkflow st (a.successes calls) := by
  induction calls using List.reverseRecOn with
  | nil => exact hzero st
  | append_singleton calls c ih =>
    rw [successes_concat, List.foldl_concat]
    rcases step_cases (calls.foldl step a) c with ⟨hs, hm⟩ | ⟨hs, heq⟩
    · rw [hs, if_pos rfl, startsSinceWorkflow_concat, ← ih]
      generalize (calls.foldl step a).step c = a' at hm ⊢
      cases hm with
      | status s _ _ hw hst => simp [hw, hst]
      | cancelled reason _ _ hw hst => simp [hw, hst]
      | workflow id sts _ hw => simp [hw]
      | stage e _ _ hw hst hn =>
        rw [withStage_get, hw]
        split
        · next heq => rw [heq, hn]; rfl
        · next hne =>
          have : c.call.startsStage st = false := by
            cases hcs : c.call.startsStage st with
            | false => rfl
            | true => exact absurd (hst st hcs) hne
          simp [this]
    · rw [heq, hs, ih]; simp

/-- What holds of the aggregate after any `calls` on a draft `a₀`, and of what the next calls do. -/
structure Lawful (a₀ : Assessment) (calls : List TimedCall) : Prop where
  /-- a call that raises leaves every field as it was -/
  atomic : ∀ (c : TimedCall) e a',
    c.result (calls.foldl step a₀) = .error e a' → a' = calls.foldl step a₀
  cancelled_iff : (calls.foldl step a₀).status = .cancelled ↔
    isBlank (calls.foldl step a₀).cancellationReason = false
  final : (calls.foldl step a₀).isTerminal → ∀ more,
    ((calls ++ more).foldl step a₀).status = (calls.foldl step a₀).status
  /-- the entries are written while the status is `running` … -/
  written_running : ∀ c, ((calls ++ [c]).foldl step a₀).workflowProgress.entries ≠
      (calls.foldl step a₀).workflowProgress.entries →
    ((calls ++ [c]).foldl step a₀).status = .running
  /-- … and the progress of a stage differs after a call only if it was `running` before, too -/
  moved_running : ∀ c st, ((calls ++ [c]).foldl step a₀).workflowProgress.get st ≠
      (calls.foldl step a₀).workflowProgress.get st →
    (calls.foldl step a₀).status = .running ∧ ((calls ++ [c]).foldl step a₀).status = .running
  complete : ∀ st, (calls.foldl step a₀).workflowProgress.isComplete st → ∀ more,
    ((calls ++ more).foldl step a₀).workflowProgress.get st =
      (calls.foldl step a₀).workflowProgress.get st
  one_entry : ((calls.foldl step a₀).workflowProgress.entries.map (·.stageType)).Nodup
  attempts : ∀ st, ((calls.foldl step a₀).workflowProgress.get st).attemptCount =
    startsSinceWorkflow st (a₀.successes calls)

/-- Every run of calls on a new assessment keeps the aggregate's law. -/
theorem lawful_of_create {id : AssessmentId} {tenantId : TenantId} {name : String}
    {hazardType : HazardType} {createdBy : UserId} {now : Timestamp} {a₀ : Assessment}
    {ev : AssessmentCreated}
    (h : create id tenantId name hazardType createdBy now = .ok (a₀, ev))
    (calls : List TimedCall) : Lawful a₀ calls := by
  have hnow : (calls.foldl step a₀).Coherent := coherent_run (coherent_create h) calls
  refine ⟨fun c e a' => unchanged_of_error, hnow.cancelled_iff, ?_, ?_, ?_, ?_, hnow.one_entry, ?_⟩
  · intro hfinal more
    rw [List.foldl_append]
    exact isTerminal_run hfinal more
  · intro c hne
    rw [List.foldl_concat] at hne ⊢
    exact entries_step c hne
  · intro c st hne
    rw [List.foldl_concat] at hne ⊢
    exact (get_step hnow c st).resolve_left hne
  · intro st hst more
    rw [List.foldl_append]
    exact isComplete_run hnow hst more
  · refine attempts_run (fun st => ?_) calls
    unfold create at h
    split at h <;> cases h
    rfl

/-- A stage that fails once and then completes, in an assessment that is cancelled afterwards. -/
theorem lawful_of_create_retried : ∃ (a₀ : Assessment) (ev : AssessmentCreated)
      (calls : List TimedCall),
    create ⟨1⟩ ⟨2⟩ "Basin" .flood ⟨3⟩ 0 = .ok (a₀, ev) ∧ Lawful a₀ calls ∧
      ((calls.foldl step a₀).workflowProgress.get .hazard).attemptCount = 2 ∧
      (calls.foldl step a₀).status = .cancelled :=
  ⟨_, _, [⟨.markReady "ann", 1⟩, ⟨.startWorkflow ⟨4⟩ {.hazard} "ann", 2⟩,
      ⟨.startStage .hazard "ann", 3⟩, ⟨.failStage .hazard "timeout" "ann", 4⟩,
      ⟨.startStage .hazard "ann", 5⟩, ⟨.completeStage .hazard (some "r") "ann", 6⟩,
      ⟨.cancel "obsolete" "ann", 7⟩],
    rfl, @lawful_of_create ⟨1⟩ _ "Basin" _ _ _ _ _ rfl _, by decide, by decide⟩

end Assessment

end GeoRisk.Orchestration
