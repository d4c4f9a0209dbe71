import Mathlib
import GeoRisk.Lib.Runs
import GeoRisk.Orchestration.StageOrder

/-! Whether a validated workflow is a complete one, over all runs of the API. Two methods take an
    assessment from running to validated. `advancePastRunning` asks for every stage of the template
    but not whether a stage outside it still runs; `markValidated`, which a user's command calls on
    assessments with and without a workflow, asks for nothing. After that nothing changes the
    progress any more, since every method on stages requires a running assessment. -/

namespace GeoRisk.Orchestration

/-- Every stage of the bound template is complete, and no stage runs. -/
def CompleteWorkflow (db : Db) (a : Assessment) : Prop :=
  ∃ id T, a.workflowTemplateId = some id ∧ db.workflowTemplates.get id = some T ∧
    a.workflowProgress.allComplete T.requiredStageTypes ∧ NoneRunning a

/-- Of assessments with a workflow, those validated, reported or archived are complete. -/
def ValidatedComplete (db : Db) : Prop :=
  ∀ id a, db.assessments.get id = some a → a.workflowTemplateId.isSome →
    a.status ∈ [.validated, .reported, .archived] → CompleteWorkflow db a

/-- A step about to validate an assessment with a workflow: a user's command finds the workflow
    complete, and the engine's advance, whose guard has passed, finds no stage running. -/
def ValidatesComplete (s : Sys) : Timestamp × Action → Prop
  | (_, .command target _ .validate) => ∀ a, s.db.Row target a → a.workflowTemplateId.isSome →
      a.status = .running → CompleteWorkflow s.db a
  | (_, .engineStep i _) => ∀ target stack, s.calls[i]? = some (target, .active .advance stack) →
      ∀ a T, s.db.Row target a → a.status = .running →
        a.workflowTemplateId.bind s.db.workflowTemplates.get = some T →
        a.workflowProgress.allComplete T.requiredStageTypes → NoneRunning a
  | _ => True

section Step

variable {s : Sys} {db db' : Db} {a a' : Assessment}

/-- A row whose workflow stays as it is. -/
theorem CompleteWorkflow.evolves (h : CompleteWorkflow db a) (hdb : db.Evolves db')
    (hid : a'.workflowTemplateId = a.workflowTemplateId)
    (hp : a'.workflowProgress = a.workflowProgress) : CompleteWorkflow db' a' := by
  obtain ⟨id, T, ha, hT, hall, hnone⟩ := h
  obtain ⟨T', hT', hdefs⟩ := hdb.template hT
  refine ⟨id, T', hid.trans ha, hT', ?_, fun st => by rw [hp]; exact hnone st⟩
  rw [hp, WorkflowTemplate.requiredStageTypes, hdefs]
  exact hall

/-- A transition into the validated part comes from running or from within. -/
theorem validated_of_legal {x y : AssessmentStatus} (h : y ∈ legalTransitions x)
    (hy : y ∈ [AssessmentStatus.validated, .reported, .archived]) :
    x = .running ∨ x ∈ [AssessmentStatus.validated, .reported, .archived] := by
  revert h hy; cases x <;> cases y <;> decide

/-- What one step does to validated workflows. -/
theorem validatedComplete_step (t : Timestamp × Action) (hval : ValidatedComplete s.db) :
    ValidatedComplete (s.step t).db ↔ ValidatesComplete s t := by
  obtain ⟨now, action⟩ := t
  have hdb := db_step s now action
  constructor
  · intro hnext
    unfold ValidatesComplete
    split
    · next target user heq =>
      obtain ⟨_, rfl⟩ := Prod.mk.inj heq
      intro a ha hbound hrun
      have heff : (ApiCommand.validate.command user).Effect now s.db a
          { a with status := .validated, updatedAt := now } :=
        ⟨Assessment.validated_legal_iff.mpr hrun, rfl⟩
      obtain ⟨db', hh, hrep⟩ := handle_of_effect ha heff
      have hs : (s.step (now, .command target user .validate)).db = db' := by
        simp only [Sys.step, hh, Sys.commit]
      rw [hs] at hnext
      obtain ⟨id, T, hid, hT, hall, hnone⟩ := hnext _ _ hrep.get_self hbound (by simp)
      exact ⟨id, T, hid, by rw [← hrep.templates]; exact hT, hall, hnone⟩
    · next i reply heq =>
      obtain ⟨_, rfl⟩ := Prod.mk.inj heq
      intro target stack hi a T ha hrun hT hall
      obtain ⟨a', hmove, hrep⟩ := step_move ha (fun _ => reply) now .advance stack
      rw [← engineStep_db hi] at hrep
      generalize (Control.step target (fun _ => reply) now s.db stack .advance).2 = state at hmove
      cases hmove with
      | notAdvanced hno => exact absurd hrun (hno T hT hall)
      | advanced =>
        obtain ⟨id, hid, _⟩ := Option.bind_eq_some_iff.mp hT
        obtain ⟨_, _, _, _, _, hnone⟩ := hnext _ _ hrep.get_self (by simp [hid]) (by simp)
        exact hnone
    · trivial
  · intro hok id a' hget hbound hstatus
    rcases hdb.row hget with ⟨_, _, hnone⟩ | ⟨a, ha, hrow⟩
    · rw [hnone] at hbound; cases hbound
    cases hrow with
    | same => exact (hval id _ ha hbound hstatus).evolves hdb.evolves rfl rfl
    | @command target user c _ a₁ hrow heff =>
      obtain ⟨hp, hid, hlegal⟩ := ApiCommand.effect_progress heff
      have hbound' : a.workflowTemplateId.isSome := hid ▸ hbound
      suffices h : CompleteWorkflow s.db a from h.evolves hdb.evolves hid hp
      -- the assessment was validated before, or this command validates it
      by_cases hrun : a.status = .running
      · cases c with
        | validate => exact hok a hrow hbound' hrun
        | cancel => obtain ⟨_, _, rfl⟩ := heff; simp [Assessment.saved] at hstatus
        | markReady | start => obtain ⟨_, rfl⟩ := heff; simp [Assessment.saved] at hstatus
        | report | archive =>
          obtain ⟨hl, rfl⟩ := heff
          rw [hrun] at hl
          simp [legalTransitions] at hl
      · refine hval id a ha hbound' ?_
        exact (validated_of_legal hlegal hstatus).resolve_left hrun
    | @move i reply target control stack _ _ state hi hrow hmove =>
      cases hmove with
      | bound => simp [Assessment.saved] at hstatus
      | started hrun => simp [hrun] at hstatus
      | completed _ hrun => simp [hrun] at hstatus
      | failed _ hrun => simp [hrun] at hstatus
      | @advanced _ T hT hall hrun =>
        obtain ⟨id', hid', hT'⟩ := Option.bind_eq_some_iff.mp hT
        exact CompleteWorkflow.evolves (a := a)
          ⟨id', T, hid', hT', hall, hok target stack hi a T hrow hrun hT hall⟩ hdb.evolves rfl rfl
      | _ => exact (hval id _ ha hbound hstatus).evolves hdb.evolves rfl rfl

/-- In every state of a run, validated workflows are complete iff every step that validates one found
    it complete. -/
theorem validatedComplete_iff (ts : List (Timestamp × Action)) :
    Lib.AllStates Sys.step (fun s => ValidatedComplete s.db) .initial ts ↔
      Lib.AllSteps Sys.step ValidatesComplete .initial ts := by
  refine Lib.allStates_iff_allSteps (J := fun _ => True) (P := fun s : Sys => ValidatedComplete s.db)
    (fun s t _ hP => validatedComplete_step t hP) (fun _ _ _ _ _ => trivial) trivial ?_
  intro id a hget; simp [Sys.initial, Db.empty] at hget

/-- After `startWorkflow` has returned with both stages still to run, a user validates. -/
def validatedEarly : List (Timestamp × Action) :=
  manualWorkflow ++ [(8, .command ⟨⟨1⟩, ⟨"1", ⟨1⟩⟩⟩ ⟨1⟩ .validate)]

/-- A command after an engine call validates a workflow none of whose stages has run. -/
theorem validated_incomplete : ¬ ∀ ts : List (Timestamp × Action),
    Lib.AllStates Sys.step (fun s => ValidatedComplete s.db) .initial ts := by
  intro h
  have hlast : ValidatedComplete (validatedEarly.foldl Sys.step .initial).db :=
    (h validatedEarly).last
  have hrow : ((validatedEarly.foldl Sys.step .initial).db.assessments.get ⟨1⟩).any (fun a =>
      a.workflowTemplateId = some ⟨1⟩ ∧ a.status = .validated ∧
        (a.workflowProgress.get .hazard).status = .notStarted) = true := by
    decide +kernel
  have htemplate : ((validatedEarly.foldl Sys.step .initial).db.workflowTemplates.get ⟨1⟩).map
      (·.stageDefinitions) = some manualStages := by
    decide +kernel
  obtain ⟨a, ha, hp⟩ := (Option.any_eq_true _ _).mp hrow
  obtain ⟨hbound, hstatus, hhazard⟩ := of_decide_eq_true hp
  obtain ⟨id, T, hid, hT, hall, _⟩ := hlast ⟨1⟩ a ha (by simp [hbound]) (by simp [hstatus])
  obtain rfl : ⟨1⟩ = id := by simpa [hbound] using hid
  have hdefs : T.stageDefinitions = manualStages := by simpa [hT] using htemplate
  have := hall .hazard
    (by simp [WorkflowTemplate.requiredStageTypes, hdefs, manualStages, StageDefinition.initial])
  rw [WorkflowProgress.isComplete, hhazard] at this
  cases this

end Step

end GeoRisk.Orchestration
