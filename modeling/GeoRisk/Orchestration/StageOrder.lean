import Mathlib
import GeoRisk.Lib.Runs
import GeoRisk.Orchestration.Api

/-! Stage order over all runs of the API. The aggregate does not look at the graph of stages and
    leaves it to its caller to start a stage only when it may run. The dispatch loop and the retry
    keep to that, however stale what they read; a user's `executeStage` does not look. So stages
    begin in order exactly as long as the stages users start are ones that may run. -/

namespace GeoRisk.Orchestration

/-- The bound template defines the stage, and its predecessors are complete. -/
def Allowed (db : Db) (a : Assessment) (st : StageType) : Prop :=
  ∃ id T, a.workflowTemplateId = some id ∧ db.workflowTemplates.get id = some T ∧
    ∃ sd ∈ T.stageDefinitions, sd.stageType = st ∧
      a.workflowProgress.allComplete sd.requiredPredecessors

/-- Of every assessment with a workflow, the stages begun are stages that were allowed to. -/
def StagesOrdered (db : Db) : Prop :=
  ∀ id a, db.assessments.get id = some a → a.workflowTemplateId.isSome →
    ∀ st, (a.workflowProgress.get st).status ≠ .notStarted → Allowed db a st

/-- When a user's call is about to start a stage of an assessment with a workflow, the stage may
    run. -/
def ManualStartAllowed (s : Sys) : Timestamp × Action → Prop
  | (_, .engineStep i _) => ∀ target st user stack,
      s.calls[i]? = some (target, .active (.executeStage st (.user user)) stack) →
      ∀ a, s.db.Row target a → a.workflowTemplateId.isSome → a.status = .running →
        (a.workflowProgress.get st).Startable → Allowed s.db a st
  | _ => True

section Calls

variable {db db' : Db} {a a' : Assessment} {target : Target} {st : StageType} {control : Control}
  {stack : List (List StageDefinition)} {state : CallState} {now : Timestamp}

theorem Allowed.evolves (h : Allowed db a st) (hdb : db.Evolves db')
    (hid : a'.workflowTemplateId = a.workflowTemplateId)
    (hc : ∀ st, a.workflowProgress.isComplete st → a'.workflowProgress.isComplete st) :
    Allowed db' a' st := by
  obtain ⟨id, T, ha, hT, sd, hsd, htype, hpre⟩ := h
  obtain ⟨T', hT', hdefs⟩ := hdb.template hT
  exact ⟨id, T', hid.trans ha, hT', sd, hdefs ▸ hsd, htype, fun st' hst' => hc st' (hpre st' hst')⟩

/-- What a call's control point promises of the stages it will start. -/
def Control.Promises (db : Db) (a : Assessment) : Control → Prop
  | .executeStage st _ => Allowed db a st
  | .callExecutor st _ => (a.workflowProgress.get st).status ≠ .notStarted
  | .recordOutcome st _ _ => (a.workflowProgress.get st).status ≠ .notStarted
  | .onStageFailed st => (a.workflowProgress.get st).status ≠ .notStarted
  | .forEach pending => ∀ sd ∈ pending, Allowed db a sd.stageType
  | _ => True

/-- A call under way over a row that has left ready. -/
structure UnderWay (db : Db) (a : Assessment) (control : Control)
    (stack : List (List StageDefinition)) : Prop where
  past : Past a
  pending : ∀ l ∈ stack, ∀ sd ∈ l, Allowed db a sd.stageType
  promises : control.Promises db a

/-- At its start a call promises nothing; later it does, over the row it is aimed at. -/
def CallState.Honest (db : Db) (target : Target) : CallState → Prop
  | .active (.startWorkflow _ _) stack => stack = []
  | .active (.executeStage _ (.user _)) stack => stack = []
  | .active control stack => ∃ a, db.Row target a ∧ UnderWay db a control stack
  | _ => True

/-- No step of anybody makes a call's promises void. -/
theorem UnderWay.evolves (h : UnderWay db a control stack) (hdb : db.Evolves db')
    (hrow : RowEvolves a a') : UnderWay db' a' control stack := by
  have hall : ∀ {st}, Allowed db a st → Allowed db' a' st :=
    fun ha => ha.evolves hdb (hrow.template h.past) (hrow.complete h.past)
  refine ⟨hrow.past h.past, fun l hl sd hsd => hall (h.pending l hl sd hsd), ?_⟩
  have hp := h.promises
  cases control with
  | executeStage => exact hall hp
  | callExecutor | recordOutcome | onStageFailed => exact hrow.begun h.past _ hp
  | forEach pending => exact fun sd hsd => hall (hp sd hsd)
  | _ => trivial

theorem CallState.Honest.evolves (h : state.Honest db target) (hdb : db.Evolves db') :
    state.Honest db' target := by
  cases state with
  | active control stack =>
    have hact : (∃ a, db.Row target a ∧ UnderWay db a control stack) →
        ∃ a, db'.Row target a ∧ UnderWay db' a control stack := by
      rintro ⟨a, ⟨hget, ht⟩, hw⟩
      obtain ⟨a', hget', hrow⟩ := hdb.row hget
      exact ⟨a', ⟨hget', hrow.tenantId.trans ht⟩, hw.evolves hdb hrow⟩
    cases control with
    | startWorkflow => exact h
    | executeStage st actor =>
      cases actor with
      | user => exact h
      | system => exact hact h
    | _ => exact hact h
  | returned | raised => trivial

theorem honest_ret (ha : db.Row target a) (hp : Past a)
    (hstack : ∀ l ∈ stack, ∀ sd ∈ l, Allowed db a sd.stageType) :
    (CallState.ret stack).Honest db target := by
  cases stack with
  | nil => trivial
  | cons pending stack =>
    exact ⟨a, ha, hp, fun l hl => hstack l (List.mem_cons_of_mem _ hl),
      hstack pending (List.mem_cons_self ..)⟩

/-- The row and its call, when the call is past its start. -/
theorem CallState.Honest.underWay (h : (CallState.active control stack).Honest db target)
    (ha : db.Row target a) (hs : ∀ t u, control ≠ .startWorkflow t u)
    (hu : ∀ st u, control ≠ .executeStage st (.user u)) : UnderWay db a control stack := by
  have hrow : (∃ b, db.Row target b ∧ UnderWay db b control stack) → UnderWay db a control stack := by
    rintro ⟨b, hb, hw⟩
    obtain rfl : a = b := by simpa [ha.1] using hb.1
    exact hw
  cases control with
  | startWorkflow t u => exact absurd rfl (hs t u)
  | executeStage st actor =>
    cases actor with
    | user u => exact absurd rfl (hu st u)
    | system => exact hrow h
  | _ => exact hrow h

theorem honest_onStageFailed (hord : StagesOrdered db) (ha : db.Row target a)
    (h : UnderWay db a (.onStageFailed st) stack) :
    (onStageFailed st stack a (a.workflowTemplateId.bind db.workflowTemplates.get)).Honest db
      target := by
  cases hT : a.workflowTemplateId.bind db.workflowTemplates.get with
  | none => exact honest_ret ha h.past h.pending
  | some T =>
    unfold onStageFailed
    dsimp only
    split
    · exact honest_ret ha h.past h.pending
    · split
      · -- the stage was begun, so it was allowed to, and goes on being allowed
        obtain ⟨id, hid, _⟩ := Option.bind_eq_some_iff.mp hT
        exact ⟨a, ha, h.past, h.pending, hord _ a ha.1 (by simp [hid]) st h.promises⟩
      · exact honest_ret ha h.past h.pending

theorem honest_dispatchRunnableStages (ha : db.Row target a)
    (h : UnderWay db a .dispatchRunnableStages stack) :
    (dispatchRunnableStages stack a (a.workflowTemplateId.bind db.workflowTemplates.get)).Honest db
      target := by
  cases hT : a.workflowTemplateId.bind db.workflowTemplates.get with
  | none => exact honest_ret ha h.past h.pending
  | some T =>
    obtain ⟨id, hid, hT⟩ := Option.bind_eq_some_iff.mp hT
    refine ⟨a, ha, h.past, h.pending, fun sd hsd => ⟨id, T, hid, hT, sd, ?_⟩⟩
    obtain ⟨hsd, _⟩ := List.mem_filter.mp hsd
    obtain ⟨hmem, _, hpre⟩ := WorkflowTemplate.mem_runnableStages.mp hsd
    exact ⟨hmem, rfl, hpre⟩

theorem honest_onStageCompleted (T : Option WorkflowTemplate) (ha : db.Row target a)
    (h : UnderWay db a .onStageCompleted stack) :
    (onStageCompleted stack a T).Honest db target := by
  cases T with
  | none => exact honest_ret ha h.past h.pending
  | some T =>
    unfold onStageCompleted
    dsimp only
    split <;> exact ⟨a, ha, h.past, h.pending, trivial⟩

theorem honest_forEachTurn {sd : StageDefinition} {pending : List StageDefinition}
    (ha : db.Row target a) (h : UnderWay db a (.forEach (sd :: pending)) stack) :
    (forEachTurn sd pending stack a).Honest db target := by
  have hrest : ∀ sd' ∈ pending, Allowed db a sd'.stageType :=
    fun sd' hsd' => h.promises sd' (List.mem_cons_of_mem _ hsd')
  unfold forEachTurn
  split
  · refine ⟨a, ha, h.past, fun l hl => ?_, h.promises sd (List.mem_cons_self ..)⟩
    rcases List.mem_cons.mp hl with rfl | hl
    · exact hrest
    · exact h.pending l hl
  · exact ⟨a, ha, h.past, h.pending, hrest⟩

/-- A call keeps its promises over its own moves. -/
theorem honest_move {reply : StageType → ExecutorReply} (hord : StagesOrdered db)
    (ha : db.Row target a) (h : (CallState.active control stack).Honest db target)
    (hmove : Move db.workflowTemplates.get reply now a control stack a' state)
    (hrep : RowReplaced target db db' a') : state.Honest db' target := by
  have hdb : db.Evolves db' := hrep.evolves ha hmove.evolves
  have ha' : db'.Row target a' := ⟨hrep.get_self, hmove.evolves.tenantId.trans ha.2⟩
  have hstack : Past a → ∀ l ∈ stack, (∀ sd ∈ l, Allowed db a sd.stageType) →
      ∀ sd ∈ l, Allowed db' a' sd.stageType := fun hp l _ hall sd hsd =>
    (hall sd hsd).evolves hdb (hmove.evolves.template hp) (hmove.evolves.complete hp)
  cases hmove with
  | bound =>
    obtain rfl : stack = [] := h
    exact ⟨_, ha', by simp [Past], fun l hl => absurd hl List.not_mem_nil, trivial⟩
  | @started st actor _ hrun hst =>
    have hpast : Past a := by simp [Past, hrun]
    refine ⟨_, ha', by simp [Past, hrun], fun l hl => ?_, ?_⟩
    · cases actor with
      | user u =>
        obtain rfl : stack = [] := h
        exact absurd hl List.not_mem_nil
      | system =>
        have hw := h.underWay ha (by simp) (by simp)
        exact hstack hpast l hl (hw.pending l hl)
    · change ((a.workflowProgress.withEntry _).get st).status ≠ _
      rw [WorkflowProgress.get_withEntry, if_pos (by simp)]
      simp
  | @replied st actor _ o ho =>
    have hw := h.underWay ha (by simp) (by simp)
    have hnext : (CallState.active (.recordOutcome st actor o) stack).Honest db target :=
      ⟨a, ha, hw.past, hw.pending, hw.promises⟩
    exact hnext.evolves hdb
  | completed =>
    have hw := h.underWay ha (by simp) (by simp)
    exact ⟨_, ha', hw.past, fun l hl => hstack hw.past l hl (hw.pending l hl), trivial⟩
  | @failed st _ _ _ ho hrun hst =>
    have hw := h.underWay ha (by simp) (by simp)
    refine ⟨_, ha', hw.past, fun l hl => hstack hw.past l hl (hw.pending l hl), ?_⟩
    change ((a.workflowProgress.withEntry _).get st).status ≠ _
    rw [WorkflowProgress.get_withEntry, if_pos (by simp)]
    simp
  | afterCompletion =>
    exact (honest_onStageCompleted _ ha (h.underWay ha (by simp) (by simp))).evolves hdb
  | advanced =>
    have hw := h.underWay ha (by simp) (by simp)
    exact honest_ret ha' (by simp [Past]) fun l hl => hstack hw.past l hl (hw.pending l hl)
  | afterFailure => exact (honest_onStageFailed hord ha (h.underWay ha (by simp) (by simp))).evolves hdb
  | dispatched => exact (honest_dispatchRunnableStages ha (h.underWay ha (by simp) (by simp))).evolves hdb
  | loopEnd =>
    have hw := h.underWay ha (by simp) (by simp)
    exact (honest_ret ha hw.past hw.pending).evolves hdb
  | turn => exact (honest_forEachTurn ha (h.underWay ha (by simp) (by simp))).evolves hdb
  | _ => trivial

/-- A call that has lost its row, or never had one, raises. -/
theorem honest_foreign {reply : StageType → ExecutorReply}
    (h : (CallState.active control stack).Honest db target) (hrow : ∀ a, ¬ db.Row target a) :
    (control.step target reply now db stack).2.Honest db' target := by
  have ht : ∀ c next, (transact target now db c next).2.Honest db' target := by
    intro c next
    unfold transact
    split
    · trivial
    · next db₁ a₁ hh =>
      obtain ⟨a, ha, _⟩ := handle_effect hh
      exact absurd ha (hrow a)
  have hno : ¬ ∃ a, db.Row target a ∧ UnderWay db a control stack := fun ⟨a, ha, _⟩ => hrow a ha
  cases control with
  | startWorkflow => exact ht _ _
  | executeStage st actor =>
    cases actor with
    | user => exact ht _ _
    | system => exact absurd h hno
  | _ => exact absurd h hno

end Calls

/-! ### Every step -/

section Step

variable {s : Sys}

/-- Every call of the system keeps its promises. -/
def HonestCalls (s : Sys) : Prop :=
  ∀ (j : ℕ) target (state : CallState), s.calls[j]? = some (target, state) → state.Honest s.db target

theorem honestCalls_step (t : Timestamp × Action) (hord : StagesOrdered s.db) (h : HonestCalls s) :
    HonestCalls (s.step t) := by
  obtain ⟨now, action⟩ := t
  intro j target state hj
  rcases call_step hj with hold | ⟨entry, rfl⟩ | ⟨reply, control, stack, rfl, hcall, rfl, hdb⟩
  · exact (h j target state hold).evolves (db_step s now action).evolves
  · cases entry <;> rfl
  · by_cases hrow : ∃ a, s.db.Row target a
    · obtain ⟨a, ha⟩ := hrow
      obtain ⟨a', hmove, hrep⟩ := step_move ha (fun _ => reply) now control stack
      rw [hdb] at hrep
      exact honest_move hord ha (h j target _ hcall) hmove hrep
    · exact honest_foreign (h j target _ hcall) fun a ha => hrow ⟨a, ha⟩

/-- The step of a call, on the tables. -/
theorem engineStep_db {now : Timestamp} {i : ℕ} {reply : ExecutorReply} {target : Target}
    {control : Control} {stack : List (List StageDefinition)}
    (hi : s.calls[i]? = some (target, .active control stack)) :
    (s.step (now, .engineStep i reply)).db =
      (control.step target (fun _ => reply) now s.db stack).1 := by
  simp [Sys.step, hi, CallState.step]

/-- What one step does to the order of stages. -/
theorem stagesOrdered_step (t : Timestamp × Action) (h : HonestCalls s) (hord : StagesOrdered s.db) :
    StagesOrdered (s.step t).db ↔ ManualStartAllowed s t := by
  obtain ⟨now, action⟩ := t
  have hdb := db_step s now action
  constructor
  · -- a start that is accepted shows in the next state
    intro hnext
    unfold ManualStartAllowed
    split
    · next i reply heq =>
      obtain ⟨_, rfl⟩ := Prod.mk.inj heq
      intro target st user stack hi a ha hbound hrun hst
      obtain ⟨a', hmove, hrep⟩ := step_move ha (fun _ => reply) now
        (.executeStage st (.user user)) stack
      rw [← engineStep_db hi] at hrep
      generalize (Control.step target (fun _ => reply) now s.db stack
        (.executeStage st (.user user))).2 = state at hmove
      cases hmove with
      | notStarted hno => exact absurd ⟨hrun, hst⟩ hno
      | started =>
        obtain ⟨id, T, hid, hT, sd, hsd, htype, hpre⟩ := hnext _ _ hrep.get_self hbound st (by
          rw [Assessment.saved_progress, Assessment.withStage_get, if_pos (by simp)]; simp)
        exact ⟨id, T, hid, by rw [← hrep.templates]; exact hT, sd, hsd, htype,
          WorkflowProgress.allComplete_of_withEntry (by simp) hpre⟩
    · trivial
  · intro hok id a' hget hbound st hst
    rcases hdb.row hget with ⟨_, _, hnone⟩ | ⟨a, ha, hrow⟩
    · rw [hnone] at hbound; cases hbound
    cases hrow with
    | same => exact (hord id _ ha hbound st hst).evolves hdb.evolves rfl fun _ h => h
    | command hrow heff =>
      obtain ⟨hp, hid, _⟩ := ApiCommand.effect_progress heff
      rw [Assessment.saved_progress, hp] at hst
      rw [Assessment.saved_template, hid] at hbound
      exact (hord id a ha hbound st hst).evolves hdb.evolves hid fun st hst => by
        rw [Assessment.saved_progress, hp]; exact hst
    | @move i reply target control stack _ _ state hi hrow hmove =>
      -- a stage that was begun already keeps the leave it had
      have hkeep : a'.workflowTemplateId = a.workflowTemplateId →
          (∀ st, a.workflowProgress.isComplete st → a'.workflowProgress.isComplete st) →
          (a.workflowProgress.get st).status ≠ .notStarted → Allowed (s.step (now, .engineStep i reply)).db a' st :=
        fun hid hc hbegun => (hord id a ha (hid ▸ hbound) st hbegun).evolves hdb.evolves hid hc
      have hevolves := hmove.evolves
      cases hmove with
      | bound => simp [Assessment.saved] at hst
      | @started st' actor _ hrun hst' =>
        have hpast : Past a := by simp [Past, hrun]
        by_cases heq : st = st'
        · subst heq
          have hallowed : Allowed s.db a st := by
            cases actor with
            | user u => exact hok target st u stack hi a hrow hbound hrun hst'
            | system => exact ((h i target _ hi).underWay hrow (by simp) (by simp)).promises
          exact hallowed.evolves hdb.evolves rfl (hevolves.complete hpast)
        · refine hkeep rfl (hevolves.complete hpast) ?_
          rwa [Assessment.saved_progress, Assessment.withStage_get,
            if_neg (by simpa using heq)] at hst
      | @completed st' _ _ _ _ hrun hst' =>
        refine hkeep rfl (hevolves.complete (by simp [Past, hrun])) ?_
        rw [Assessment.saved_progress, Assessment.withStage_get] at hst
        split at hst
        · next heq =>
          have heq' : st = st' := by simpa using heq
          rw [heq', hst']; decide
        · exact hst
      | @failed st' _ _ _ _ hrun hst' =>
        refine hkeep rfl (hevolves.complete (by simp [Past, hrun])) ?_
        rw [Assessment.saved_progress, Assessment.withStage_get] at hst
        split at hst
        · next heq =>
          have heq' : st = st' := by simpa using heq
          rw [heq', hst']; decide
        · exact hst
      | advanced => exact hkeep rfl (fun _ h => h) hst
      | _ => exact hkeep rfl (fun _ h => h) hst

/-- In every state of a run the stages of every assessment with a workflow have begun in order iff
    every stage that a user's call starts was allowed to run. -/
theorem stagesOrdered_iff (ts : List (Timestamp × Action)) :
    Lib.AllStates Sys.step (fun s => StagesOrdered s.db) .initial ts ↔
      Lib.AllSteps Sys.step ManualStartAllowed .initial ts := by
  refine Lib.allStates_iff_allSteps (J := HonestCalls) (fun s t hJ hP => stagesOrdered_step t hJ hP)
    (fun s t hJ hP _ => honestCalls_step t hP hJ) ?_ ?_
  · intro j target state hj; simp [Sys.initial] at hj
  · intro id a hget; simp [Sys.initial, Db.empty] at hget

/-- A template of two manual stages, the second after the first. -/
def manualStages : List StageDefinition := [
  .initial .hazard .manual,
  { StageDefinition.initial .risk .manual with
    requiredPredecessors := {.hazard}, not_self := by decide }]

/-- An assessment is brought under the template, and its workflow is started; no stage runs yet. -/
def manualWorkflow : List (Timestamp × Action) := [
  (0, .createWorkflowTemplate ⟨1⟩ .flood "Flood" manualStages),
  (1, .publishWorkflowTemplate ⟨"1", ⟨1⟩⟩),
  (2, .createAssessment ⟨1⟩ ⟨1⟩ "River" .flood ⟨1⟩),
  (3, .command ⟨⟨1⟩, ⟨"1", ⟨1⟩⟩⟩ ⟨1⟩ .markReady),
  (4, .invoke ⟨⟨1⟩, ⟨"1", ⟨1⟩⟩⟩ (.startWorkflow ⟨"1", ⟨1⟩⟩ ⟨1⟩)),
  (5, .engineStep 0 (.raises "")), (6, .engineStep 0 (.raises "")), (7, .engineStep 0 (.raises ""))]

/-- After `startWorkflow` has returned, a user executes the second stage. -/
def secondFirst : List (Timestamp × Action) := manualWorkflow ++ [
  (8, .invoke ⟨⟨1⟩, ⟨"1", ⟨1⟩⟩⟩ (.executeStage .risk ⟨1⟩)), (9, .engineStep 1 (.raises ""))]

/-- Two engine calls, one after the other, bring a stage before its predecessor. -/
theorem stage_out_of_order : ¬ ∀ ts : List (Timestamp × Action),
    Lib.AllStates Sys.step (fun s => StagesOrdered s.db) .initial ts := by
  intro h
  have hlast : StagesOrdered (secondFirst.foldl Sys.step .initial).db := (h secondFirst).last
  have hrow : ((secondFirst.foldl Sys.step .initial).db.assessments.get ⟨1⟩).any (fun a =>
      a.workflowTemplateId = some ⟨1⟩ ∧ (a.workflowProgress.get .risk).status = .running ∧
        (a.workflowProgress.get .hazard).status = .notStarted) = true := by
    decide +kernel
  have htemplate : ((secondFirst.foldl Sys.step .initial).db.workflowTemplates.get ⟨1⟩).map
      (·.stageDefinitions) = some manualStages := by
    decide +kernel
  obtain ⟨a, ha, hp⟩ := (Option.any_eq_true _ _).mp hrow
  obtain ⟨hbound, hrisk, hhazard⟩ := of_decide_eq_true hp
  obtain ⟨id, T, hid, hT, sd, hsd, htype, hpre⟩ := hlast ⟨1⟩ a ha (by simp [hbound]) .risk (by simp [hrisk])
  obtain rfl : ⟨1⟩ = id := by simpa [hbound] using hid
  have hdefs : T.stageDefinitions = manualStages := by simpa [hT] using htemplate
  rw [hdefs] at hsd
  simp only [manualStages, List.mem_cons, List.not_mem_nil, or_false] at hsd
  rcases hsd with rfl | rfl
  · cases htype
  · have := hpre .hazard (by simp)
    rw [WorkflowProgress.isComplete, hhazard] at this
    cases this

end Step

end GeoRisk.Orchestration
