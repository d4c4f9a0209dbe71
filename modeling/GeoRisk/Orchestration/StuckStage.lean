import Mathlib
import GeoRisk.Orchestration.EngineInvariant
import GeoRisk.Orchestration.StartWorkflow

/-! What a call of the engine leaves behind, whatever the template, the row and the executor. The
    start of a stage is committed before the executor is called, and only the same call records the
    outcome; so the stages a call leaves running are those it found running, and the one whose
    executor raised. A running stage can be neither started nor retried again. -/

namespace GeoRisk.Orchestration

/-- The call binds the assessment to a template, which resets its progress. -/
def EntryPoint.Binds (db : Db) (a : Assessment) : EntryPoint → Prop
  | .startWorkflow templateId _ => a.status = .ready ∧
      ∃ T, db.workflowTemplates.get templateId.id = some T ∧ T.status = .published ∧
        T.hazardType = a.hazardType
  | .executeStage _ _ => False

/-- No executor call so far raised. -/
def NoneRaised (tr : Trace) : Prop := ∀ st message, (st, .raises message) ∉ tr

/-- The stages that run, `R` being those the call found running: the one being executed besides,
    and for good when its executor raised. -/
def Leaves (R : StageType → Prop) (a : Assessment) (tr : Trace) : CallState → Prop
  | .active (.startWorkflow _ _) _ => False
  | .active control _ => NoneRaised tr ∧
      (∀ st, (a.workflowProgress.get st).status = .running ↔ R st ∨ control.executing = some st) ∧
      ∀ st, control.executing = some st → a.status = .running ∧ ¬ R st
  | .returned => NoneRaised tr ∧ ∀ st, (a.workflowProgress.get st).status = .running ↔ R st
  | .raised (.domain _) => NoneRaised tr ∧ ∀ st, (a.workflowProgress.get st).status = .running ↔ R st
  | .raised (.executor _) => ¬ NoneRaised tr ∧ ¬ NoneRunning a

section Leaves

variable {R : StageType → Prop} {templates : WorkflowTemplateId → Option WorkflowTemplate}
  {a a' : Assessment} {reply : StageType → ExecutorReply} {now : Timestamp} {control : Control}
  {stack : List (List StageDefinition)} {state : CallState} {tr : Trace}

/-- A state of the call between stages. -/
def CallState.Between : CallState → Prop
  | .active (.startWorkflow _ _) _ => False
  | .active control _ => control.executing = none
  | .raised (.executor _) => False
  | _ => True

theorem leaves_between (hs : state.Between) (hr : NoneRaised tr)
    (h : ∀ st, (a.workflowProgress.get st).status = .running ↔ R st) : Leaves R a tr state := by
  cases state with
  | active control stack =>
    have hiff : control.executing = none → (∀ st, (a.workflowProgress.get st).status = .running ↔
        R st ∨ control.executing = some st) ∧
        ∀ st, control.executing = some st → a.status = .running ∧ ¬ R st := by
      intro hc
      exact ⟨fun st => by simp [h, hc], fun st hst => by simp [hc] at hst⟩
    cases control <;> first | exact hs.elim | exact ⟨hr, hiff hs⟩
  | returned => exact ⟨hr, h⟩
  | raised err => cases err with
    | domain e => exact ⟨hr, h⟩
    | executor message => exact hs.elim

theorem between_ret (stack : List (List StageDefinition)) : (CallState.ret stack).Between := by
  cases stack <;> trivial

theorem between_onStageCompleted (stack : List (List StageDefinition)) (a : Assessment)
    (T : Option WorkflowTemplate) : (onStageCompleted stack a T).Between := by
  cases T with
  | none => exact between_ret stack
  | some T => unfold onStageCompleted; dsimp only; split <;> rfl

theorem between_onStageFailed (st : StageType) (stack : List (List StageDefinition))
    (a : Assessment) (T : Option WorkflowTemplate) : (onStageFailed st stack a T).Between := by
  cases T with
  | none => exact between_ret stack
  | some T =>
    unfold onStageFailed
    dsimp only
    split
    · exact between_ret stack
    · split
      · rfl
      · exact between_ret stack

theorem between_dispatchRunnableStages (stack : List (List StageDefinition)) (a : Assessment)
    (T : Option WorkflowTemplate) : (dispatchRunnableStages stack a T).Between := by
  cases T with
  | none => exact between_ret stack
  | some T => rfl

theorem between_forEachTurn (sd : StageDefinition) (pending : List StageDefinition)
    (stack : List (List StageDefinition)) (a : Assessment) :
    (forEachTurn sd pending stack a).Between := by
  unfold forEachTurn; split <;> rfl

/-- The outcome of the stage being executed leaves the other stages running. -/
theorem running_recorded {e : StageProgressEntry} {st : StageType} (hetype : e.stageType = st)
    (hes : e.status ≠ .running) (hR : ¬ R st)
    (h : ∀ st', (a.workflowProgress.get st').status = .running ↔ R st' ∨ some st = some st')
    (st' : StageType) :
    ((a.withStage e now).saved.workflowProgress.get st').status = .running ↔ R st' := by
  rw [Assessment.saved_progress, Assessment.withStage_get, hetype]
  split
  · next heq => exact ⟨fun hc => absurd hc hes, fun hc => absurd (heq ▸ hc) hR⟩
  · next hne => simp [h, Ne.symm hne]

/-- What every move of a call leaves running. -/
theorem leaves_move (h : Leaves R a tr (.active control stack))
    (hmove : Move templates reply now a control stack a' state) :
    Leaves R a' (tr ++ (CallState.active control stack).called reply) state := by
  have hnil : ∀ {a s}, Leaves R a tr s → Leaves R a (tr ++ []) s := by simp
  cases hmove with
  | bound | notBound => exact h.elim
  | @started st _ _ hrun hst =>
    obtain ⟨hr, hiff, _⟩ := h
    have hnot : (a.workflowProgress.get st).status ≠ .running := by
      rcases hst with hst | hst <;> simp [hst]
    refine hnil ⟨hr, fun st' => ?_, fun st' hst' => ?_⟩
    · rw [Assessment.saved_progress, Assessment.withStage_get]
      split
      · next heq => simp_all [Control.executing]
      · next hne =>
        have hne' : st' ≠ st := by simpa using hne
        simp [hiff, Control.executing, Ne.symm hne']
    · obtain rfl : st = st' := by simpa [Control.executing] using hst'
      exact ⟨hrun, fun hR => hnot ((hiff st).mpr (Or.inl hR))⟩
  | notStarted | notAdvanced =>
    exact hnil (leaves_between trivial h.1 fun st => by simpa [Control.executing] using h.2.1 st)
  | @replied st _ _ o ho =>
    refine ⟨fun st' message hm => ?_, h.2.1, h.2.2⟩
    rcases List.mem_append.mp hm with hm | hm
    · exact h.1 st' message hm
    · simp only [CallState.called, List.mem_singleton, Prod.mk.injEq] at hm
      obtain ⟨rfl, hm⟩ := hm
      rw [ho] at hm
      cases hm
  | @executorRaised st _ _ message hm =>
    refine ⟨fun hr => hr st message ?_, fun hn => hn st ((h.2.1 st).mpr (Or.inr rfl))⟩
    simp [CallState.called, hm]
  | @completed st _ _ o ho hrun hst =>
    exact hnil (leaves_between rfl h.1 (running_recorded (by simp) (by simp) (h.2.2 st rfl).2 h.2.1))
  | @failed st _ _ o ho hrun hst =>
    exact hnil (leaves_between rfl h.1 (running_recorded (by simp) (by simp) (h.2.2 st rfl).2 h.2.1))
  | @notRecorded st _ _ o e hno =>
    exact absurd ⟨(h.2.2 st rfl).1, (h.2.1 st).mpr (Or.inr rfl)⟩ hno
  | afterCompletion =>
    exact hnil (leaves_between (between_onStageCompleted _ _ _) h.1
      fun st => by simpa [Control.executing] using h.2.1 st)
  | advanced =>
    exact hnil (leaves_between (between_ret stack) h.1
      fun st => by simpa [Control.executing] using h.2.1 st)
  | afterFailure =>
    exact hnil (leaves_between (between_onStageFailed _ _ _ _) h.1
      fun st => by simpa [Control.executing] using h.2.1 st)
  | dispatched =>
    exact hnil (leaves_between (between_dispatchRunnableStages _ _ _) h.1
      fun st => by simpa [Control.executing] using h.2.1 st)
  | loopEnd =>
    exact hnil (leaves_between (between_ret stack) h.1
      fun st => by simpa [Control.executing] using h.2.1 st)
  | turn =>
    exact hnil (leaves_between (between_forEachTurn _ _ _ _) h.1
      fun st => by simpa [Control.executing] using h.2.1 st)

/-- The first move of a call. -/
theorem leaves_first {entry : EntryPoint} {db : Db}
    (hmove : Move db.workflowTemplates.get reply now a entry.control stack a' state) :
    Leaves (fun st => ¬ entry.Binds db a ∧ (a.workflowProgress.get st).status = .running) a' []
      state := by
  have hnone : NoneRaised [] := fun _ _ hm => absurd hm List.not_mem_nil
  cases entry with
  | startWorkflow templateId actor =>
    cases hmove with
    | bound hT hpub hhaz hready =>
      have hb : (EntryPoint.startWorkflow templateId actor).Binds db a :=
        ⟨hready, _, hT, hpub, hhaz⟩
      exact leaves_between rfl hnone fun st => by simp [hb]
    | notBound hno =>
      have hb : ¬ (EntryPoint.startWorkflow templateId actor).Binds db a :=
        fun ⟨hready, T, hT, hpub, hhaz⟩ => hno T hT hpub hhaz hready
      exact leaves_between trivial hnone fun st => by simp [hb]
  | executeStage st actor =>
    have h : Leaves (fun st => ¬ (EntryPoint.executeStage st actor).Binds db a ∧
        (a.workflowProgress.get st).status = .running) a []
        (.active (.executeStage st (.user actor)) stack) :=
      leaves_between rfl hnone fun st => by simp [EntryPoint.Binds]
    exact leaves_move h hmove

end Leaves

/-! ### When a call leaves no stage running -/

section Results

variable {target : Target} {db : Db} {a₀ : Assessment}

/-- The invariant over the run of a call. -/
theorem call_leaves (entry : EntryPoint) (executor : StageExecutor) (clock : ℕ → Timestamp)
    (h : db.Row target a₀) (n : ℕ) :
    ∃ a, (Run.call target executor clock entry.control db (n + 1)).At db.workflowTemplates.get
        target a ∧
      Leaves (fun st => ¬ entry.Binds db a₀ ∧ (a₀.workflowProgress.get st).status = .running) a
        (Run.call target executor clock entry.control db (n + 1)).trace
        (Run.call target executor clock entry.control db (n + 1)).state := by
  obtain ⟨a₁, hmove, hat₁⟩ := (Run.At.initial h entry.control).step rfl executor clock 0
  have htr : (Run.step target executor clock 0 ⟨db, .active entry.control [], []⟩).trace = [] := by
    cases entry <;> rfl
  rw [Run.call, Lib.iterate_succ']
  obtain ⟨a, hat, hl⟩ := run_inv executor (fun k => clock (k + 1)) (P := fun a s tr => Leaves
    (fun st => ¬ entry.Binds db a₀ ∧ (a₀.workflowProgress.get st).status = .running) a tr s)
    hat₁
    (by rw [htr]; exact leaves_first hmove)
    (fun m a control stack a' r₁ r₂ _ _ _ hs hp hmove => hs ▸ leaves_move hp hmove) n
  exact ⟨a, hat, hl⟩

/-- A call on a row of another tenant raises at once. -/
theorem call_foreign (entry : EntryPoint) (executor : StageExecutor) (clock : ℕ → Timestamp)
    (h : ∀ a, ¬ db.Row target a) (n : ℕ) :
    (Run.call target executor clock entry.control db (n + 1)).state.Done ∧
      (Run.call target executor clock entry.control db (n + 1)).db = db ∧
      (Run.call target executor clock entry.control db (n + 1)).trace = [] := by
  have hfirst : ∃ e, Run.step target executor clock 0 ⟨db, .active entry.control [], []⟩ =
      ⟨db, .raised (.domain e), []⟩ := by
    have ht : ∀ c next, ∃ e, transact target (clock 0) db c next = (db, .raised (.domain e)) := by
      intro c next
      unfold transact
      split
      · exact ⟨_, rfl⟩
      · next db' a' hh =>
        obtain ⟨a, ha, _⟩ := handle_effect hh
        exact absurd ha (h a)
    cases entry with
    | startWorkflow templateId actor =>
      obtain ⟨e, he⟩ := ht (.startWorkflow templateId (Actor.user actor).str)
        (.active .dispatchRunnableStages [])
      exact ⟨e, by simp [Run.step, CallState.step, EntryPoint.control, Control.step, he,
        CallState.called]⟩
    | executeStage st actor =>
      obtain ⟨e, he⟩ := ht (.executeStage st (Actor.user actor).str)
        (.active (.callExecutor st (.user actor)) [])
      exact ⟨e, by simp [Run.step, CallState.step, EntryPoint.control, Control.step, he,
        CallState.called]⟩
  obtain ⟨e, he⟩ := hfirst
  have hfix : ∀ n, Run.step target executor clock (n + 1) ⟨db, .raised (.domain e), []⟩ =
      ⟨db, .raised (.domain e), []⟩ := fun n =>
    Run.step_done (r := ⟨db, .raised (.domain e), []⟩) trivial (n + 1)
  rw [Run.call, Lib.iterate_succ', he, Lib.iterate_of_fixed hfix]
  exact ⟨trivial, rfl, rfl⟩

/-- A call that has ended has only ended one way. -/
theorem call_done_unique {control : Control} {executor : StageExecutor} {clock : ℕ → Timestamp}
    {m n : ℕ} (hm : (Run.call target executor clock control db m).state.Done)
    (hn : (Run.call target executor clock control db n).state.Done) :
    Run.call target executor clock control db m = Run.call target executor clock control db n :=
  Lib.iterate_final_unique (fun r : Run => r.state.Done)
    (fun n _ hr => Run.step_done hr n) hm hn

theorem trace_mono {control : Control} {executor : StageExecutor} {clock : ℕ → Timestamp} {m n : ℕ}
    (h : m ≤ n) : (Run.call target executor clock control db m).trace <+:
      (Run.call target executor clock control db n).trace := by
  induction h with
  | refl => exact List.prefix_refl _
  | step _ ih => exact ih.trans (List.prefix_append _ _)

/-- What a call has called at its end is all it ever called. -/
theorem noneRaised_of_done {control : Control} {executor : StageExecutor} {clock : ℕ → Timestamp}
    {n : ℕ} (hn : (Run.call target executor clock control db n).state.Done) :
    (∀ k, NoneRaised (Run.call target executor clock control db k).trace) ↔
      NoneRaised (Run.call target executor clock control db n).trace := by
  refine ⟨fun h => h n, fun h k => ?_⟩
  rcases Nat.le_total k n with hk | hk
  · exact fun st message hm => h st message ((trace_mono hk).subset hm)
  · obtain ⟨d, rfl⟩ := Nat.exists_eq_add_of_le hk
    rw [Run.call, Lib.iterate_stays (fun r : Run => r.state.Done)
      (fun n _ hr => Run.step_done hr n) hn d]
    exact h

/-- What a call that has ended leaves running. -/
theorem Leaves.done {R : StageType → Prop} {a : Assessment} {tr : Trace} {state : CallState}
    (h : Leaves R a tr state) (hs : state.Done) : NoneRunning a ↔ NoneRaised tr ∧ ∀ st, ¬ R st := by
  cases state with
  | active control stack => exact hs.elim
  | returned =>
    rw [and_iff_right h.1]
    exact forall_congr' fun st => not_congr (h.2 st)
  | raised err =>
    cases err with
    | domain e =>
      rw [and_iff_right h.1]
      exact forall_congr' fun st => not_congr (h.2 st)
    | executor message => exact ⟨fun hc => absurd hc h.2, fun hc => absurd hc.1 h.1⟩

/-- A call of the engine ends with no stage running iff no executor call of it raised, and no stage
    was running before or the call bound the assessment anew. -/
theorem none_running_iff (entry : EntryPoint) (executor : StageExecutor) (clock : ℕ → Timestamp)
    (hget : db.assessments.get target.assessmentId.id = some a₀) :
    (∃ n, (Run.call target executor clock entry.control db n).state.Done ∧
        ∀ a, (Run.call target executor clock entry.control db n).db.assessments.get
          target.assessmentId.id = some a → NoneRunning a) ↔
      (∀ n, NoneRaised (Run.call target executor clock entry.control db n).trace) ∧
        (NoneRunning a₀ ∨ a₀.tenantId = target.tenantId ∧ entry.Binds db a₀) := by
  have hpos : ∀ n, (Run.call target executor clock entry.control db n).state.Done →
      ∃ m, n = m + 1 := by
    rintro (_ | m) hn
    · exact hn.elim
    · exact ⟨m, rfl⟩
  by_cases htenant : a₀.tenantId = target.tenantId
  · have hrow : db.Row target a₀ := ⟨hget, htenant⟩
    obtain ⟨n, hn⟩ : ∃ n, (Run.call target executor clock entry.control db n).state.Done :=
      run_terminates (.initial hrow _)
    obtain ⟨m, rfl⟩ := hpos n hn
    obtain ⟨a, hat, hl⟩ := call_leaves entry executor clock hrow m
    calc (∃ n, (Run.call target executor clock entry.control db n).state.Done ∧
          ∀ a, (Run.call target executor clock entry.control db n).db.assessments.get
            target.assessmentId.id = some a → NoneRunning a)
        ↔ NoneRunning a := by
          constructor
          · rintro ⟨k, hk, hall⟩
            rw [call_done_unique hk hn] at hall
            exact hall a hat.row.1
          · refine fun hnr => ⟨m + 1, hn, fun b hb => ?_⟩
            obtain rfl : a = b := by simpa [hat.row.1] using hb
            exact hnr
      _ ↔ NoneRaised (Run.call target executor clock entry.control db (m + 1)).trace ∧
            ∀ st, ¬ (¬ entry.Binds db a₀ ∧ (a₀.workflowProgress.get st).status = .running) :=
          hl.done hn
      _ ↔ _ := by
          rw [noneRaised_of_done hn]
          by_cases hb : entry.Binds db a₀ <;> simp [hb, htenant, NoneRunning]
  · have hno : ∀ a, ¬ db.Row target a := by
      rintro a ⟨hg, ht⟩
      obtain rfl : a₀ = a := by simpa [hget] using hg
      exact htenant ht
    have hf := call_foreign entry executor clock hno
    constructor
    · rintro ⟨n, hn, hall⟩
      obtain ⟨m, rfl⟩ := hpos n hn
      refine ⟨(noneRaised_of_done hn).mpr ?_, Or.inl (hall a₀ (by rw [(hf m).2.1]; exact hget))⟩
      rw [(hf m).2.2]
      exact fun _ _ hm => absurd hm List.not_mem_nil
    · rintro ⟨_, hnr | ⟨ht, _⟩⟩
      · refine ⟨1, (hf 0).1, fun a ha => ?_⟩
        rw [(hf 0).2.1, hget] at ha
        cases ha
        exact hnr
      · exact absurd ht htenant

/-- An executor that raises on one stage and succeeds on the others. -/
def raisingAt (st : StageType) : StageExecutor := fun _ st' =>
  if st' = st then .raises "unreachable" else .outcome { success := true }

theorem none_running_iff_sample :
    (∃ n, (Run.call sampleTarget succeeding.toExecutor id
          (EntryPoint.startWorkflow ⟨"1", ⟨1⟩⟩ ⟨1⟩).control sampleDb n).state.Done ∧
        ∀ a, (Run.call sampleTarget succeeding.toExecutor id
          (EntryPoint.startWorkflow ⟨"1", ⟨1⟩⟩ ⟨1⟩).control sampleDb n).db.assessments.get
            sampleTarget.assessmentId.id = some a → NoneRunning a) ↔
      (∀ n, NoneRaised (Run.call sampleTarget succeeding.toExecutor id
          (EntryPoint.startWorkflow ⟨"1", ⟨1⟩⟩ ⟨1⟩).control sampleDb n).trace) ∧
        (NoneRunning sampleAssessment ∨ sampleAssessment.tenantId = sampleTarget.tenantId ∧
          (EntryPoint.startWorkflow ⟨"1", ⟨1⟩⟩ ⟨1⟩).Binds sampleDb sampleAssessment) :=
  none_running_iff (.startWorkflow ⟨"1", ⟨1⟩⟩ ⟨1⟩) succeeding.toExecutor id rfl

/-- When the executor raises on the first stage, the call ends with that stage running. -/
theorem stage_stuck : ¬ ∀ (target : Target) (db : Db) (entry : EntryPoint) (executor : StageExecutor)
    (clock : ℕ → Timestamp) (n : ℕ),
    (∀ a, db.assessments.get target.assessmentId.id = some a → NoneRunning a) →
    (Run.call target executor clock entry.control db n).state.Done →
    ∀ a, (Run.call target executor clock entry.control db n).db.assessments.get
      target.assessmentId.id = some a → NoneRunning a := by
  intro h
  have hfresh : ∀ a, sampleDb.assessments.get ⟨1⟩ = some a → NoneRunning a := by
    rintro a ha st
    obtain rfl : sampleAssessment = a := Option.some.inj ha
    cases st <;> decide
  have hbad : ((Run.call sampleTarget (raisingAt .hazard) id
      (EntryPoint.startWorkflow ⟨"1", ⟨1⟩⟩ ⟨1⟩).control sampleDb 5).db.assessments.get ⟨1⟩).any
        (fun a => (a.workflowProgress.get .hazard).status = .running) = true := by
    decide +kernel
  obtain ⟨a, ha, hp⟩ := (Option.any_eq_true _ _).mp hbad
  exact h sampleTarget sampleDb (.startWorkflow ⟨"1", ⟨1⟩⟩ ⟨1⟩) (raisingAt .hazard) id 5 hfresh
    (by decide +kernel) a ha .hazard (of_decide_eq_true hp)

end Results

end GeoRisk.Orchestration
