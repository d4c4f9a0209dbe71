import Mathlib
import GeoRisk.Lib.Runs
import GeoRisk.Orchestration.StartWorkflow

/-! Two calls of `executeStage` on one assessment, with executors that succeed, each of whose steps
    is one serialised transaction. A call reacts to its completion in three steps that others may
    come between: it reads the progress, it decides, and it starts a stage or advances. When the
    other call has meanwhile started that stage or advanced, the step is stale and raises; when no
    step is stale, nothing goes wrong. -/

namespace GeoRisk.Orchestration

/-- The next step of one of the two calls; the executor it may call succeeds with a reference. -/
structure Tick where
  now : Timestamp
  call : Bool
  stageResultRef : Option String := none

/-- What a call attempted, and whether it was accepted. -/
inductive Attempt where
  | start (stageType : StageType) (actor : Actor) (accepted : Bool)
  | advance (accepted : Bool)

/-- Two calls in progress, and what they attempted so far. -/
structure Race where
  db : Db
  calls : Bool → CallState
  log : List Attempt

/-- The call has not raised. -/
def CallState.accepted : CallState → Bool
  | .raised _ => false
  | _ => true

/-- What a step attempts, and how it ended. -/
def CallState.attempt (state next : CallState) : List Attempt :=
  match state with
  | .active (.executeStage st actor) _ => [.start st actor next.accepted]
  | .active .advance _ => [.advance next.accepted]
  | _ => []

namespace Race

def reply (t : Tick) : StageType → ExecutorReply := fun _ =>
  .outcome { success := true, stageResultRef := t.stageResultRef }

def step (target : Target) (r : Race) (t : Tick) : Race :=
  let (db, next) := (r.calls t.call).step target (reply t) t.now r.db
  { db, calls := Function.update r.calls t.call next
    log := r.log ++ (r.calls t.call).attempt next }

end Race

def Attempt.isStart (st : StageType) : Attempt → Bool
  | .start st' _ accepted => st' = st && accepted
  | .advance _ => false

/-- A start by the dispatch loop, accepted or not. -/
def Attempt.isDispatch (st : StageType) : Attempt → Bool
  | .start st' .system _ => st' = st
  | _ => false

def Attempt.isAdvance : Attempt → Bool
  | .advance accepted => accepted
  | _ => false

/-- No call has raised, no stage was started or dispatched twice, and when both calls have returned
    with all stages complete the assessment was advanced once. -/
structure Race.Safe (target : Target) (T : WorkflowTemplate) (r : Race) : Prop where
  not_raised : ∀ i e, r.calls i ≠ .raised e
  started_once : ∀ st, r.log.countP (Attempt.isStart st) ≤ 1
  dispatched_once : ∀ st, r.log.countP (Attempt.isDispatch st) ≤ 1
  validated_once : (∀ i, r.calls i = .returned) → ∀ a, r.db.Row target a →
    a.workflowProgress.allComplete T.requiredStageTypes →
      a.status = .validated ∧ r.log.countP Attempt.isAdvance = 1

/-- The next step is not stale: a stage about to start is still startable, and an assessment about
    to advance is still running. -/
def Race.Fresh (target : Target) (r : Race) (t : Tick) : Prop :=
  ∀ a, r.db.Row target a → match r.calls t.call with
    | .active (.executeStage st _) _ =>
      a.status = .running ∧ (a.workflowProgress.get st).Startable
    | .active .advance _ => a.status = .running
    | _ => True

/-- Two calls for two different runnable stages of a running assessment. -/
structure RaceSetup (target : Target) (T : WorkflowTemplate) (db : Db) (a : Assessment)
    (stage : Bool → StageType) : Prop where
  row : db.Row target a
  running : a.status = .running
  bound : a.workflowTemplateId.bind db.workflowTemplates.get = some T
  runnable : ∀ i, ∃ sd ∈ T.runnableStages a.workflowProgress, sd.stageType = stage i
  different : stage false ≠ stage true

/-- The two calls, about to begin. -/
def Race.start (db : Db) (stage : Bool → StageType) (user : Bool → UserId) : Race where
  db := db
  calls i := .active (.executeStage (stage i) (.user (user i))) []
  log := []

/-! ### The invariant of two calls -/

section Invariant

variable {target : Target} {T : WorkflowTemplate} {a a' : Assessment} {r : Race} {t : Tick}
  {p p' : WorkflowProgress} {state : CallState} {control : Control}
  {stack : List (List StageDefinition)} {st : StageType}

/-- The stage whose start the call committed and whose outcome it has not recorded. -/
def CallState.executing : CallState → Option StageType
  | .active (.callExecutor st _) _ => some st
  | .active (.recordOutcome st _ _) _ => some st
  | _ => none

/-- The call saw its completion and has not yet reacted. -/
def CallState.Reacting : CallState → Prop
  | .active .onStageCompleted _ => True
  | .active .advance _ => True
  | _ => False

/-- What the progress is like when a call is in this state. -/
def CallState.Fits (T : WorkflowTemplate) (p : WorkflowProgress) : CallState → Prop
  | .active control stack => (∀ l ∈ stack, ∀ sd ∈ l, sd ∈ T.stageDefinitions) ∧ match control with
    | .startWorkflow _ _ => False
    | .executeStage st _ => st ∈ T.requiredStageTypes
    | .callExecutor st _ => st ∈ T.requiredStageTypes ∧ (p.get st).status = .running
    | .recordOutcome st _ o => st ∈ T.requiredStageTypes ∧ (p.get st).status = .running ∧
        o.success = true
    | .onStageCompleted => True
    | .advance => p.allComplete T.requiredStageTypes
    | .onStageFailed _ => False
    | .dispatchRunnableStages => True
    | .forEach pending => ∀ sd ∈ pending, sd ∈ T.stageDefinitions
  | _ => True

structure RaceInv (target : Target) (T : WorkflowTemplate) (r : Race) (a : Assessment) : Prop where
  row : r.db.Row target a
  bound : a.workflowTemplateId.bind r.db.workflowTemplates.get = some T
  live : a.status = .running ∨
    a.status = .validated ∧ a.workflowProgress.allComplete T.requiredStageTypes
  fits : ∀ i, (r.calls i).Fits T a.workflowProgress
  apart : ∀ st, (r.calls false).executing = some st → (r.calls true).executing ≠ some st
  unfinished : a.workflowProgress.allComplete T.requiredStageTypes →
    a.status = .validated ∨ ∃ i, (r.calls i).Reacting
  started : ∀ st, r.log.countP (Attempt.isStart st) ≤ 1 ∧
    (0 < r.log.countP (Attempt.isStart st) → ¬ (a.workflowProgress.get st).Startable)
  dispatched : ∀ st, r.log.countP (Attempt.isDispatch st) ≤ r.log.countP (Attempt.isStart st)
  advanced : r.log.countP Attempt.isAdvance = if a.status = .validated then 1 else 0

/-- Safety is the invariant and no call raised. -/
theorem RaceInv.safe (h : RaceInv target T r a) (hr : ∀ i e, r.calls i ≠ .raised e) :
    r.Safe target T := by
  refine ⟨hr, fun st => (h.started st).1, fun st => (h.dispatched st).trans (h.started st).1,
    fun hret b hb hall => ?_⟩
  obtain rfl : a = b := by simpa [h.row.1] using hb.1
  rcases h.unfinished hall with hv | ⟨i, hi⟩
  · exact ⟨hv, by rw [h.advanced, if_pos hv]⟩
  · rw [hret i] at hi; exact hi.elim

/-- The calls stay apart from each other's stages. -/
theorem CallState.Fits.mono (h : state.Fits T p)
    (he : ∀ st, state.executing = some st → (p'.get st).status = .running)
    (hc : p.allComplete T.requiredStageTypes → p'.allComplete T.requiredStageTypes) :
    state.Fits T p' := by
  cases state with
  | active control stack =>
    refine ⟨h.1, ?_⟩
    have h2 := h.2
    cases control with
    | callExecutor st => exact ⟨h2.1, he st rfl⟩
    | recordOutcome st => exact ⟨h2.1, he st rfl, h2.2.2⟩
    | advance => exact hc h2
    | _ => exact h2
  | returned | raised => trivial

theorem CallState.Fits.executing_running (h : state.Fits T p) (he : state.executing = some st) :
    (p.get st).status = .running := by
  cases state with
  | active control stack =>
    cases control with
    | callExecutor => cases he; exact h.2.2
    | recordOutcome => cases he; exact h.2.2.1
    | _ => cases he
  | returned | raised => cases he

theorem fits_ret (h : ∀ l ∈ stack, ∀ sd ∈ l, sd ∈ T.stageDefinitions) :
    (CallState.ret stack).Fits T p := by
  cases stack with
  | nil => trivial
  | cons pending stack =>
    exact ⟨fun l hl => h l (List.mem_cons_of_mem _ hl), h pending (List.mem_cons_self ..)⟩

theorem executing_ret (stack : List (List StageDefinition)) :
    (CallState.ret stack).executing = none := by
  cases stack <;> rfl

/-- The invariant once call `i` has moved. -/
theorem RaceInv.update (h : RaceInv target T r a) {i : Bool} {next : CallState} {db' : Db}
    {more : List Attempt} (hrow : db'.Row target a')
    (hbound : a'.workflowTemplateId.bind db'.workflowTemplates.get = some T)
    (hlive : a'.status = .running ∨
      a'.status = .validated ∧ a'.workflowProgress.allComplete T.requiredStageTypes)
    (hc : a.workflowProgress.allComplete T.requiredStageTypes →
      a'.workflowProgress.allComplete T.requiredStageTypes)
    (hother : ∀ st, (r.calls (!i)).executing = some st →
      (a'.workflowProgress.get st).status = .running)
    (hfits : next.Fits T a'.workflowProgress)
    (hapart : ∀ st, next.executing = some st → (r.calls (!i)).executing ≠ some st)
    (hunf : a'.workflowProgress.allComplete T.requiredStageTypes →
      a'.status = .validated ∨ next.Reacting ∨ (r.calls (!i)).Reacting)
    (hstarted : ∀ st, (r.log ++ more).countP (Attempt.isStart st) ≤ 1 ∧
      (0 < (r.log ++ more).countP (Attempt.isStart st) →
        ¬ (a'.workflowProgress.get st).Startable))
    (hdisp : ∀ st, more.countP (Attempt.isDispatch st) ≤ more.countP (Attempt.isStart st))
    (hadv : (r.log ++ more).countP Attempt.isAdvance = if a'.status = .validated then 1 else 0) :
    RaceInv target T ⟨db', Function.update r.calls i next, r.log ++ more⟩ a' := by
  have hself : Function.update r.calls i next i = next := Function.update_self ..
  have hne : Function.update r.calls i next (!i) = r.calls (!i) :=
    Function.update_of_ne (by cases i <;> decide) ..
  have hcases : ∀ j, j = i ∨ j = !i := by cases i <;> decide
  refine ⟨hrow, hbound, hlive, fun j => ?_, ?_, fun hall => ?_, hstarted, fun st => ?_, hadv⟩ <;>
    dsimp only
  · rcases hcases j with rfl | rfl
    · rw [hself]; exact hfits
    · rw [hne]; exact (h.fits _).mono hother hc
  · intro st
    cases i with
    | false => rw [hself, show true = !false from rfl, hne]; exact hapart st
    | true =>
      rw [hself, show false = !true from rfl, hne]
      exact fun h1 h2 => hapart st h2 h1
  · rcases hunf hall with hv | hn | ho
    · exact Or.inl hv
    · exact Or.inr ⟨i, by rw [hself]; exact hn⟩
    · exact Or.inr ⟨!i, by rw [hne]; exact ho⟩
  · simp only [List.countP_append]
    exact Nat.add_le_add (h.dispatched st) (hdisp st)

/-- What one call of the two finds of the other. -/
theorem RaceInv.other (h : RaceInv target T r a) (i : Bool) (st : StageType)
    (hi : (r.calls i).executing = some st) : (r.calls (!i)).executing ≠ some st := by
  cases i with
  | false => exact h.apart st hi
  | true => exact fun hc => h.apart st hc hi

/-- A move that leaves the row and the log as they are. -/
theorem RaceInv.quiet (h : RaceInv target T r a) {i : Bool} {next : CallState} {db' : Db}
    (hrow : db'.Row target a)
    (htemplates : db'.workflowTemplates = r.db.workflowTemplates)
    (hfits : next.Fits T a.workflowProgress)
    (hexec : next.executing = none ∨ next.executing = (r.calls i).executing)
    (hreact : (r.calls i).Reacting → a.workflowProgress.allComplete T.requiredStageTypes →
      next.Reacting) :
    RaceInv target T ⟨db', Function.update r.calls i next, r.log ++ []⟩ a := by
  refine h.update hrow (by rw [htemplates]; exact h.bound) h.live id
    (fun st hst => (h.fits _).executing_running hst) hfits (fun st hst => ?_) (fun hall => ?_)
    (by simpa using h.started) (fun st => Nat.le_refl _) (by simpa using h.advanced)
  · rcases hexec with hn | he
    · rw [hn] at hst; cases hst
    · exact h.other i st (he ▸ hst)
  · rcases h.unfinished hall with hv | ⟨j, hj⟩
    · exact Or.inl hv
    · have hcases : j = i ∨ j = !i := by cases i <;> cases j <;> decide
      rcases hcases with rfl | rfl
      · exact Or.inr (Or.inl (hreact hj hall))
      · exact Or.inr (Or.inr hj)

/-- With a stage still running the assessment is running. -/
theorem RaceInv.running (h : RaceInv target T r a) (hst : st ∈ T.requiredStageTypes)
    (hs : (a.workflowProgress.get st).status = .running) : a.status = .running := by
  rcases h.live with hr | ⟨_, hall⟩
  · exact hr
  · have := hall st hst
    rw [WorkflowProgress.isComplete, hs] at this
    cases this

end Invariant

/-! ### Every fresh step keeps it -/

section Step

variable {target : Target} {T : WorkflowTemplate} {a a' : Assessment} {r : Race} {t : Tick}
  {control : Control} {stack : List (List StageDefinition)} {st : StageType} {db' : Db}
  {next : CallState}

theorem race_started (h : RaceInv target T r a) {i : Bool} {actor : Actor} {now : Timestamp}
    (hi : r.calls i = .active (.executeStage st actor) stack) (hrun : a.status = .running)
    (hst : (a.workflowProgress.get st).Startable)
    (hrep : RowReplaced target r.db db'
      (a.withStage ((a.workflowProgress.get st).started now) now).saved) :
    RaceInv target T ⟨db', Function.update r.calls i (.active (.callExecutor st actor) stack),
      r.log ++ [.start st actor true]⟩
      (a.withStage ((a.workflowProgress.get st).started now) now).saved := by
  set e := (a.workflowProgress.get st).started now with he
  have hetype : e.stageType = st := by simp [he]
  have hfit := h.fits i
  rw [hi] at hfit
  have hnot : ∀ st', (a.workflowProgress.get st').status = .running → st' ≠ st := by
    rintro st' hr rfl
    rcases hst with hs | hs <;> rw [hs] at hr <;> cases hr
  have hget : ∀ st', ((a.withStage e now).saved.workflowProgress.get st') =
      if st' = st then e else a.workflowProgress.get st' := by
    intro st'; rw [Assessment.saved_progress, Assessment.withStage_get, hetype]
  have hzero : (r.log.countP (Attempt.isStart st)) = 0 :=
    Nat.eq_zero_of_not_pos fun hp => (h.started st).2 hp hst
  refine h.update ⟨hrep.get_self, h.row.2⟩ ?_ (Or.inl hrun) (fun hall => ?_) (fun st' hst' => ?_)
    ⟨hfit.1, hfit.2, ?_⟩ (fun st' hst' => ?_) (fun hall => ?_) (fun st' => ?_) (fun st' => ?_) ?_
  · rw [hrep.templates]; exact h.bound
  · refine WorkflowProgress.Forward.allComplete (Or.inr ?_) hall
    rw [hetype, WorkflowProgress.isComplete]
    rcases hst with hs | hs <;> simp [hs]
  · have hr := (h.fits _).executing_running hst'
    rw [hget, if_neg (hnot st' hr)]
    exact hr
  · rw [hget, if_pos rfl]; rfl
  · cases hst'
    exact fun hc => hnot st ((h.fits _).executing_running hc) rfl
  · have := hall st hfit.2
    rw [WorkflowProgress.isComplete, hget, if_pos rfl] at this
    cases this
  · rw [List.countP_append, hget]
    by_cases heq : st' = st
    · subst heq
      rw [hzero, if_pos rfl]
      simp [Attempt.isStart, he, StageProgressEntry.Startable]
    · have hs := h.started st'
      simpa [Attempt.isStart, heq, Ne.symm heq] using hs
  · cases actor <;> simp [Attempt.isStart, Attempt.isDispatch]
  · rw [List.countP_append]; exact h.advanced

theorem race_completed (h : RaceInv target T r a) {i : Bool} {actor : Actor}
    {o : StageExecutionOutcome} {now : Timestamp} {ref : Option String}
    (hi : r.calls i = .active (.recordOutcome st actor o) stack)
    (hrep : RowReplaced target r.db db'
      (a.withStage ((a.workflowProgress.get st).completed now ref) now).saved) :
    RaceInv target T ⟨db', Function.update r.calls i (.active .onStageCompleted stack), r.log ++ []⟩
      (a.withStage ((a.workflowProgress.get st).completed now ref) now).saved := by
  set e := (a.workflowProgress.get st).completed now ref with he
  have hetype : e.stageType = st := by simp [he]
  have hfit := h.fits i
  rw [hi] at hfit
  obtain ⟨hstack, hreq, hrunning, _⟩ := hfit
  have hget : ∀ st', ((a.withStage e now).saved.workflowProgress.get st') =
      if st' = st then e else a.workflowProgress.get st' := by
    intro st'; rw [Assessment.saved_progress, Assessment.withStage_get, hetype]
  have hrun : a.status = .running := h.running hreq hrunning
  refine h.update ⟨hrep.get_self, h.row.2⟩ ?_ (Or.inl hrun)
    (WorkflowProgress.Forward.allComplete (Or.inl rfl)) (fun st' hst' => ?_) ⟨hstack, trivial⟩
    (fun st' hst' => by cases hst') (fun _ => Or.inr (Or.inl trivial)) (fun st' => ?_)
    (fun st' => Nat.le_refl _) (by rw [List.append_nil]; exact h.advanced)
  · rw [hrep.templates]; exact h.bound
  · have hne : st' ≠ st := by
      rintro rfl
      exact h.other i st' (by rw [hi]; rfl) hst'
    rw [hget, if_neg hne]
    exact (h.fits _).executing_running hst'
  · rw [List.append_nil, hget]
    refine ⟨(h.started st').1, fun hp => ?_⟩
    split
    · simp [he, StageProgressEntry.Startable]
    · exact (h.started st').2 hp

theorem race_advanced (h : RaceInv target T r a) {i : Bool} {now : Timestamp}
    (hi : r.calls i = .active .advance stack) (hrun : a.status = .running)
    (hrep : RowReplaced target r.db db' { a with status := .validated, updatedAt := now }.saved) :
    RaceInv target T ⟨db', Function.update r.calls i (.ret stack), r.log ++ [.advance true]⟩
      { a with status := .validated, updatedAt := now }.saved := by
  have hfit := h.fits i
  rw [hi] at hfit
  refine h.update ⟨hrep.get_self, h.row.2⟩ ?_ (Or.inr ⟨rfl, hfit.2⟩) id
    (fun st' hst' => (h.fits _).executing_running hst') (fits_ret hfit.1)
    (fun st' hst' => by rw [executing_ret] at hst'; cases hst') (fun _ => Or.inl rfl) (fun st' => ?_)
    (fun st' => ?_) ?_
  · rw [hrep.templates]; exact h.bound
  · simpa [Attempt.isStart] using h.started st'
  · simp [Attempt.isDispatch, Attempt.isStart]
  · have hadv := h.advanced
    rw [List.countP_append, hadv]
    simp [Attempt.isAdvance, hrun]

/-- A move that does not raise keeps the invariant. -/
theorem race_move (h : RaceInv target T r a) {i : Bool} {now : Timestamp}
    {templates : WorkflowTemplateId → Option WorkflowTemplate}
    (htemplates : r.db.workflowTemplates.get = templates)
    (hi : r.calls i = .active control stack) (hrep : RowReplaced target r.db db' a')
    (hmove : Move templates (Race.reply t) now a control stack a' next)
    (hnot : ∀ e, next ≠ .raised e) :
    RaceInv target T
      ⟨db', Function.update r.calls i next, r.log ++ (r.calls i).attempt next⟩ a' := by
  subst htemplates
  have hfit := h.fits i
  rw [hi] at hfit
  obtain ⟨hstack, hfit⟩ := hfit
  have hquiet : ∀ next', db'.Row target a → next'.Fits T a.workflowProgress →
      (next'.executing = none ∨ next'.executing = (r.calls i).executing) →
      ((r.calls i).Reacting → a.workflowProgress.allComplete T.requiredStageTypes →
        next'.Reacting) →
      RaceInv target T ⟨db', Function.update r.calls i next', r.log ++ []⟩ a :=
    fun next' hrow => h.quiet hrow hrep.templates
  have hrow : a' = a → db'.Row target a := fun heq => ⟨heq ▸ hrep.get_self, h.row.2⟩
  rw [hi] at hquiet ⊢
  cases hmove with
  | bound | notBound => exact hfit.elim
  | notStarted | executorRaised | notRecorded | notAdvanced => exact absurd rfl (hnot _)
  | started hrun hst => exact race_started h hi hrun hst hrep
  | replied ho =>
    cases ho
    exact hquiet _ (hrow rfl) ⟨hstack, hfit.1, hfit.2, rfl⟩ (Or.inr rfl) fun hc => hc.elim
  | completed => exact race_completed h hi hrep
  | failed ho => exact absurd (ho.symm.trans hfit.2.2) Bool.false_ne_true
  | afterCompletion =>
    rw [h.bound, onStageCompleted] at hnot ⊢
    split
    · next hall =>
      exact hquiet (.active .advance stack) (hrow rfl) ⟨hstack, hall⟩ (Or.inl rfl) fun _ _ => trivial
    · next hall =>
      exact hquiet (.active .dispatchRunnableStages stack) (hrow rfl) ⟨hstack, trivial⟩ (Or.inl rfl)
        fun _ hc => absurd hc hall
  | advanced _ _ hrun =>
    have hattempt : (CallState.active .advance stack).attempt (.ret stack) = [.advance true] := by
      cases stack <;> rfl
    rw [hattempt]
    exact race_advanced h hi hrun hrep
  | afterFailure => exact hfit.elim
  | dispatched =>
    rw [h.bound]
    refine hquiet _ (hrow rfl) ⟨hstack, fun sd hsd => ?_⟩ (Or.inl rfl) fun hc => hc.elim
    exact (WorkflowTemplate.mem_runnableStages.mp (List.mem_filter.mp hsd).1).1
  | loopEnd =>
    exact hquiet _ (hrow rfl) (fits_ret hstack) (Or.inl (executing_ret stack)) fun hc => hc.elim
  | @turn sd pending _ =>
    have hpending : ∀ sd' ∈ pending, sd' ∈ T.stageDefinitions :=
      fun sd' hsd' => hfit sd' (List.mem_cons_of_mem _ hsd')
    rw [forEachTurn]
    split
    · refine hquiet _ (hrow rfl) ⟨?_, ?_⟩ (Or.inl rfl) fun hc => hc.elim
      · exact List.forall_mem_cons.mpr ⟨hpending, hstack⟩
      · exact WorkflowTemplate.mem_requiredStageTypes.mpr ⟨sd, hfit sd (List.mem_cons_self ..), rfl⟩
    · exact hquiet _ (hrow rfl) ⟨hstack, hpending⟩ (Or.inl rfl) fun hc => hc.elim

/-- A fresh step does not raise. -/
theorem race_accepted (h : RaceInv target T r a)
    {now : Timestamp} {i : Bool} (hi : r.calls i = .active control stack)
    (hmove : Move r.db.workflowTemplates.get (Race.reply t) now a control stack a' next)
    (ht : t.call = i) (hok : r.Fresh target t) : ∀ e, next ≠ .raised e := by
  have hfit := h.fits i
  have hfresh := hok a h.row
  rw [ht, hi] at hfresh
  rw [hi] at hfit
  obtain ⟨_, hfit⟩ := hfit
  rintro e rfl
  generalize hs : CallState.raised e = s at hmove
  cases hmove with
  | notBound => exact hfit
  | notStarted hno => exact hno hfresh
  | executorRaised hm => cases hm
  | notRecorded hno => exact hno ⟨h.running hfit.1 hfit.2.1, hfit.2.1⟩
  | notAdvanced hno => exact hno T h.bound hfit hfresh
  | afterCompletion => rw [h.bound, onStageCompleted] at hs; split at hs <;> cases hs
  | afterFailure => exact hfit
  | dispatched => rw [h.bound] at hs; cases hs
  | turn => rw [forEachTurn] at hs; split at hs <;> cases hs
  | advanced | loopEnd => cases stack <;> cases hs
  | _ => cases hs

/-- What an accepted step was about to do, it could. -/
theorem race_fresh (h : RaceInv target T r a)
    {now : Timestamp} {i : Bool} (hi : r.calls i = .active control stack)
    (hmove : Move r.db.workflowTemplates.get (Race.reply t) now a control stack a' next)
    (ht : t.call = i) (hnot : ∀ e, next ≠ .raised e) : r.Fresh target t := by
  intro b hb
  obtain rfl : a = b := by simpa [h.row.1] using hb.1
  rw [ht, hi]
  cases hmove with
  | started hrun hst => exact ⟨hrun, hst⟩
  | advanced _ _ hrun => exact hrun
  | notStarted | notAdvanced => exact absurd rfl (hnot _)
  | _ => trivial

/-- A step keeps the invariant and does not raise iff it is fresh. -/
theorem race_step (h : RaceInv target T r a) (hr : ∀ i e, r.calls i ≠ .raised e) (t : Tick) :
    ((∀ i e, (r.step target t).calls i ≠ .raised e) ↔ r.Fresh target t) ∧
      (r.Fresh target t → ∃ a', RaceInv target T (r.step target t) a') := by
  have hcalls : ∀ next, (∀ i e, Function.update r.calls t.call next i ≠ .raised e) ↔
      ∀ e, next ≠ .raised e := by
    refine fun next => ⟨fun hc e => ?_, fun hc i e => ?_⟩
    · simpa using hc t.call e
    · rcases eq_or_ne i t.call with rfl | hne
      · simpa using hc e
      · simpa [hne] using hr i e
  simp only [Race.step, hcalls]
  cases hi : r.calls t.call with
  | active control stack =>
    obtain ⟨a', hmove, hrep⟩ := step_move h.row (Race.reply t) t.now control stack
    have hfresh := race_fresh h hi hmove rfl
    have hacc := race_accepted h hi hmove rfl
    refine ⟨⟨hfresh, hacc⟩, fun hok => ⟨a', ?_⟩⟩
    have hinv := race_move h rfl hi hrep hmove (hacc hok)
    rwa [hi] at hinv
  | returned =>
    have hfresh : r.Fresh target t := fun _ _ => by rw [hi]; trivial
    refine ⟨⟨fun _ => hfresh, fun _ e => CallState.noConfusion⟩, fun _ => ⟨a, ?_⟩⟩
    change RaceInv target T ⟨r.db, Function.update r.calls t.call .returned, r.log ++ []⟩ a
    rw [List.append_nil, ← hi, Function.update_eq_self]
    exact h
  | raised e => exact absurd hi (hr _ e)

end Step

/-! ### Results -/

/-- Before the first step. -/
theorem RaceSetup.inv {target : Target} {T : WorkflowTemplate} {db : Db} {a : Assessment}
    {stage : Bool → StageType} (h : RaceSetup target T db a stage) (user : Bool → UserId) :
    RaceInv target T (Race.start db stage user) a where
  row := h.row
  bound := h.bound
  live := Or.inl h.running
  fits i := by
    obtain ⟨sd, hsd, hst⟩ := h.runnable i
    have hmem := (WorkflowTemplate.mem_runnableStages.mp hsd).1
    exact ⟨List.forall_mem_nil _, WorkflowTemplate.mem_requiredStageTypes.mpr ⟨sd, hmem, hst⟩⟩
  apart _ hst := by cases hst
  unfinished hall := by
    obtain ⟨sd, hsd, _⟩ := h.runnable true
    obtain ⟨hmem, hst, _⟩ := WorkflowTemplate.mem_runnableStages.mp hsd
    have hc := hall sd.stageType (WorkflowTemplate.mem_requiredStageTypes.mpr ⟨sd, hmem, rfl⟩)
    unfold WorkflowProgress.isComplete at hc
    rcases hst with hst | hst <;> rw [hst] at hc <;> cases hc
  started _ := ⟨Nat.zero_le _, fun hp => absurd hp (lt_irrefl _)⟩
  dispatched _ := Nat.le_refl _
  advanced := by rw [if_neg (by rw [h.running]; decide)]; rfl

/-- Two calls run safely through an interleaving of their transactions iff none of its steps is
    stale. -/
theorem race_safe_iff {target : Target} {T : WorkflowTemplate} {db : Db} {a : Assessment}
    {stage : Bool → StageType} (h : RaceSetup target T db a stage) (user : Bool → UserId)
    (ts : List Tick) :
    Lib.AllStates (Race.step target) (Race.Safe target T) (Race.start db stage user) ts ↔
      Lib.AllSteps (Race.step target) (Race.Fresh target) (Race.start db stage user) ts := by
  refine Lib.allStates_iff_allSteps (J := fun r => ∃ a, RaceInv target T r a)
    (fun r t => ?_) (fun r t => ?_) ⟨a, h.inv user⟩ ((h.inv user).safe fun _ _ => CallState.noConfusion)
  · rintro ⟨b, hb⟩ hsafe
    obtain ⟨hiff, hinv⟩ := race_step hb hsafe.not_raised t
    refine ⟨fun hs => hiff.mp hs.not_raised, fun hok => ?_⟩
    obtain ⟨b', hb'⟩ := hinv hok
    exact hb'.safe (hiff.mpr hok)
  · rintro ⟨b, hb⟩ hsafe hok
    exact (race_step hb hsafe.not_raised t).2 hok

/-- Two independent stages, each run by a user. -/
def twoStages : WorkflowTemplate where
  __ := sampleTemplate
  stageDefinitions := [.initial .hazard .manual, .initial .exposure .manual]

def twoStagesAssessment : Assessment where
  __ := sampleAssessment
  status := .running
  workflowTemplateId := some ⟨1⟩
  workflowProgress := .initialized sampleAssessment.workflowProgress ⟨1⟩ twoStages.requiredStageTypes

def twoStagesDb : Db :=
  ⟨Lib.Table.empty.put twoStagesAssessment, Lib.Table.empty.put twoStages, []⟩

def stageOf (i : Bool) : StageType := if i then .exposure else .hazard

theorem twoStagesDb_setup :
    RaceSetup sampleTarget twoStages twoStagesDb twoStagesAssessment stageOf where
  row := ⟨rfl, rfl⟩
  running := rfl
  bound := rfl
  runnable := by decide
  different := by decide

/-- The two calls take turns, five times each. -/
def takingTurns : List Tick :=
  (List.range 5).flatMap fun n => [⟨n, false, none⟩, ⟨n, true, none⟩]

theorem race_safe_iff_sample :
    Lib.AllStates (Race.step sampleTarget) (Race.Safe sampleTarget twoStages)
        (Race.start twoStagesDb stageOf fun _ => ⟨1⟩) takingTurns ↔
      Lib.AllSteps (Race.step sampleTarget) (Race.Fresh sampleTarget)
        (Race.start twoStagesDb stageOf fun _ => ⟨1⟩) takingTurns :=
  race_safe_iff twoStagesDb_setup (fun _ => ⟨1⟩) takingTurns

/-- Both calls see both stages complete, and the second to advance raises. -/
theorem second_advance_raises : ¬ ∀ (target : Target) (T : WorkflowTemplate) (db : Db)
    (a : Assessment) (stage : Bool → StageType) (user : Bool → UserId) (ts : List Tick),
    T.Accepted → T.Distinct → RaceSetup target T db a stage →
    Lib.AllStates (Race.step target) (Race.Safe target T) (Race.start db stage user) ts := by
  intro h
  have hsafe := (h sampleTarget twoStages twoStagesDb twoStagesAssessment stageOf (fun _ => ⟨1⟩)
    takingTurns (by decide) (by decide) twoStagesDb_setup).last
  have hbad : ((takingTurns.foldl (Race.step sampleTarget)
      (Race.start twoStagesDb stageOf fun _ => ⟨1⟩)).calls true).accepted = false := by
    decide +kernel
  cases hc : (takingTurns.foldl (Race.step sampleTarget)
      (Race.start twoStagesDb stageOf fun _ => ⟨1⟩)).calls true with
  | raised e => exact hsafe.not_raised _ _ hc
  | active | returned => rw [hc] at hbad; cases hbad

end GeoRisk.Orchestration
