import Mathlib
import GeoRisk.SharedKernel

/-! Value objects of the workflow engine: stage types, the definition of a stage in a template, and
    the progress of an assessment, one entry per stage. An entry moves through

        notStarted ──▶ running ──▶ complete
                        ▲   │
                        └─ failed

    and nothing else; `advanceTo` is the only way to change its status. -/

namespace GeoRisk.Orchestration

inductive StageType where
  | hazard | exposure | vulnerability | risk | resilience | validation
  | fireRegime | burnOccurrenceProbability | burnSeverity
  deriving DecidableEq

inductive TriggerMode where | automatic | manual
  deriving DecidableEq

inductive StageExecutionStatus where | notStarted | running | complete | failed
  deriving DecidableEq

def StageType.value : StageType → String
  | .hazard => "HAZARD"
  | .exposure => "EXPOSURE"
  | .vulnerability => "VULNERABILITY"
  | .risk => "RISK"
  | .resilience => "RESILIENCE"
  | .validation => "VALIDATION"
  | .fireRegime => "FIRE_REGIME"
  | .burnOccurrenceProbability => "BURN_OCCURRENCE_PROBABILITY"
  | .burnSeverity => "BURN_SEVERITY"

def StageExecutionStatus.value : StageExecutionStatus → String
  | .notStarted => "NOT_STARTED"
  | .running => "RUNNING"
  | .complete => "COMPLETE"
  | .failed => "FAILED"

instance : ToString StageType := ⟨StageType.value⟩
instance : ToString StageExecutionStatus := ⟨StageExecutionStatus.value⟩

/-- All stage types, in the order of their names. -/
def StageType.sorted : List StageType :=
  [.burnOccurrenceProbability, .burnSeverity, .exposure, .fireRegime, .hazard, .resilience, .risk,
    .validation, .vulnerability]

theorem StageType.mem_sorted (st : StageType) : st ∈ StageType.sorted := by cases st <;> decide

instance : Fintype StageType := ⟨StageType.sorted.toFinset, fun st => by
  rw [List.mem_toFinset]; exact st.mem_sorted⟩

/-- The statuses a stage may move to from each status. -/
def stageLegalTransitions : StageExecutionStatus → List StageExecutionStatus
  | .notStarted => [.running]
  | .running => [.complete, .failed]
  | .failed => [.running]
  | .complete => []

/-- One node of a template's graph. Its constructor refuses a stage that requires itself and a
    retry budget below one. -/
structure StageDefinition where
  stageType : StageType
  requiredPredecessors : Finset StageType := ∅
  triggerMode : TriggerMode := .automatic
  maxAttempts : ℕ := 3
  not_self : stageType ∉ requiredPredecessors := by decide
  attempts_pos : 1 ≤ maxAttempts := by decide
  deriving DecidableEq

/-- A stage that requires no other, with the default retry budget. -/
def StageDefinition.initial (st : StageType) (triggerMode : TriggerMode) : StageDefinition where
  stageType := st
  triggerMode
  not_self := Finset.notMem_empty st

/-- The progress of one stage. -/
structure StageProgressEntry where
  stageType : StageType
  status : StageExecutionStatus := .notStarted
  attemptCount : ℕ := 0
  stageResultRef : Option String := none
  startedAt : Option Timestamp := none
  completedAt : Option Timestamp := none
  lastError : Option String := none
  deriving DecidableEq

/-- The entry in its next status; the error is the text of a `ValueError`. -/
def StageProgressEntry.advanceTo (self : StageProgressEntry) (newStatus : StageExecutionStatus)
    (now : Timestamp) (stageResultRef error : Option String) :
    Except String StageProgressEntry :=
  if newStatus ∉ stageLegalTransitions self.status then
    .error s!"Stage {self.stageType} cannot transition from {self.status} to {newStatus}"
  else match newStatus with
    | .running => .ok { self with
        status := newStatus
        attemptCount := self.attemptCount + 1
        startedAt := some now
        lastError := none }
    | .complete => .ok { self with
        status := newStatus, completedAt := some now, stageResultRef := stageResultRef }
    | _ => .ok { self with status := newStatus, lastError := error }

structure WorkflowTemplateId where
  value : UUID
  deriving DecidableEq

instance : ToString WorkflowTemplateId := ⟨fun i => UUID.str i.value⟩

/-- The progress of an assessment through a template: its entries, and the template. -/
structure WorkflowProgress where
  workflowTemplateId : Option WorkflowTemplateId := none
  entries : List StageProgressEntry := []
  deriving DecidableEq

namespace WorkflowProgress

/-- The first entry of a stage, or the entry of a stage never started. -/
def get (p : WorkflowProgress) (st : StageType) : StageProgressEntry :=
  (p.entries.find? (fun e => e.stageType = st)).getD { stageType := st }

def withEntry (p : WorkflowProgress) (entry : StageProgressEntry) : WorkflowProgress :=
  { p with entries := p.entries.filter (fun e => e.stageType ≠ entry.stageType) ++ [entry] }

def isComplete (p : WorkflowProgress) (st : StageType) : Prop := (p.get st).status = .complete

def allComplete (p : WorkflowProgress) (sts : Finset StageType) : Prop := ∀ st ∈ sts, p.isComplete st

instance (p : WorkflowProgress) (st : StageType) : Decidable (p.isComplete st) :=
  inferInstanceAs (Decidable (_ = _))

instance (p : WorkflowProgress) (sts : Finset StageType) : Decidable (p.allComplete sts) :=
  inferInstanceAs (Decidable (∀ st ∈ sts, p.isComplete st))

/-- One entry that is not started for each stage, in the order of their names. -/
def initialized (_ : WorkflowProgress) (templateId : WorkflowTemplateId)
    (sts : Finset StageType) : WorkflowProgress where
  workflowTemplateId := some templateId
  entries := (StageType.sorted.filter (· ∈ sts)).map fun st => { stageType := st }

end WorkflowProgress

/-! ### A stage's entry through its life -/

namespace StageProgressEntry

variable {e e' : StageProgressEntry} {now : Timestamp} {ref err : Option String}

/-- A stage may be started when it was never started or has failed. -/
def Startable (e : StageProgressEntry) : Prop := e.status = .notStarted ∨ e.status = .failed

instance (e : StageProgressEntry) : Decidable e.Startable :=
  inferInstanceAs (Decidable (_ ∨ _))

theorem running_legal_iff : .running ∈ stageLegalTransitions e.status ↔ e.Startable := by
  unfold Startable; cases e.status <;> simp [stageLegalTransitions]

theorem complete_legal_iff : .complete ∈ stageLegalTransitions e.status ↔ e.status = .running := by
  cases e.status <;> simp [stageLegalTransitions]

theorem failed_legal_iff : .failed ∈ stageLegalTransitions e.status ↔ e.status = .running := by
  cases e.status <;> simp [stageLegalTransitions]

/-- The entry once started: one more attempt, no error yet. -/
def started (e : StageProgressEntry) (now : Timestamp) : StageProgressEntry :=
  { e with status := .running, attemptCount := e.attemptCount + 1, startedAt := some now
           lastError := none }

@[simp] theorem started_stageType : (e.started now).stageType = e.stageType := rfl
@[simp] theorem started_status : (e.started now).status = .running := rfl
@[simp] theorem started_attemptCount : (e.started now).attemptCount = e.attemptCount + 1 := rfl

def completed (e : StageProgressEntry) (now : Timestamp) (ref : Option String) :
    StageProgressEntry :=
  { e with status := .complete, completedAt := some now, stageResultRef := ref }

@[simp] theorem completed_stageType : (e.completed now ref).stageType = e.stageType := rfl
@[simp] theorem completed_status : (e.completed now ref).status = .complete := rfl
@[simp] theorem completed_attemptCount : (e.completed now ref).attemptCount = e.attemptCount := rfl

def failedWith (e : StageProgressEntry) (err : Option String) : StageProgressEntry :=
  { e with status := .failed, lastError := err }

@[simp] theorem failedWith_stageType : (e.failedWith err).stageType = e.stageType := rfl
@[simp] theorem failedWith_status : (e.failedWith err).status = .failed := rfl
@[simp] theorem failedWith_attemptCount : (e.failedWith err).attemptCount = e.attemptCount := rfl

theorem advanceTo_running :
    e.advanceTo .running now ref err = .ok e' ↔ e.Startable ∧ e' = e.started now := by
  unfold advanceTo
  by_cases h : StageExecutionStatus.running ∈ stageLegalTransitions e.status
  · simp [h, running_legal_iff.mp h, started, eq_comm]
  · simp [h, mt running_legal_iff.mpr h]

theorem advanceTo_complete :
    e.advanceTo .complete now ref err = .ok e' ↔
      e.status = .running ∧ e' = e.completed now ref := by
  unfold advanceTo
  by_cases h : StageExecutionStatus.complete ∈ stageLegalTransitions e.status
  · simp [complete_legal_iff.mp h, stageLegalTransitions, completed, eq_comm]
  · simp [h, mt complete_legal_iff.mpr h]

theorem advanceTo_failed :
    e.advanceTo .failed now ref err = .ok e' ↔ e.status = .running ∧ e' = e.failedWith err := by
  unfold advanceTo
  by_cases h : StageExecutionStatus.failed ∈ stageLegalTransitions e.status
  · simp [failed_legal_iff.mp h, stageLegalTransitions, failedWith, eq_comm]
  · simp [h, mt failed_legal_iff.mpr h]

end StageProgressEntry

/-! ### Progress, entry by entry -/

namespace WorkflowProgress

variable {p : WorkflowProgress} {st : StageType} {e : StageProgressEntry}

@[simp] theorem get_stageType (p : WorkflowProgress) (st : StageType) :
    (p.get st).stageType = st := by
  unfold get
  cases h : p.entries.find? (fun e => e.stageType = st) with
  | none => rfl
  | some e => simpa using List.find?_some h

/-- Replacing an entry changes the progress of its stage only. -/
theorem get_withEntry (p : WorkflowProgress) (e : StageProgressEntry) (st : StageType) :
    (p.withEntry e).get st = if st = e.stageType then e else p.get st := by
  simp only [get, withEntry, List.find?_append]
  split
  · next h =>
    have hnone : (p.entries.filter fun e' => e'.stageType ≠ e.stageType).find?
        (fun e' => e'.stageType = st) = none := by
      rw [List.find?_eq_none]
      intro e' he'
      have := (List.mem_filter.mp he').2
      simp_all
    rw [hnone]
    simp [h]
  · next h =>
    have hfind : (p.entries.filter fun e' => e'.stageType ≠ e.stageType).find?
        (fun e' => e'.stageType = st) = p.entries.find? (fun e' => e'.stageType = st) := by
      rw [List.find?_filter]
      congr 1; funext e'
      by_cases he : e'.stageType = st
      · simp [he, h]
      · simp [he]
    have hlast : [e].find? (fun e' => e'.stageType = st) = none := by simp [Ne.symm h]
    rw [hfind, hlast, Option.or_none]

@[simp] theorem get_withEntry_self (p : WorkflowProgress) (e : StageProgressEntry) :
    (p.withEntry e).get e.stageType = e := by simp [get_withEntry]

/-- The entry replaces one that was not complete, or is complete itself. -/
def Forward (p : WorkflowProgress) (e : StageProgressEntry) : Prop :=
  e.status = .complete ∨ ¬ p.isComplete e.stageType

/-- Completion is not undone. -/
theorem Forward.isComplete (h : p.Forward e) (hst : p.isComplete st) :
    (p.withEntry e).isComplete st := by
  unfold WorkflowProgress.isComplete at *
  rw [get_withEntry]
  split
  · next heq => exact h.resolve_right fun hn => hn (heq ▸ hst)
  · exact hst

theorem Forward.allComplete {sts : Finset StageType} (h : p.Forward e) (hp : p.allComplete sts) :
    (p.withEntry e).allComplete sts :=
  fun st hst => h.isComplete (hp st hst)

/-- An entry that is not complete completes nothing. -/
theorem allComplete_of_withEntry {sts : Finset StageType} (h : e.status ≠ .complete)
    (hp : (p.withEntry e).allComplete sts) : p.allComplete sts := by
  intro st hst
  have := hp st hst
  unfold WorkflowProgress.isComplete at *
  rw [get_withEntry] at this
  split at this
  · exact absurd this h
  · exact this

/-- Every stage of fresh progress is as if never started. -/
@[simp] theorem get_initialized (p : WorkflowProgress) (id : WorkflowTemplateId)
    (sts : Finset StageType) (st : StageType) : (p.initialized id sts).get st = { stageType := st } := by
  unfold get initialized
  cases h : ((StageType.sorted.filter (· ∈ sts)).map fun st =>
      ({ stageType := st } : StageProgressEntry)).find? (fun e => e.stageType = st) with
  | none => rfl
  | some e =>
    obtain ⟨st', _, rfl⟩ := List.mem_map.mp (List.mem_of_find?_eq_some h)
    have : st' = st := by simpa using List.find?_some h
    simp [this]

end WorkflowProgress

end GeoRisk.Orchestration
