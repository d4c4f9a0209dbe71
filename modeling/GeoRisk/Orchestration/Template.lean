import Mathlib
import GeoRisk.Lib.Dag
import GeoRisk.Lib.Table
import GeoRisk.Orchestration.Workflow

/-! The `WorkflowTemplate` aggregate: an authored graph of stages. `create` accepts a graph whose
    predecessors are all defined and which Kahn's elimination resolves completely; `runnableStages`
    is what the engine reads to see which stages may run now. -/

namespace GeoRisk.Orchestration

inductive HazardType where | flood | wildfire | drought | landslide
  deriving DecidableEq

inductive WorkflowTemplateStatus where | draft | published | deprecated
  deriving DecidableEq

def HazardType.value : HazardType → String
  | .flood => "FLOOD"
  | .wildfire => "WILDFIRE"
  | .drought => "DROUGHT"
  | .landslide => "LANDSLIDE"

def WorkflowTemplateStatus.value : WorkflowTemplateStatus → String
  | .draft => "DRAFT"
  | .published => "PUBLISHED"
  | .deprecated => "DEPRECATED"

instance : ToString HazardType := ⟨HazardType.value⟩
instance : ToString WorkflowTemplateStatus := ⟨WorkflowTemplateStatus.value⟩

/-- The exception classes the context raises. -/
inductive AssessmentErrorKind where
  | assessmentNotFound | illegalAssessmentStatusTransition | optimisticConcurrency
  | workflowTemplateNotFound | cyclicWorkflowTemplate | unknownStagePredecessor
  | illegalWorkflowTemplateStatusTransition | illegalStageExecutionTransition
  | workflowNotComplete | guardRejected | valueError
  deriving DecidableEq

structure AssessmentError where
  kind : AssessmentErrorKind
  message : String
  deriving DecidableEq

structure WorkflowTemplate where
  id : WorkflowTemplateId
  hazardType : HazardType
  name : String
  version : ℕ
  status : WorkflowTemplateStatus
  stageDefinitions : List StageDefinition
  createdAt : Timestamp
  deriving DecidableEq

structure WorkflowTemplateCreated where
  workflowTemplateId : WorkflowTemplateId
  hazardType : HazardType
  name : String
  version : ℕ
  stageTypes : List StageType
  deriving DecidableEq

structure WorkflowTemplatePublished where
  workflowTemplateId : WorkflowTemplateId
  deriving DecidableEq

namespace WorkflowTemplate

def requiredStageTypes (self : WorkflowTemplate) : Finset StageType :=
  (self.stageDefinitions.map (·.stageType)).toFinset

def getStageDefinition (self : WorkflowTemplate) (st : StageType) : Option StageDefinition :=
  self.stageDefinitions.find? (fun sd => sd.stageType = st)

/-- The stages that could run now: not started or failed, all predecessors complete. -/
def runnableStages (self : WorkflowTemplate) (progress : WorkflowProgress) : List StageDefinition :=
  self.stageDefinitions.filter fun sd =>
    (progress.get sd.stageType).Startable ∧ progress.allComplete sd.requiredPredecessors

/-- The dictionary from stage types to predecessors: a type defined again keeps its place and takes
    the later predecessors. -/
def predecessors (self : WorkflowTemplate) :
    Lib.Table (Prod.fst : StageType × Finset StageType → StageType) :=
  self.stageDefinitions.foldl (fun d sd => d.put (sd.stageType, sd.requiredPredecessors)) .empty

/-- How a list of stage types prints in an error. -/
def reprStages (sts : List StageType) : String :=
  "[" ++ ", ".intercalate (sts.map fun st =>
    "<StageType." ++ st.value ++ ": '" ++ st.value ++ "'>") ++ "]"

def validateDag (self : WorkflowTemplate) : Except AssessmentError Unit :=
  match self.stageDefinitions.find? fun sd => ¬ sd.requiredPredecessors ⊆ self.requiredStageTypes with
  | some sd =>
    let unknown := sd.requiredPredecessors \ self.requiredStageTypes
    .error ⟨.unknownStagePredecessor, s!"Stage {sd.stageType} references unknown predecessor(s): " ++
      reprStages (StageType.sorted.filter (· ∈ unknown))⟩
  | none =>
    let remaining := self.predecessors.rows
    let left := (Lib.resolveAll remaining.length remaining []).1
    if left = [] then .ok ()
    else .error ⟨.cyclicWorkflowTemplate, "WorkflowTemplate has a cyclic dependency among: " ++
      reprStages (StageType.sorted.filter (· ∈ left.map Prod.fst))⟩

/-- A new draft, under a fresh `id`. -/
def create (id : WorkflowTemplateId) (hazardType : HazardType) (name : String)
    (stageDefinitions : List StageDefinition) (version : ℕ) (now : Timestamp) :
    Except AssessmentError (WorkflowTemplate × WorkflowTemplateCreated) :=
  if isBlank name then .error ⟨.valueError, "WorkflowTemplate name must not be blank"⟩
  else if stageDefinitions = [] then
    .error ⟨.valueError, "WorkflowTemplate must define at least one stage"⟩
  else
    let template : WorkflowTemplate := {
      id, hazardType, name, version, status := .draft, stageDefinitions, createdAt := now }
    match template.validateDag with
    | .error e => .error e
    | .ok _ => .ok (template, {
        workflowTemplateId := id, hazardType, name, version
        stageTypes := stageDefinitions.map (·.stageType) })

def publish (self : WorkflowTemplate) :
    Except AssessmentError (WorkflowTemplate × WorkflowTemplatePublished) :=
  if self.status ≠ .draft then
    .error ⟨.illegalWorkflowTemplateStatusTransition,
      s!"WorkflowTemplate {self.id} cannot be published from status {self.status}"⟩
  else .ok ({ self with status := .published }, { workflowTemplateId := self.id })

/-! ### What the definitions say of a stage -/

variable {T : WorkflowTemplate} {sd : StageDefinition} {st : StageType} {p : WorkflowProgress}

/-- No stage type is defined twice. -/
def Distinct (T : WorkflowTemplate) : Prop := (T.stageDefinitions.map (·.stageType)).Nodup

instance (T : WorkflowTemplate) : Decidable T.Distinct := inferInstanceAs (Decidable (List.Nodup _))

theorem mem_requiredStageTypes :
    st ∈ T.requiredStageTypes ↔ ∃ sd ∈ T.stageDefinitions, sd.stageType = st := by
  simp [requiredStageTypes]

theorem allComplete_required_iff : p.allComplete T.requiredStageTypes ↔
    ∀ sd ∈ T.stageDefinitions, p.isComplete sd.stageType := by
  constructor
  · intro h sd hsd
    exact h _ (mem_requiredStageTypes.mpr ⟨sd, hsd, rfl⟩)
  · intro h st hst
    obtain ⟨sd, hsd, rfl⟩ := mem_requiredStageTypes.mp hst
    exact h sd hsd

theorem mem_runnableStages : sd ∈ T.runnableStages p ↔ sd ∈ T.stageDefinitions ∧
    (p.get sd.stageType).Startable ∧ p.allComplete sd.requiredPredecessors := by
  simp [runnableStages]

theorem getStageDefinition_some (h : T.getStageDefinition st = some sd) :
    sd ∈ T.stageDefinitions ∧ sd.stageType = st :=
  ⟨List.mem_of_find?_eq_some h, by simpa using List.find?_some h⟩

/-- With distinct stage types a stage's definition is the one found. -/
theorem getStageDefinition_of_mem (hT : T.Distinct) (h : sd ∈ T.stageDefinitions) :
    T.getStageDefinition sd.stageType = some sd := by
  cases hf : T.getStageDefinition sd.stageType with
  | none => exact absurd (List.find?_eq_none.mp hf sd h) (by simp)
  | some sd' =>
    obtain ⟨hm, hst⟩ := getStageDefinition_some hf
    rw [List.inj_on_of_nodup_map hT hm h hst]

/-! ### What acceptance says of the graph -/

theorem putRows_fresh {l : List (StageType × Finset StageType)} {r : StageType × Finset StageType}
    (h : r.1 ∉ l.map Prod.fst) : Lib.Table.putRows Prod.fst l r = l ++ [r] := by
  rw [Lib.Table.putRows, if_neg h]

/-- With distinct stage types the dictionary lists the definitions. -/
theorem predecessors_rows (hT : T.Distinct) : T.predecessors.rows =
    T.stageDefinitions.map fun sd => (sd.stageType, sd.requiredPredecessors) := by
  suffices h : ∀ (defs : List StageDefinition)
      (d : Lib.Table (Prod.fst : StageType × Finset StageType → StageType)),
      (d.rows.map Prod.fst ++ defs.map (·.stageType)).Nodup →
      (defs.foldl (fun d sd => d.put (sd.stageType, sd.requiredPredecessors)) d).rows =
        d.rows ++ defs.map fun sd => (sd.stageType, sd.requiredPredecessors) by
    have hnd : (T.stageDefinitions.map (·.stageType)).Nodup := hT
    have := h T.stageDefinitions .empty (by simpa [Lib.Table.empty] using hnd)
    simpa [predecessors, Lib.Table.empty] using this
  intro defs
  induction defs with
  | nil => intro d _; simp
  | cons sd defs ih =>
    intro d hnd
    have hfresh : sd.stageType ∉ d.rows.map Prod.fst := by
      intro hm
      exact (List.disjoint_of_nodup_append hnd) hm (by simp)
    have hput : (d.put (sd.stageType, sd.requiredPredecessors)).rows =
        d.rows ++ [(sd.stageType, sd.requiredPredecessors)] := putRows_fresh hfresh
    rw [List.foldl_cons, ih _ (by rw [hput]; simpa [List.append_assoc] using hnd), hput]
    simp

theorem validateDag_ok (h : T.validateDag = .ok ()) :
    (∀ sd ∈ T.stageDefinitions, sd.requiredPredecessors ⊆ T.requiredStageTypes) ∧
      (Lib.resolveAll T.predecessors.rows.length T.predecessors.rows []).1 = [] := by
  unfold validateDag at h
  split at h
  · simp at h
  · next hnone =>
    refine ⟨fun sd hsd => by simpa using List.find?_eq_none.mp hnone sd hsd, ?_⟩
    by_contra hne
    simp [hne] at h

/-- The result of `create`: the draft with these definitions, whose graph passed validation. -/
theorem create_ok {id : WorkflowTemplateId} {hz : HazardType} {name : String}
    {defs : List StageDefinition} {version : ℕ} {now : Timestamp} {ev : WorkflowTemplateCreated}
    (h : create id hz name defs version now = .ok (T, ev)) :
    T = { id, hazardType := hz, name, version, status := .draft, stageDefinitions := defs,
          createdAt := now } ∧ isBlank name = false ∧ defs ≠ [] ∧ T.validateDag = .ok () := by
  unfold create at h
  split at h
  · simp at h
  · next hname =>
    split at h
    · simp at h
    · next hdefs =>
      dsimp only at h
      split at h
      · simp at h
      · next u hv =>
        simp only [Except.ok.injEq, Prod.mk.injEq] at h
        obtain ⟨rfl, _⟩ := h
        exact ⟨rfl, by simpa using hname, hdefs, hv⟩

theorem publish_ok {T' : WorkflowTemplate} {ev : WorkflowTemplatePublished}
    (h : T.publish = .ok (T', ev)) : T' = { T with status := .published } := by
  unfold publish at h
  split at h
  · simp at h
  · simp only [Except.ok.injEq, Prod.mk.injEq] at h
    exact h.1.symm

/-- A template as `create` accepts it. -/
def Accepted (T : WorkflowTemplate) : Prop :=
  isBlank T.name = false ∧ T.stageDefinitions ≠ [] ∧ T.validateDag = .ok ()

instance : DecidableEq (Except AssessmentError Unit)
  | .ok (), .ok () => isTrue rfl
  | .ok (), .error _ => isFalse (by simp)
  | .error _, .ok () => isFalse (by simp)
  | .error e, .error e' => decidable_of_iff (e = e') (by simp)

instance (T : WorkflowTemplate) : Decidable T.Accepted := inferInstanceAs (Decidable (_ ∧ _))

/-- Publishing keeps what `create` accepted. -/
theorem accepted_of_publish {id : WorkflowTemplateId} {hz : HazardType} {name : String}
    {defs : List StageDefinition} {version : ℕ} {now : Timestamp} {ev : WorkflowTemplateCreated}
    {T' : WorkflowTemplate} {ev' : WorkflowTemplatePublished}
    (h : create id hz name defs version now = .ok (T, ev)) (hp : T.publish = .ok (T', ev')) :
    T'.Accepted := by
  obtain ⟨rfl, hname, hdefs, hv⟩ := create_ok h
  rw [publish_ok hp]
  exact ⟨hname, hdefs, hv⟩

/-- Induction over an accepted graph of distinct stages: what passes from a stage's predecessors to
    the stage holds of every stage. -/
theorem Accepted.induct {P : StageType → Prop} (h : T.Accepted) (hT : T.Distinct)
    (hP : ∀ sd ∈ T.stageDefinitions, (∀ st ∈ sd.requiredPredecessors, P st) → P sd.stageType) :
    ∀ sd ∈ T.stageDefinitions, P sd.stageType := by
  obtain ⟨_, hleft⟩ := validateDag_ok h.2.2
  rw [predecessors_rows hT] at hleft
  set req : StageType → Finset StageType := fun st =>
    ((T.getStageDefinition st).map (·.requiredPredecessors)).getD ∅ with hreqdef
  have hreq : ∀ q ∈ T.stageDefinitions.map fun sd => (sd.stageType, sd.requiredPredecessors),
      req q.1 = q.2 := by
    intro q hq
    obtain ⟨sd, hsd, rfl⟩ := List.mem_map.mp hq
    simp [hreqdef, getStageDefinition_of_mem hT hsd]
  obtain ⟨hperm, htopo⟩ := Lib.resolveAll_sound hreq hleft
  -- a type that no definition has carries no obligation
  have hstep := htopo.induct (P := fun st => st ∈ T.requiredStageTypes → P st) (by
    intro st hst hmem
    obtain ⟨sd, hsd, rfl⟩ := mem_requiredStageTypes.mp hmem
    have hpre : req sd.stageType = sd.requiredPredecessors := by
      simp [hreqdef, getStageDefinition_of_mem hT hsd]
    refine hP sd hsd fun b hb => hst b (hpre ▸ hb) ?_
    exact (validateDag_ok h.2.2).1 sd hsd hb)
  intro sd hsd
  refine hstep sd.stageType ?_ (mem_requiredStageTypes.mpr ⟨sd, hsd, rfl⟩)
  rw [hperm.mem_iff]
  simpa using ⟨sd, hsd, rfl⟩

end WorkflowTemplate

end GeoRisk.Orchestration
