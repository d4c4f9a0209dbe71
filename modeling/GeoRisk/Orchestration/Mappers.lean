import GeoRisk.JsonColumns
import GeoRisk.Orchestration.Entity

/-! Assessments and workflow templates in the database. The progress of an assessment is a document,
    and so are the stages of a template, whose predecessors are written as a sorted list:

        {EXPOSURE, HAZARD}  ──▶  ["EXPOSURE", "HAZARD"]  ──▶  {EXPOSURE, HAZARD}

    The template of an assessment is named by the text of its identifier. -/

namespace GeoRisk.Orchestration

/-! ### Enumerations -/

def TriggerMode.value : TriggerMode → String
  | .automatic => "AUTOMATIC"
  | .manual => "MANUAL"

def triggerModes : List TriggerMode := [.automatic, .manual]

def stageExecutionStatuses : List StageExecutionStatus :=
  [.notStarted, .running, .complete, .failed]

def hazardTypes : List HazardType := [.flood, .wildfire, .drought, .landslide]

def workflowTemplateStatuses : List WorkflowTemplateStatus := [.draft, .published, .deprecated]

def assessmentStatuses : List AssessmentStatus :=
  [.draft, .ready, .running, .validated, .reported, .archived, .cancelled]

theorem memberOfValue_hazardType (hazardType : HazardType) :
    memberOfValue hazardTypes HazardType.value hazardType.value = some hazardType := by
  cases hazardType <;> rfl

theorem memberOfValue_templateStatus (status : WorkflowTemplateStatus) :
    memberOfValue workflowTemplateStatuses WorkflowTemplateStatus.value status.value =
      some status := by
  cases status <;> rfl

theorem memberOfValue_assessmentStatus (status : AssessmentStatus) :
    memberOfValue assessmentStatuses AssessmentStatus.value status.value = some status := by
  cases status <;> rfl

def stageTypeColumn : Column StageType :=
  .enum StageType.sorted StageType.value fun st => by cases st <;> rfl

def stageStatusColumn : Column StageExecutionStatus :=
  .enum stageExecutionStatuses StageExecutionStatus.value fun status => by cases status <;> rfl

def triggerModeColumn : Column TriggerMode :=
  .enum triggerModes TriggerMode.value fun mode => by cases mode <;> rfl

@[simp] theorem stageTypeColumn_ok (st : StageType) : stageTypeColumn.ok st := trivial
@[simp] theorem stageStatusColumn_ok (status : StageExecutionStatus) :
    stageStatusColumn.ok status := trivial
@[simp] theorem triggerModeColumn_ok (mode : TriggerMode) : triggerModeColumn.ok mode := trivial

/-! ### Progress -/

/-- The text of an identifier. -/
def templateIdColumn : Column WorkflowTemplateId where
  write templateId := .str (toString templateId)
  read
    | .str text => (UUID.fromString text).map WorkflowTemplateId.mk
    | _ => none
  ok templateId := templateId.value < 2 ^ 128
  read_write templateId h := by
    have hread : UUID.fromString (toString templateId) = some templateId.value :=
      UUID.fromString_str h
    dsimp only
    rw [hread, Option.map_some]
  write_ne_null := nofun

def progressEntryToJson (e : StageProgressEntry) : List (String × Json) :=
  [("stage_type", stageTypeColumn.write e.stageType),
   ("status", stageStatusColumn.write e.status),
   ("attempt_count", Column.nat.write e.attemptCount),
   ("stage_result_ref", Column.str.writeOptional e.stageResultRef),
   ("started_at", Column.time.writeOptional e.startedAt),
   ("completed_at", Column.time.writeOptional e.completedAt),
   ("last_error", Column.str.writeOptional e.lastError)]

def progressEntryFromJson (e : List (String × Json)) : Option StageProgressEntry := do
  return {
    stageType := ← stageTypeColumn.item e "stage_type"
    status := ← stageStatusColumn.item e "status"
    attemptCount := ← Column.nat.item e "attempt_count"
    stageResultRef := ← Column.str.getOptional e "stage_result_ref"
    startedAt := ← Column.time.getTruthy e "started_at"
    completedAt := ← Column.time.getTruthy e "completed_at"
    lastError := ← Column.str.getOptional e "last_error" }

/-- Of the years that `isoformat` writes. -/
structure StageProgressEntry.Storable (e : StageProgressEntry) : Prop where
  startedAt : ∀ t ∈ e.startedAt, t < maxTimestamp
  completedAt : ∀ t ∈ e.completedAt, t < maxTimestamp

def progressEntryColumn : Column StageProgressEntry :=
  .record progressEntryToJson progressEntryFromJson StageProgressEntry.Storable <| by
    intro e h
    simp +contextual [progressEntryToJson, progressEntryFromJson, -Option.bind_eq_bind,
      h.startedAt, h.completedAt]

def progressToJson (progress : WorkflowProgress) : List (String × Json) :=
  [("workflow_template_id", templateIdColumn.writeOptional progress.workflowTemplateId),
   ("entries", progressEntryColumn.list.write progress.entries)]

def progressFromJson (data : List (String × Json)) : Option WorkflowProgress := do
  return {
    workflowTemplateId := ← templateIdColumn.getOptional data "workflow_template_id"
    entries := ← progressEntryColumn.list.getDefault [] data "entries" }

structure WorkflowProgress.Storable (progress : WorkflowProgress) : Prop where
  workflowTemplateId : ∀ templateId ∈ progress.workflowTemplateId, templateId.value < 2 ^ 128
  entries : ∀ e ∈ progress.entries, e.Storable

def progressColumn : Column WorkflowProgress :=
  .record progressToJson progressFromJson WorkflowProgress.Storable <| by
    intro progress h
    have hid : ∀ templateId ∈ progress.workflowTemplateId, templateIdColumn.ok templateId :=
      h.workflowTemplateId
    have hentries : progressEntryColumn.list.ok progress.entries := h.entries
    rw [progressFromJson, progressToJson, Column.bind_getOptional_self hid,
      Column.bind_getDefault_of_ne (by decide), Column.bind_getDefault_self hentries]
    rfl

/-! ### Assessments -/

/-- A row of `assessment.assessment`. -/
structure AssessmentModel where
  id : UUID
  tenantId : UUID
  name : String
  hazardType : String
  status : String
  createdBy : UUID
  createdAt : Timestamp
  updatedAt : Timestamp
  cancellationReason : String
  version : ℕ
  workflowTemplateId : Option UUID
  workflowProgress : Json

def assessmentToDomain (model : AssessmentModel) : Option Assessment := do
  return {
    id := ⟨model.id⟩
    tenantId := ⟨model.tenantId⟩
    name := model.name
    hazardType := ← memberOfValue hazardTypes HazardType.value model.hazardType
    status := ← memberOfValue assessmentStatuses AssessmentStatus.value model.status
    createdBy := ⟨model.createdBy⟩
    createdAt := model.createdAt
    updatedAt := model.updatedAt
    cancellationReason := model.cancellationReason
    version := model.version
    workflowTemplateId := model.workflowTemplateId.map WorkflowTemplateId.mk
    workflowProgress := ← progressColumn.read model.workflowProgress }

/-- The version stays as the row has it. -/
def applyAssessmentToModel (entity : Assessment) (model : AssessmentModel) : AssessmentModel :=
  { model with
    id := entity.id.value
    tenantId := entity.tenantId.value
    name := entity.name
    hazardType := entity.hazardType.value
    status := entity.status.value
    createdBy := entity.createdBy.value
    createdAt := entity.createdAt
    updatedAt := entity.updatedAt
    cancellationReason := entity.cancellationReason
    workflowTemplateId := entity.workflowTemplateId.bind fun templateId =>
      UUID.fromString (toString templateId)
    workflowProgress := progressColumn.write entity.workflowProgress }

structure Assessment.Storable (entity : Assessment) : Prop where
  workflowTemplateId : ∀ templateId ∈ entity.workflowTemplateId, templateId.value < 2 ^ 128
  workflowProgress : entity.workflowProgress.Storable

/-- The identifier of the template is read from its text as it was. -/
theorem map_fromString {templateId : Option WorkflowTemplateId}
    (h : ∀ t ∈ templateId, t.value < 2 ^ 128) :
    (templateId.bind fun t => UUID.fromString (toString t)).map WorkflowTemplateId.mk =
      templateId := by
  cases templateId with
  | none => rfl
  | some t =>
    have hread : UUID.fromString (toString t) = some t.value := UUID.fromString_str (h t rfl)
    rw [Option.bind_some, hread, Option.map_some]

/-- A stored assessment is read back as it was, with the version of the row. -/
theorem assessmentToDomain_apply {entity : Assessment} (h : entity.Storable)
    (model : AssessmentModel) :
    assessmentToDomain (applyAssessmentToModel entity model) =
      some { entity with version := model.version } := by
  rw [assessmentToDomain]
  simp only [applyAssessmentToModel]
  rw [memberOfValue_hazardType, memberOfValue_assessmentStatus,
    progressColumn.read_write _ h.workflowProgress, map_fromString h.workflowTemplateId]
  rfl

/-- The columns are those of the entity, whatever the row held; but the version stays the row's. -/
theorem applyAssessmentToModel_congr (entity : Assessment) (version : ℕ)
    (model model' : AssessmentModel) :
    applyAssessmentToModel { entity with version } model' =
      { applyAssessmentToModel entity model with version := model'.version } := rfl

/-! ### Workflow templates -/

/-- `sorted(p.value for p in required_predecessors)`, read into a `frozenset`. -/
def predecessorsColumn : Column (Finset StageType) where
  write sts := stageTypeColumn.list.write (StageType.sorted.filter (· ∈ sts))
  read value := (stageTypeColumn.list.read value).map List.toFinset
  ok _ := True
  read_write sts _ := by
    have hread := stageTypeColumn.list.read_write (StageType.sorted.filter (· ∈ sts))
      fun st _ => stageTypeColumn_ok st
    have hmem : (StageType.sorted.filter (· ∈ sts)).toFinset = sts := by
      ext st
      simp [StageType.mem_sorted]
    rw [hread, Option.map_some, hmem]
  write_ne_null := nofun

@[simp] theorem predecessorsColumn_ok (sts : Finset StageType) : predecessorsColumn.ok sts :=
  trivial

/-- `StageDefinition.__post_init__`. -/
def StageDefinition.make (stageType : StageType) (requiredPredecessors : Finset StageType)
    (triggerMode : TriggerMode) (maxAttempts : ℕ) : Except String StageDefinition :=
  if hself : stageType ∈ requiredPredecessors then
    .error s!"{stageType} cannot depend on itself"
  else if hattempts : 1 ≤ maxAttempts then
    .ok { stageType, requiredPredecessors, triggerMode, maxAttempts
          not_self := hself, attempts_pos := hattempts }
  else .error "max_attempts must be at least 1"

theorem StageDefinition.make_self (sd : StageDefinition) :
    make sd.stageType sd.requiredPredecessors sd.triggerMode sd.maxAttempts = .ok sd := by
  rw [make, dif_neg sd.not_self, dif_pos sd.attempts_pos]

def stageDefinitionToJson (sd : StageDefinition) : List (String × Json) :=
  [("stage_type", stageTypeColumn.write sd.stageType),
   ("required_predecessors", predecessorsColumn.write sd.requiredPredecessors),
   ("trigger_mode", triggerModeColumn.write sd.triggerMode),
   ("max_attempts", Column.nat.write sd.maxAttempts)]

def stageDefinitionFromJson (sd : List (String × Json)) : Option StageDefinition := do
  let stageType ← stageTypeColumn.item sd "stage_type"
  let requiredPredecessors ← predecessorsColumn.getDefault ∅ sd "required_predecessors"
  let triggerMode ← triggerModeColumn.getDefault .automatic sd "trigger_mode"
  let maxAttempts ← Column.nat.getDefault 3 sd "max_attempts"
  (StageDefinition.make stageType requiredPredecessors triggerMode maxAttempts).toOption

def stageDefinitionColumn : Column StageDefinition :=
  .record stageDefinitionToJson stageDefinitionFromJson (fun _ => True) <| by
    rintro sd -
    simp [stageDefinitionToJson, stageDefinitionFromJson, -Option.bind_eq_bind,
      StageDefinition.make_self, Except.toOption]

/-- A row of `assessment.workflow_template`. -/
structure WorkflowTemplateModel where
  id : UUID
  hazardType : String
  name : String
  version : ℕ
  status : String
  stageDefinitions : Json
  createdAt : Timestamp

def workflowTemplateToDomain (model : WorkflowTemplateModel) : Option WorkflowTemplate := do
  return {
    id := ⟨model.id⟩
    hazardType := ← memberOfValue hazardTypes HazardType.value model.hazardType
    name := model.name
    version := model.version
    status := ← memberOfValue workflowTemplateStatuses WorkflowTemplateStatus.value model.status
    stageDefinitions := ← stageDefinitionColumn.list.read model.stageDefinitions
    createdAt := model.createdAt }

def applyWorkflowTemplateToModel (entity : WorkflowTemplate) (model : WorkflowTemplateModel) :
    WorkflowTemplateModel :=
  { model with
    id := entity.id.value
    hazardType := entity.hazardType.value
    name := entity.name
    version := entity.version
    status := entity.status.value
    stageDefinitions := stageDefinitionColumn.list.write entity.stageDefinitions
    createdAt := entity.createdAt }

/-- A stored template is read back as it was. -/
theorem workflowTemplateToDomain_apply (entity : WorkflowTemplate)
    (model : WorkflowTemplateModel) :
    workflowTemplateToDomain (applyWorkflowTemplateToModel entity model) = some entity := by
  rw [workflowTemplateToDomain]
  simp only [applyWorkflowTemplateToModel]
  rw [memberOfValue_hazardType, memberOfValue_templateStatus,
    stageDefinitionColumn.list.read_write _ fun _ _ => trivial]
  rfl

/-- The columns are those of the entity, whatever the row held. -/
theorem applyWorkflowTemplateToModel_congr (entity : WorkflowTemplate)
    (model model' : WorkflowTemplateModel) :
    applyWorkflowTemplateToModel entity model = applyWorkflowTemplateToModel entity model' := rfl

end GeoRisk.Orchestration
