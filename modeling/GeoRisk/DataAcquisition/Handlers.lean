import Mathlib
import GeoRisk.Lib.Table
import GeoRisk.DataAcquisition.AcquisitionJob

/-! The command handlers of the data acquisition context, over its tables. A handler is one
    transaction, which a raised exception undoes; only the execution of an acquisition job commits
    twice, so that a job whose execution ends in an exception is left running:

        load ▶ start ▶ commit │ acquire ▶ catalog or revise ▶ complete ▶ commit
                              │         └▶ fail ▶ commit -/

namespace GeoRisk.DataAcquisition

inductive AcquisitionEvent where
  | datasetSourceRegistered (e : DatasetSourceRegistered)
  | datasetCatalogued (e : DatasetCatalogued)
  | datasetRevised (e : DatasetRevised)
  | predictorVariableRegistered (e : PredictorVariableRegistered)
  | variableSelectionCreated (e : VariableSelectionCreated)
  | variableSelectionConfirmed (e : VariableSelectionConfirmed)
  | acquisitionJobScheduled (e : AcquisitionJobScheduled)
  | acquisitionJobStarted (e : AcquisitionJobStarted)
  | acquisitionJobCompleted (e : AcquisitionJobCompleted)
  | acquisitionJobFailed (e : AcquisitionJobFailed)

/-- The tables of the context, and the outbox. -/
structure Db where
  datasetSources : Lib.Table DatasetSource.id
  datasets : Lib.Table Dataset.id
  predictorVariables : Lib.Table PredictorVariable.id
  variableSelections : Lib.Table VariableSelection.id
  acquisitionJobs : Lib.Table AcquisitionJob.id
  outbox : List (OutboxEvent AcquisitionEvent)

namespace Db

def empty : Db := ⟨.empty, .empty, .empty, .empty, .empty, []⟩

def append (db : Db) (aggregateType aggregateId : String) (event : AcquisitionEvent)
    (tenantId : Option TenantId) (now : Timestamp) : Db :=
  { db with outbox := appendEvent db.outbox aggregateType aggregateId event tenantId now }

/-- All versions of the datasets of a tenant under one name, as `list_versions` selects them. -/
def versions (db : Db) (tenantId : TenantId) (name : String) : List Dataset :=
  db.datasets.rows.filter fun d => d.tenantId = tenantId ∧ d.metadata.name = name

/-- `SqlAlchemyDatasetRepository.get_latest`. Of several with the highest version it is not said which
    one the database returns: `tie` says. -/
def getLatest (db : Db) (tie : ℕ) (tenantId : TenantId) (name : String) : Option Dataset :=
  let catalogued := (db.versions tenantId name).filter fun d => d.status = .catalogued
  let highest := catalogued.filter fun d => ∀ d' ∈ catalogued, d'.version ≤ d.version
  highest[tie % highest.length]?

end Db

/-! ### What the columns hold -/

/-- The row is flushed with the commit, which fails if it does not fit its columns. -/
def flushed (ok : Bool) : Except AcquisitionError Unit :=
  if ok then .ok () else .error ⟨.dataError, ""⟩

def ProvenanceEntry.storable (e : ProvenanceEntry) : Bool :=
  DataAcquisition.storable e.actor && DataAcquisition.storable e.action &&
    DataAcquisition.storable e.description && e.sourceReference.all DataAcquisition.storable

def DatasetSource.fits (s : DatasetSource) : Bool :=
  DataAcquisition.fits 200 s.name && DataAcquisition.storable s.description &&
    DataAcquisition.fits 200 s.createdBy

def Dataset.fits (d : Dataset) : Bool :=
  d.version < 2 ^ 31 && DataAcquisition.fits 200 d.metadata.name &&
    DataAcquisition.fits 200 d.metadata.source && DataAcquisition.fits 30 d.metadata.crs &&
    DataAcquisition.fits 500 d.metadata.spatialCoverage &&
    DataAcquisition.fits 200 (d.metadata.modelUsed.getD "") &&
    d.provenance.all ProvenanceEntry.storable && DataAcquisition.fits 200 d.cataloguedBy

def PredictorVariable.fits (v : PredictorVariable) : Bool :=
  DataAcquisition.fits 200 v.name && DataAcquisition.fits 100 v.code &&
    DataAcquisition.fits 50 v.unit && DataAcquisition.fits 200 v.createdBy

def VariableSelection.fits (s : VariableSelection) : Bool :=
  DataAcquisition.fits 200 s.name && DataAcquisition.fits 20 (s.hazardType.getD "") &&
    DataAcquisition.fits 200 s.createdBy

/-- A value for a `jsonb` column, to which the encoder only turns what JSON has. -/
def Attribute.storable : Attribute → Bool
  | .json value => storableJson value
  | .other _ => false

def finiteBox : BoundingBox → Bool
  | (xmin, ymin, xmax, ymax) => finite xmin && finite ymin && finite xmax && finite ymax

def AcquisitionJob.fits (j : AcquisitionJob) : Bool :=
  storable j.sourceReference && DataAcquisition.fits 30 j.declaredCrs &&
    j.rawContentBase64.all storable && j.provenance.all ProvenanceEntry.storable &&
    j.error.all storable && DataAcquisition.fits 200 j.requestedBy &&
    (j.extractedFeatures.getD []).all (fun p => storable p.1 && finite p.2) &&
    (j.skippedFeatures.getD []).all (fun p => storable p.1 && storable p.2) &&
    DataAcquisition.fits 30 (j.shapefileGeometryType.getD "") &&
    j.shapefileFeatureCount.all fitsInteger && j.shapefileBoundingBox.all finiteBox &&
    DataAcquisition.fits 30 (j.shapefileCrs.getD "") &&
    (j.shapefileAttributes.getD []).all (fun p => storable p.1 && p.2.storable)

/-- The `aoi_id` column holds a UUID: its canonical text is read back, and no text for an empty one. -/
def AcquisitionJob.stored (self : AcquisitionJob) : Except AcquisitionError AcquisitionJob :=
  match self.aoiId with
  | none => .ok self
  | some text =>
    if text = "" then .ok { self with aoiId := none }
    else
      match UUID.fromString text with
      | none => .error ⟨.valueError, "badly formed hexadecimal UUID string"⟩
      | some id => .ok { self with aoiId := some id.str }

/-! ### Commands -/

structure RegisterDatasetSource where
  tenantId : Option TenantId
  name : String
  provider : DataProvider
  description : String
  issuedBy : String

/-- What a command says of a dataset, besides its name. -/
structure DescribedDataset where
  datasetType : DatasetType
  source : String
  provider : DataProvider
  acquisitionDate : Day
  crs : String
  spatialCoverage : String
  temporalCoverageStart : Timestamp
  temporalCoverageEnd : Timestamp
  processingMethod : ProcessingMethod
  spatialResolutionM : Option PyFloat := none
  temporalResolution : Option TemporalResolution := none
  modelUsed : Option String := none
  isMlrReady : Bool := false
  isCorrelationReady : Bool := false

structure CatalogDataset extends DescribedDataset where
  tenantId : TenantId
  datasetSourceId : DatasetSourceId
  name : String
  issuedBy : String := ""

structure ReviseDataset extends DescribedDataset where
  tenantId : TenantId
  datasetName : String
  description : String
  issuedBy : String := ""

structure RegisterPredictorVariable where
  tenantId : Option TenantId
  name : String
  code : String
  category : VariableCategory
  variableRole : VariableRole
  dataType : VariableDataType
  unit : String := ""
  valueMin : Option PyFloat := none
  valueMax : Option PyFloat := none
  isRequiredForMlr : Bool := false
  linkedDatasetId : Option DatasetId := none
  issuedBy : String := ""

structure CreateVariableSelection where
  tenantId : TenantId
  name : String
  hazardType : Option String
  selectedVariableIds : List PredictorVariableId
  issuedBy : String := ""

structure ConfirmVariableSelection where
  tenantId : TenantId
  variableSelectionId : VariableSelectionId

structure ExecuteAcquisitionJob where
  tenantId : TenantId
  acquisitionJobId : AcquisitionJobId

/-! ### Sources and datasets -/

/-- `RegisterDatasetSourceHandler.handle`. -/
def registerDatasetSource (c : RegisterDatasetSource) (id : DatasetSourceId) (now : Timestamp)
    (db : Db) : Except AcquisitionError (Db × DatasetSource) := do
  let (source, event) :=
    DatasetSource.register id c.tenantId c.name c.provider c.description c.issuedBy now
  flushed source.fits
  let db := { db with datasetSources := db.datasetSources.put source }
  return (db.append "DatasetSource" (toString source.id) (.datasetSourceRegistered event)
    c.tenantId now, source)

/-- `_assert_dataset_source_visible_to_tenant`. -/
def assertDatasetSourceVisibleToTenant (source : DatasetSource) (tenantId : TenantId) :
    Except AcquisitionError Unit :=
  if source.tenantId ≠ none ∧ source.tenantId ≠ some tenantId then
    .error ⟨.datasetSourceNotFound, s!"DatasetSource {source.id} not found"⟩
  else .ok ()

/-- The source of an identifier, if the tenant sees it. -/
def loadDatasetSource (db : Db) (id : DatasetSourceId) (tenantId : TenantId) :
    Except AcquisitionError DatasetSource :=
  match db.datasetSources.get id with
  | none => .error ⟨.datasetSourceNotFound, s!"DatasetSource {id} not found"⟩
  | some source => do
    assertDatasetSourceVisibleToTenant source tenantId
    return source

/-- `_metadata_from_command`. -/
def metadataFromCommand (c : DescribedDataset) (name : String) :
    Except AcquisitionError DatasetMetadata := do
  let temporalCoverage ← DateRange.make c.temporalCoverageStart c.temporalCoverageEnd
  DatasetMetadata.make { c with name, temporalCoverage }

/-- `_readiness_tags`. -/
def readinessTags (c : DescribedDataset) : Finset DatasetReadinessTag :=
  (if c.isMlrReady then {.mlrReady} else ∅) ∪
    (if c.isCorrelationReady then {.correlationReady} else ∅)

/-- `CatalogDatasetHandler.handle`. -/
def catalogDataset (c : CatalogDataset) (id : DatasetId) (now : Timestamp) (db : Db) :
    Except AcquisitionError (Db × Dataset) := do
  let _ ← loadDatasetSource db c.datasetSourceId c.tenantId
  let metadata ← metadataFromCommand c.toDescribedDataset c.name
  let (dataset, event) := Dataset.catalog id c.tenantId c.datasetSourceId metadata
    (readinessTags c.toDescribedDataset) c.issuedBy now
  flushed dataset.fits
  let db := { db with datasets := db.datasets.put dataset }
  return (db.append "Dataset" (toString dataset.id) (.datasetCatalogued event)
    (some c.tenantId) now, dataset)

/-- `ReviseDatasetHandler.handle`. -/
def reviseDataset (c : ReviseDataset) (id : DatasetId) (tie : ℕ) (now : Timestamp) (db : Db) :
    Except AcquisitionError (Db × Dataset) :=
  match db.getLatest tie c.tenantId c.datasetName with
  | none => .error ⟨.datasetNotFound,
      s!"No cataloged dataset named {pyRepr c.datasetName} to revise"⟩
  | some previous => do
    let metadata ← metadataFromCommand c.toDescribedDataset c.datasetName
    let (dataset, event) := previous.revise id metadata (readinessTags c.toDescribedDataset)
      c.description c.issuedBy now
    flushed dataset.fits
    let db := { db with datasets := (db.datasets.put previous.markSuperseded).put dataset }
    return (db.append "Dataset" (toString dataset.id) (.datasetRevised event)
      (some c.tenantId) now, dataset)

/-! ### Variables and selections -/

/-- `RegisterPredictorVariableHandler.handle`. -/
def registerPredictorVariable (c : RegisterPredictorVariable) (id : PredictorVariableId)
    (now : Timestamp) (db : Db) : Except AcquisitionError (Db × PredictorVariable) := do
  let predictor : PredictorVariable := {
    id, tenantId := c.tenantId, name := c.name, code := c.code, category := c.category
    variableRole := c.variableRole, dataType := c.dataType, unit := c.unit
    valueMin := c.valueMin, valueMax := c.valueMax, isRequiredForMlr := c.isRequiredForMlr
    linkedDatasetId := c.linkedDatasetId, isActive := true, createdBy := c.issuedBy
    createdAt := now }
  flushed predictor.fits
  let db := { db with predictorVariables := db.predictorVariables.put predictor }
  return (db.append "PredictorVariable" (toString predictor.id)
    (.predictorVariableRegistered ⟨id, c.tenantId, c.name, c.category⟩) c.tenantId now, predictor)

/-- `CreateVariableSelectionHandler.handle`: the identifiers are not looked up. -/
def createVariableSelection (c : CreateVariableSelection) (id : VariableSelectionId)
    (now : Timestamp) (db : Db) : Except AcquisitionError (Db × VariableSelection) := do
  let (selection, event) ← VariableSelection.create id c.tenantId c.name c.hazardType
    c.selectedVariableIds c.issuedBy now
  flushed selection.fits
  let db := { db with variableSelections := db.variableSelections.put selection }
  return (db.append "VariableSelection" (toString selection.id) (.variableSelectionCreated event)
    (some c.tenantId) now, selection)

/-- `ConfirmVariableSelectionHandler.handle`. -/
def confirmVariableSelection (c : ConfirmVariableSelection) (now : Timestamp) (db : Db) :
    Except AcquisitionError (Db × VariableSelection) :=
  match db.variableSelections.get c.variableSelectionId with
  | none => .error ⟨.variableSelectionNotFound,
      s!"VariableSelection {c.variableSelectionId} not found"⟩
  | some selection =>
    if selection.tenantId ≠ c.tenantId then
      .error ⟨.variableSelectionNotFound, s!"VariableSelection {c.variableSelectionId} not found"⟩
    else
      let (selection, event) := selection.confirm
      let db := { db with variableSelections := db.variableSelections.put selection }
      .ok (db.append "VariableSelection" (toString selection.id)
        (.variableSelectionConfirmed event) (some c.tenantId) now, selection)

/-! ### Acquisition jobs -/

/-- `SqlAlchemyAcquisitionJobRepository.save`, and the event that goes with it. -/
def saveJob (db : Db) (job : AcquisitionJob) (event : AcquisitionEvent) (now : Timestamp) :
    Except AcquisitionError Db := do
  let row ← job.stored
  flushed row.fits
  let db := { db with acquisitionJobs := db.acquisitionJobs.put row }
  return db.append "AcquisitionJob" (toString job.id) event (some job.tenantId) now

/-- `ScheduleAcquisitionJobHandler.handle`. -/
def scheduleAcquisitionJob (c : ScheduleAcquisitionJob) (id : AcquisitionJobId) (now : Timestamp)
    (db : Db) : Except AcquisitionError (Db × AcquisitionJob) := do
  let _ ← loadDatasetSource db c.datasetSourceId c.tenantId
  let (job, event) ← AcquisitionJob.schedule id c now
  return (← saveJob db job (.acquisitionJobScheduled event) now, job)

/-- The first transaction of an execution. -/
def startJob (c : ExecuteAcquisitionJob) (now : Timestamp) (db : Db) :
    Except AcquisitionError (Db × AcquisitionJob) :=
  match db.acquisitionJobs.get c.acquisitionJobId with
  | none => .error ⟨.acquisitionJobNotFound, s!"AcquisitionJob {c.acquisitionJobId} not found"⟩
  | some job =>
    if job.tenantId ≠ c.tenantId then
      .error ⟨.acquisitionJobNotFound, s!"AcquisitionJob {c.acquisitionJobId} not found"⟩
    else do
      let (job, event) ← job.start now
      return (← saveJob db job (.acquisitionJobStarted event) now, job)

/-- `_fail`. -/
def failJob (job : AcquisitionJob) (error : String) (now : Timestamp) (db : Db) :
    Except AcquisitionError (Db × AcquisitionJob) := do
  let (job, event) ← job.fail error now
  return (← saveJob db job (.acquisitionJobFailed event) now, job)

/-- The dataset of a completed job: a first version, or the next one of what is there. -/
def catalogAcquired (job : AcquisitionJob) (metadata : DatasetMetadata) (id : DatasetId) (tie : ℕ)
    (now : Timestamp) (db : Db) : Except AcquisitionError (Db × Dataset) :=
  match db.getLatest tie job.tenantId job.sourceReference with
  | none => do
    let (dataset, event) :=
      Dataset.catalog id job.tenantId job.datasetSourceId metadata ∅ job.requestedBy now
    flushed dataset.fits
    let db := { db with datasets := db.datasets.put dataset }
    return (db.append "Dataset" (toString dataset.id) (.datasetCatalogued event)
      (some job.tenantId) now, dataset)
  | some previous => do
    let (dataset, event) := previous.revise id metadata previous.readiness
      s!"Re-uploaded via AcquisitionJob {job.id}" job.requestedBy now
    flushed dataset.fits
    let db := { db with datasets := (db.datasets.put previous.markSuperseded).put dataset }
    return (db.append "Dataset" (toString dataset.id) (.datasetRevised event)
      (some job.tenantId) now, dataset)

/-- The second transaction of an execution, on the job as it was started. -/
def finishJob (w : World) (job : AcquisitionJob) (id : DatasetId) (tie : ℕ) (now : Timestamp)
    (db : Db) : Except AcquisitionError (Db × AcquisitionJob) :=
  match acquire w job with
  | .error (.failed error) => failJob job error now db
  | .error (.raised error) => .error error
  | .ok acquired => do
    let metadata ← metadataForCompletedJob w job acquired.shapefile now
    let (db, dataset) ← catalogAcquired job metadata id tie now db
    let (job, event) ← job.complete w dataset.id acquired now
    return (← saveJob db job (.acquisitionJobCompleted event) now, job)

/-- `ExecuteAcquisitionJobHandler.handle`: the tables it leaves, and the job or what it raises. -/
def executeAcquisitionJob (w : World) (c : ExecuteAcquisitionJob) (id : DatasetId) (tie : ℕ)
    (started finished : Timestamp) (db : Db) : Db × Except AcquisitionError AcquisitionJob :=
  match startJob c started db with
  | .error e => (db, .error e)
  | .ok (db, job) =>
    match finishJob w job id tie finished db with
    | .error e => (db, .error e)
    | .ok (db, job) => (db, .ok job)

/-! ### Runs -/

/-- A command, with what is drawn for it: the identifiers of new rows are drawn by `uuid4`. -/
inductive Command where
  | registerDatasetSource (c : RegisterDatasetSource) (id : DatasetSourceId)
  | catalogDataset (c : CatalogDataset) (id : DatasetId)
  | reviseDataset (c : ReviseDataset) (id : DatasetId) (tie : ℕ)
  | registerPredictorVariable (c : RegisterPredictorVariable) (id : PredictorVariableId)
  | createVariableSelection (c : CreateVariableSelection) (id : VariableSelectionId)
  | confirmVariableSelection (c : ConfirmVariableSelection)
  | scheduleAcquisitionJob (c : ScheduleAcquisitionJob) (id : AcquisitionJobId)
  | executeAcquisitionJob (w : World) (c : ExecuteAcquisitionJob) (id : DatasetId) (tie : ℕ)
      (finished : Timestamp)

namespace Db

/-- A transaction that raises leaves the tables as they were. -/
def commit {α : Type} (db : Db) (r : Except AcquisitionError (Db × α)) : Db :=
  match r with
  | .error _ => db
  | .ok (db, _) => db

/-- One command after the other, each at its time. A draw in use is no step. -/
def step (db : Db) : Timestamp × Command → Db
  | (now, .registerDatasetSource c id) =>
    if (db.datasetSources.get id).isSome then db
    else db.commit (DataAcquisition.registerDatasetSource c id now db)
  | (now, .catalogDataset c id) =>
    if (db.datasets.get id).isSome then db
    else db.commit (DataAcquisition.catalogDataset c id now db)
  | (now, .reviseDataset c id tie) =>
    if (db.datasets.get id).isSome then db
    else db.commit (DataAcquisition.reviseDataset c id tie now db)
  | (now, .registerPredictorVariable c id) =>
    if (db.predictorVariables.get id).isSome then db
    else db.commit (DataAcquisition.registerPredictorVariable c id now db)
  | (now, .createVariableSelection c id) =>
    if (db.variableSelections.get id).isSome then db
    else db.commit (DataAcquisition.createVariableSelection c id now db)
  | (now, .confirmVariableSelection c) =>
    db.commit (DataAcquisition.confirmVariableSelection c now db)
  | (now, .scheduleAcquisitionJob c id) =>
    if (db.acquisitionJobs.get id).isSome then db
    else db.commit (DataAcquisition.scheduleAcquisitionJob c id now db)
  | (now, .executeAcquisitionJob w c id tie finished) =>
    if (db.datasets.get id).isSome then db
    else (DataAcquisition.executeAcquisitionJob w c id tie now finished db).1

end Db

end GeoRisk.DataAcquisition
