import Mathlib
import GeoRisk.DataAcquisition.Catalog
import GeoRisk.DataAcquisition.FeatureExtraction
import GeoRisk.DataAcquisition.ShapefileImporter
import GeoRisk.DataAcquisition.Storage

/-! Acquisition jobs: what is scheduled, and what its execution gets from the outside world. Providers,
    the reader of areas of interest, the format checks and the shapefile importer are collaborators
    of the handler, given for one execution by a `World`:

        SCHEDULED ─▶ RUNNING ─▶ area ▶ decode ▶ fetch ▶ check ▶ parse ▶ extract ─▶ COMPLETED
                                 └──────┴────────┴───────┴───────┴───▶ FAILED

    A step of it may also raise, and then the job stays as it is. -/

namespace GeoRisk.DataAcquisition

/-! ### The job -/

inductive AcquisitionJobStatus where
  | scheduled | running | completed | failed
  deriving DecidableEq

def AcquisitionJobStatus.value : AcquisitionJobStatus → String
  | .scheduled => "SCHEDULED"
  | .running => "RUNNING"
  | .completed => "COMPLETED"
  | .failed => "FAILED"

instance : ToString AcquisitionJobStatus := ⟨AcquisitionJobStatus.value⟩

inductive PreprocessingStep where
  | cloudMasking | atmosphericCorrection | radiometricCorrection | reprojection | aoiClipping
  deriving DecidableEq

def acquisitionCapableProviders : List DataProvider :=
  [.copernicus, .googleEarthEngine, .localUpload, .nasa, .usgs]

/-- What a request schedules. -/
structure ScheduleAcquisitionJob where
  tenantId : TenantId
  provider : DataProvider
  sourceReference : String
  format : AcquisitionFormat
  datasetSourceId : DatasetSourceId
  declaredCrs : String
  rawContentBase64 : Option String := none
  remoteSensingSource : Option RemoteSensingSource := none
  aoiId : Option String := none
  temporalStart : Option Timestamp := none
  temporalEnd : Option Timestamp := none
  comparisonTemporalStart : Option Timestamp := none
  comparisonTemporalEnd : Option Timestamp := none
  requestedPreprocessing : List PreprocessingStep := []
  requestedIndices : List SpectralIndex := []
  issuedBy : String := ""

structure AcquisitionJob where
  id : AcquisitionJobId
  tenantId : TenantId
  provider : DataProvider
  sourceReference : String
  format : AcquisitionFormat
  datasetSourceId : DatasetSourceId
  declaredCrs : String
  status : AcquisitionJobStatus
  rawContentBase64 : Option String
  provenance : List ProvenanceEntry
  datasetId : Option DatasetId
  error : Option String
  requestedBy : String
  scheduledAt : Timestamp
  startedAt : Option Timestamp
  completedAt : Option Timestamp
  remoteSensingSource : Option RemoteSensingSource
  aoiId : Option String
  temporalStart : Option Timestamp
  temporalEnd : Option Timestamp
  comparisonTemporalStart : Option Timestamp
  comparisonTemporalEnd : Option Timestamp
  requestedPreprocessing : List PreprocessingStep
  requestedIndices : List SpectralIndex
  appliedPreprocessing : List PreprocessingStep
  extractedFeatures : Option (List (String × PyFloat))
  skippedFeatures : Option (List (String × String))
  shapefileGeometryType : Option String
  shapefileFeatureCount : Option ℤ
  shapefileBoundingBox : Option BoundingBox
  shapefileCrs : Option String
  shapefileAttributes : Option (List (String × Attribute))

structure AcquisitionJobScheduled where
  acquisitionJobId : AcquisitionJobId
  tenantId : TenantId
  provider : DataProvider
  format : AcquisitionFormat

structure AcquisitionJobStarted where
  acquisitionJobId : AcquisitionJobId
  tenantId : TenantId

structure AcquisitionJobCompleted where
  acquisitionJobId : AcquisitionJobId
  tenantId : TenantId
  datasetId : DatasetId

structure AcquisitionJobFailed where
  acquisitionJobId : AcquisitionJobId
  tenantId : TenantId
  error : String

/-! ### The outside world of one execution -/

structure AoiGeometryInfo where
  aoiId : String
  geometry : Json

structure RemoteSensingFetchSpec where
  remoteSensingSource : Option RemoteSensingSource
  declaredCrs : String
  temporalStart : Option Timestamp
  temporalEnd : Option Timestamp
  comparisonTemporalStart : Option Timestamp
  comparisonTemporalEnd : Option Timestamp
  aoiGeometry : Option Json
  requestedPreprocessing : List PreprocessingStep

structure FetchResult where
  success : Bool
  content : Option Bytes
  error : Option String
  appliedPreprocessing : List PreprocessingStep := []
  bandStatistics : Option BandStatistics := none
  comparisonBandStatistics : Option BandStatistics := none
  rasterSkippedReason : Option String := none

/-- `LocalUploadProvider.fetch`. -/
def localUploadFetch : Option Bytes → FetchResult
  | none =>
    { success := false, content := none, error := some "No file content provided for local upload" }
  | some content => { success := true, content := some content, error := none }

/-- What a provider raises: something that `except Exception` catches, or not, as a cancellation. -/
inductive ProviderError where
  | exception (message : String)
  | baseException (message : String)

/-- `repr` of a float, which is plain and short. -/
structure FloatRepr where
  repr : PyFloat → String
  plain : ∀ x, storable (repr x) = true
  short : ∀ x, (repr x).length ≤ 24

/-- `str` of the tuple of four floats. -/
def FloatRepr.boundingBox (r : FloatRepr) : BoundingBox → String
  | (xmin, ymin, xmax, ymax) =>
    s!"({r.repr xmin}, {r.repr ymin}, {r.repr xmax}, {r.repr ymax})"

/-- What the collaborators of the handler do in one execution, exceptions included: the reader of
    areas, base64, the registered provider and its `fetch`, and the libraries that read, compute and
    print. -/
structure World where
  getAoiGeometry : TenantId → String → Except String (Option AoiGeometryInfo)
  b64decode : String → Except String Bytes
  fetch : DataProvider → String → Option Bytes → RemoteSensingFetchSpec →
    Except ProviderError FetchResult
  parsers : Parsers
  gdal : Gdal
  libm : PyFloat.Libm
  floatRepr : FloatRepr

namespace AcquisitionJob

/-- A scheduled job, under a fresh `id`. -/
def schedule (id : AcquisitionJobId) (c : ScheduleAcquisitionJob) (now : Timestamp) :
    Except AcquisitionError (AcquisitionJob × AcquisitionJobScheduled) :=
  if c.provider ∉ acquisitionCapableProviders then
    .error ⟨.invalidAcquisitionJob,
      s!"DataProvider {c.provider} is not an acquisition-capable provider (must be one of " ++
      "['COPERNICUS', 'GOOGLE_EARTH_ENGINE', 'LOCAL_UPLOAD', 'NASA', 'USGS'])"⟩
  else if c.provider = .localUpload ∧ c.rawContentBase64.getD "" = "" then
    .error ⟨.invalidAcquisitionJob, "LOCAL_UPLOAD acquisition jobs require raw_content_base64"⟩
  else if c.provider = .googleEarthEngine ∧ c.remoteSensingSource = none then
    .error ⟨.invalidAcquisitionJob,
      "GOOGLE_EARTH_ENGINE acquisition jobs require remote_sensing_source"⟩
  else if c.provider = .googleEarthEngine ∧ c.aoiId = none then
    .error ⟨.invalidAcquisitionJob,
      "GOOGLE_EARTH_ENGINE acquisition jobs require an aoi_id — reduceRegion/" ++
      "getDownloadURL both need a bounded region, and an unbounded global " ++
      "export is not something this platform allows silently"⟩
  else if c.provider = .googleEarthEngine ∧ c.format ≠ .geotiff then
    .error ⟨.invalidAcquisitionJob,
      "GOOGLE_EARTH_ENGINE acquisition jobs must use format GEOTIFF " ++
      s!"(got {c.format.value}) — Earth Engine fetches always produce raster " ++
      "content, never JSON/GeoJSON/CSV/Shapefile"⟩
  else
    .ok ({
      id, tenantId := c.tenantId, provider := c.provider, sourceReference := c.sourceReference
      format := c.format, datasetSourceId := c.datasetSourceId, declaredCrs := c.declaredCrs
      status := .scheduled, rawContentBase64 := c.rawContentBase64
      provenance := [⟨now, c.issuedBy, "SCHEDULED",
        s!"Acquisition scheduled from {c.provider.value}", some c.sourceReference⟩]
      datasetId := none, error := none, requestedBy := c.issuedBy, scheduledAt := now
      startedAt := none, completedAt := none, remoteSensingSource := c.remoteSensingSource
      aoiId := c.aoiId, temporalStart := c.temporalStart, temporalEnd := c.temporalEnd
      comparisonTemporalStart := c.comparisonTemporalStart
      comparisonTemporalEnd := c.comparisonTemporalEnd
      requestedPreprocessing := c.requestedPreprocessing, requestedIndices := c.requestedIndices
      appliedPreprocessing := [], extractedFeatures := none, skippedFeatures := none
      shapefileGeometryType := none, shapefileFeatureCount := none, shapefileBoundingBox := none
      shapefileCrs := none, shapefileAttributes := none },
      ⟨id, c.tenantId, c.provider, c.format⟩)

def start (self : AcquisitionJob) (now : Timestamp) :
    Except AcquisitionError (AcquisitionJob × AcquisitionJobStarted) :=
  if self.status ≠ .scheduled then
    .error ⟨.illegalAcquisitionJobTransition,
      s!"Cannot start AcquisitionJob {self.id} from status {self.status}"⟩
  else
    .ok ({ self with
      status := .running, startedAt := some now
      provenance := self.provenance ++ [⟨now, "system", "STARTED", "Fetch started", none⟩] },
      ⟨self.id, self.tenantId⟩)

def fail (self : AcquisitionJob) (error : String) (now : Timestamp) :
    Except AcquisitionError (AcquisitionJob × AcquisitionJobFailed) :=
  if self.status ≠ .running then
    .error ⟨.illegalAcquisitionJobTransition,
      s!"Cannot fail AcquisitionJob {self.id} from status {self.status}"⟩
  else
    .ok ({ self with
      status := .failed, completedAt := some now, error := some error
      provenance := self.provenance ++ [⟨now, "system", "FAILED", error, none⟩] },
      ⟨self.id, self.tenantId, error⟩)

end AcquisitionJob

def SHAPEFILE_IMPORTER_VERSION : String := "pyogrio-shapefile-importer-v1"

/-- What the pipeline has got when the dataset is to be catalogued. -/
structure Acquired where
  fetched : FetchResult
  shapefile : Option ShapefileImportResult
  computedFeatures : List (String × PyFloat)
  skippedFeatures : List (String × String)

/-- The description that `complete` gives to its provenance entry. -/
def completionDescription (w : World) (job : AcquisitionJob) (acquired : Acquired) : String :=
  "Fetched, validated, and catalogued successfully" ++
  (if acquired.computedFeatures = [] then ""
    else
      "; extracted features: " ++ reprNames (sortedNames (acquired.computedFeatures.map Prod.fst))) ++
  (match acquired.fetched.rasterSkippedReason with
    | none => ""
    | some warning => s!"; WARNING: {warning}") ++
  (match acquired.shapefile with
    | none => ""
    | some shapefile =>
      s!"; Shapefile import: file={pyRepr job.sourceReference}, " ++
      s!"geometry_type={shapefile.geometryType}, features={shapefile.featureCount}, " ++
      s!"crs={shapefile.crs}, bbox={w.floatRepr.boundingBox shapefile.boundingBox}, " ++
      s!"importer={SHAPEFILE_IMPORTER_VERSION}")

/-- `AcquisitionJob.complete`, with what the handler passes to it. -/
def AcquisitionJob.complete (w : World) (self : AcquisitionJob) (datasetId : DatasetId)
    (acquired : Acquired) (now : Timestamp) :
    Except AcquisitionError (AcquisitionJob × AcquisitionJobCompleted) :=
  if self.status ≠ .running then
    .error ⟨.illegalAcquisitionJobTransition,
      s!"Cannot complete AcquisitionJob {self.id} from status {self.status}"⟩
  else
    .ok ({ self with
      status := .completed, completedAt := some now, datasetId := some datasetId
      appliedPreprocessing := acquired.fetched.appliedPreprocessing
      extractedFeatures :=
        if acquired.computedFeatures = [] then none else some acquired.computedFeatures
      skippedFeatures :=
        if acquired.skippedFeatures = [] then none else some acquired.skippedFeatures
      shapefileGeometryType := acquired.shapefile.map (·.geometryType)
      shapefileFeatureCount := acquired.shapefile.map (·.featureCount)
      shapefileBoundingBox := acquired.shapefile.map (·.boundingBox)
      shapefileCrs := acquired.shapefile.map (·.crs)
      shapefileAttributes := acquired.shapefile.map (·.firstFeatureAttributes)
      provenance := self.provenance ++ [⟨now, "system", "COMPLETED",
        completionDescription w self acquired, some (toString datasetId)⟩] },
      ⟨self.id, self.tenantId, datasetId⟩)

/-! ### The pipeline -/

/-- The pipeline stops: the job is marked as failed, or an exception leaves the handler. -/
inductive Stop where
  | failed (error : String)
  | raised (error : AcquisitionError)

/-- What a collaborator raises where nothing catches it. -/
def raising {α : Type} : Except String α → Except Stop α
  | .ok a => .ok a
  | .error e => .error (.raised ⟨.collaborator, e⟩)

/-- The area of interest, its geometry read before anything is fetched. -/
def readArea (w : World) (job : AcquisitionJob) : Except Stop (Option Json) :=
  match job.aoiId with
  | none => .ok none
  | some aoiId => do
    match ← raising (w.getAoiGeometry job.tenantId aoiId) with
    | none => throw (.failed s!"AreaOfInterest {aoiId} not found")
    | some info => return some info.geometry

/-- The uploaded bytes; an empty text counts as no upload. -/
def uploaded (w : World) (job : AcquisitionJob) : Except Stop (Option Bytes) :=
  match job.rawContentBase64 with
  | none => .ok none
  | some raw => if raw = "" then .ok none else some <$> raising (w.b64decode raw)

def fetchSpec (job : AcquisitionJob) (area : Option Json) : RemoteSensingFetchSpec where
  remoteSensingSource := job.remoteSensingSource
  declaredCrs := job.declaredCrs
  temporalStart := job.temporalStart
  temporalEnd := job.temporalEnd
  comparisonTemporalStart := job.comparisonTemporalStart
  comparisonTemporalEnd := job.comparisonTemporalEnd
  aoiGeometry := area
  requestedPreprocessing := job.requestedPreprocessing

/-- `provider_adapter.fetch`, and its exceptions as failed results. -/
def fetch (w : World) (job : AcquisitionJob) (area : Option Json) (content : Option Bytes) :
    Except Stop FetchResult :=
  match w.fetch job.provider job.sourceReference content (fetchSpec job area) with
  | .ok fetched => .ok fetched
  | .error (.exception e) => .ok { success := false, content := none, error := some e }
  | .error (.baseException e) => .error (.raised ⟨.collaborator, e⟩)

/-- `a or b` of two texts. -/
def orText (a : Option String) (b : String) : String := if a.getD "" = "" then b else a.getD ""

/-- The content is checked, unless the raster was skipped on purpose. -/
def checkContent (w : World) (job : AcquisitionJob) (fetched : FetchResult) : Except Stop Unit :=
  if fetched.success = false then throw (.failed (orText fetched.error "Fetch failed"))
  else
    match fetched.content with
    | none =>
      if fetched.rasterSkippedReason = none then
        throw (.failed (orText fetched.error "Fetch returned no content"))
      else return ()
    | some content => do
      let outcome ← raising (validateDatasetContent w.parsers job.format content job.declaredCrs)
      if outcome.isValid then return ()
      else throw (.failed ("; ".intercalate outcome.errors))

/-- A shapefile is parsed for real. -/
def parseShapefile (w : World) (job : AcquisitionJob) (fetched : FetchResult) :
    Except Stop (Option ShapefileImportResult) :=
  if job.format ≠ .shapefile then return none
  else
    match fetched.content with
    | none => throw (.raised ⟨.assertionError, ""⟩)
    | some content =>
      match parseShapefileArchive w.gdal content with
      | .ok result => return some result
      | .error (.rejected e) => throw (.failed e)
      | .error (.raised e) => throw (.raised ⟨.collaborator, e⟩)

/-- The requested indices, computed or skipped. -/
def extract (w : World) (job : AcquisitionJob) (fetched : FetchResult) :
    Except Stop (List (String × PyFloat) × List (String × String)) :=
  match job.requestedIndices, job.remoteSensingSource with
  | [], _ => return ([], [])
  | _, none => return ([], [])
  | indices, some source =>
    match fetched.bandStatistics with
    | some statistics =>
      raising (extractFeatures w.libm source statistics indices fetched.comparisonBandStatistics)
    | none => return ([], indices.foldl (fun d index =>
        setItem d index.value "provider returned no band statistics") [])

/-- Everything between the two transactions of an execution. -/
def acquire (w : World) (job : AcquisitionJob) : Except Stop Acquired := do
  let area ← readArea w job
  let content ← uploaded w job
  let fetched ← fetch w job area content
  checkContent w job fetched
  let shapefile ← parseShapefile w job fetched
  let (computedFeatures, skippedFeatures) ← extract w job fetched
  return ⟨fetched, shapefile, computedFeatures, skippedFeatures⟩

/-- `_DATASET_TYPE_BY_ACQUISITION_FORMAT`. -/
def datasetTypeByAcquisitionFormat : AcquisitionFormat → DatasetType
  | .geojson => .vector
  | .shapefile => .vector
  | .geotiff => .raster
  | .csv => .tabular
  | .json => .tabular

/-- A day has 86 400 000 000 microseconds. -/
def dayOf (now : Timestamp) : Day := now / 86400000000

/-- The spatial coverage of a completed job: the bounding box of its shapefile. -/
def spatialCoverage (w : World) : Option ShapefileImportResult → String
  | some shapefile => s!"BBOX{w.floatRepr.boundingBox shapefile.boundingBox} in {shapefile.crs}"
  | none => "Not derived — Sprint 13's Dataset Validation is structural " ++
      "(format/CRS), not full geospatial extent computation"

/-- `_metadata_for_completed_job`. -/
def metadataForCompletedJob (w : World) (job : AcquisitionJob)
    (shapefile : Option ShapefileImportResult) (now : Timestamp) :
    Except AcquisitionError DatasetMetadata :=
  DatasetMetadata.make {
    name := job.sourceReference
    datasetType := datasetTypeByAcquisitionFormat job.format
    source := s!"AcquisitionJob {job.id} via {job.provider.value}"
    provider := job.provider
    acquisitionDate := dayOf now
    spatialResolutionM := none
    temporalResolution := none
    crs := (shapefile.map (·.crs)).getD job.declaredCrs
    spatialCoverage := spatialCoverage w shapefile
    temporalCoverage := ⟨now, now, le_rfl⟩
    processingMethod := .raw
    modelUsed := none }

end GeoRisk.DataAcquisition
