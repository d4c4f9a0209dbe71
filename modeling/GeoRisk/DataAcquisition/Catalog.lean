import Mathlib
import GeoRisk.SharedKernel

/-! The catalog of the data acquisition context: sources, datasets in versions, predictor variables
    and selections of them. A revision makes a new dataset and leaves the old one superseded:

        catalog ─▶ 1 CATALOGUED
        revise  ─▶ 1 SUPERSEDED ◀─ 2 CATALOGUED
        revise  ─▶ 1 SUPERSEDED ◀─ 2 SUPERSEDED ◀─ 3 CATALOGUED

    where each provenance is the one before and an entry that names the dataset it comes from. -/

namespace GeoRisk.DataAcquisition

/-! ### Identifiers and enumerations -/

structure DatasetSourceId where
  value : UUID
  deriving DecidableEq

structure DatasetId where
  value : UUID
  deriving DecidableEq

structure PredictorVariableId where
  value : UUID
  deriving DecidableEq

structure VariableSelectionId where
  value : UUID
  deriving DecidableEq

structure AcquisitionJobId where
  value : UUID
  deriving DecidableEq

instance : ToString DatasetSourceId := ⟨fun i => UUID.str i.value⟩
instance : ToString DatasetId := ⟨fun i => UUID.str i.value⟩
instance : ToString PredictorVariableId := ⟨fun i => UUID.str i.value⟩
instance : ToString VariableSelectionId := ⟨fun i => UUID.str i.value⟩
instance : ToString AcquisitionJobId := ⟨fun i => UUID.str i.value⟩

inductive DataProvider where
  | chirps | era5 | modis | sentinel | landsat | smap | viirs | grace | gpm | era5Land | merra2
  | ncep | cru | worldclim | userUpload | sensor | manual | other | googleEarthEngine | usgs | nasa
  | copernicus | localUpload
  deriving DecidableEq

def DataProvider.value : DataProvider → String
  | .chirps => "CHIRPS"
  | .era5 => "ERA5"
  | .modis => "MODIS"
  | .sentinel => "SENTINEL"
  | .landsat => "LANDSAT"
  | .smap => "SMAP"
  | .viirs => "VIIRS"
  | .grace => "GRACE"
  | .gpm => "GPM"
  | .era5Land => "ERA5_LAND"
  | .merra2 => "MERRA2"
  | .ncep => "NCEP"
  | .cru => "CRU"
  | .worldclim => "WORLDCLIM"
  | .userUpload => "USER_UPLOAD"
  | .sensor => "SENSOR"
  | .manual => "MANUAL"
  | .other => "OTHER"
  | .googleEarthEngine => "GOOGLE_EARTH_ENGINE"
  | .usgs => "USGS"
  | .nasa => "NASA"
  | .copernicus => "COPERNICUS"
  | .localUpload => "LOCAL_UPLOAD"

instance : ToString DataProvider := ⟨DataProvider.value⟩

inductive DatasetType where
  | raster | vector | tabular | timeSeries | pointObservations
  deriving DecidableEq

inductive TemporalResolution where
  | subDaily | daily | weekly | dekadal | monthly | seasonal | annual | static
  deriving DecidableEq

inductive ProcessingMethod where
  | raw | cloudMasked | composited | derivedIndex | aggregated | other
  deriving DecidableEq

inductive DatasetStatus where
  | catalogued | superseded | archived
  deriving DecidableEq

inductive DatasetReadinessTag where
  | mlrReady | correlationReady
  deriving DecidableEq

inductive VariableCategory where
  | vegetationAndFuel | surfaceEnergy | meteorological | terrain | soilMoisture | humanInfluence
  | drought | other
  deriving DecidableEq

inductive VariableRole where
  | dependent | independent | derived | control
  deriving DecidableEq

def VariableRole.value : VariableRole → String
  | .dependent => "DEPENDENT"
  | .independent => "INDEPENDENT"
  | .derived => "DERIVED"
  | .control => "CONTROL"

inductive VariableDataType where
  | continuous | categorical | binary | ordinal
  deriving DecidableEq

inductive VariableSelectionStatus where
  | draft | confirmed
  deriving DecidableEq

def VariableSelectionStatus.value : VariableSelectionStatus → String
  | .draft => "DRAFT"
  | .confirmed => "CONFIRMED"

/-! ### Errors and events -/

/-- `dataError` is what the database raises for a text that its column does not hold, `collaborator`
    whatever an injected collaborator raises. -/
inductive AcquisitionErrorKind where
  | datasetSourceNotFound | datasetNotFound | variableSelectionNotFound | invalidVariableSelection
  | acquisitionJobNotFound | invalidAcquisitionJob | illegalAcquisitionJobTransition
  | valueError | assertionError | dataError | collaborator
  deriving DecidableEq

structure AcquisitionError where
  kind : AcquisitionErrorKind
  message : String
  deriving DecidableEq

structure DatasetSourceRegistered where
  datasetSourceId : DatasetSourceId
  tenantId : Option TenantId
  name : String
  provider : DataProvider

structure DatasetCatalogued where
  datasetId : DatasetId
  tenantId : TenantId
  name : String
  version : ℕ

structure DatasetRevised where
  datasetId : DatasetId
  tenantId : TenantId
  version : ℕ
  supersededDatasetId : DatasetId

structure PredictorVariableRegistered where
  predictorVariableId : PredictorVariableId
  tenantId : Option TenantId
  name : String
  category : VariableCategory

structure VariableSelectionCreated where
  variableSelectionId : VariableSelectionId
  tenantId : TenantId
  name : String
  variableCount : ℕ

structure VariableSelectionConfirmed where
  variableSelectionId : VariableSelectionId
  tenantId : TenantId

/-! ### Metadata and provenance -/

/-- A range of time, never reversed. -/
structure DateRange where
  start : Timestamp
  stop : Timestamp
  ordered : start ≤ stop
  deriving DecidableEq

def DateRange.make (start stop : Timestamp) : Except AcquisitionError DateRange :=
  if h : start ≤ stop then .ok ⟨start, stop, h⟩
  else .error ⟨.valueError, s!"DateRange start ({start}) is after end ({stop})"⟩

/-- The day of a `date`. -/
abbrev Day := ℕ

structure DatasetMetadata where
  name : String
  datasetType : DatasetType
  source : String
  provider : DataProvider
  acquisitionDate : Day
  spatialResolutionM : Option PyFloat
  temporalResolution : Option TemporalResolution
  crs : String
  spatialCoverage : String
  temporalCoverage : DateRange
  processingMethod : ProcessingMethod
  modelUsed : Option String
  name_not_blank : isBlank name = false
  crs_not_blank : isBlank crs = false
  deriving DecidableEq

/-- The fields of the metadata, before `__post_init__` has looked at them. -/
structure MetadataFields where
  name : String
  datasetType : DatasetType
  source : String
  provider : DataProvider
  acquisitionDate : Day
  spatialResolutionM : Option PyFloat
  temporalResolution : Option TemporalResolution
  crs : String
  spatialCoverage : String
  temporalCoverage : DateRange
  processingMethod : ProcessingMethod
  modelUsed : Option String

def DatasetMetadata.make (fields : MetadataFields) : Except AcquisitionError DatasetMetadata :=
  if hname : isBlank fields.name = false then
    if hcrs : isBlank fields.crs = false then
      .ok { fields with name_not_blank := hname, crs_not_blank := hcrs }
    else .error ⟨.valueError, "DatasetMetadata.crs must not be blank"⟩
  else .error ⟨.valueError, "DatasetMetadata.name must not be blank"⟩

theorem DatasetMetadata.make_ok {fields : MetadataFields} {metadata : DatasetMetadata} :
    DatasetMetadata.make fields = .ok metadata ↔
      ∃ (hname : isBlank fields.name = false) (hcrs : isBlank fields.crs = false),
        metadata = { fields with name_not_blank := hname, crs_not_blank := hcrs } := by
  unfold DatasetMetadata.make
  constructor
  · intro h
    split at h
    · next hname =>
      split at h
      · next hcrs => exact ⟨hname, hcrs, (Except.ok.inj h).symm⟩
      · cases h
    · cases h
  · rintro ⟨hname, hcrs, rfl⟩
    rw [dif_pos hname, dif_pos hcrs]

theorem DatasetMetadata.name_of_make {fields : MetadataFields} {metadata : DatasetMetadata}
    (h : DatasetMetadata.make fields = .ok metadata) : metadata.name = fields.name := by
  obtain ⟨hname, hcrs, rfl⟩ := DatasetMetadata.make_ok.mp h
  rfl

structure ProvenanceEntry where
  timestamp : Timestamp
  actor : String
  action : String
  description : String
  sourceReference : Option String
  deriving DecidableEq

/-! ### Sources -/

structure DatasetSource where
  id : DatasetSourceId
  tenantId : Option TenantId
  name : String
  provider : DataProvider
  description : String
  isActive : Bool
  createdBy : String
  createdAt : Timestamp
  deriving DecidableEq

/-- A new source, under a fresh `id`. -/
def DatasetSource.register (id : DatasetSourceId) (tenantId : Option TenantId) (name : String)
    (provider : DataProvider) (description createdBy : String) (now : Timestamp) :
    DatasetSource × DatasetSourceRegistered :=
  ({ id, tenantId, name, provider, description, isActive := true, createdBy, createdAt := now },
    ⟨id, tenantId, name, provider⟩)

/-! ### Datasets -/

structure Dataset where
  id : DatasetId
  tenantId : TenantId
  datasetSourceId : DatasetSourceId
  version : ℕ
  status : DatasetStatus
  metadata : DatasetMetadata
  provenance : List ProvenanceEntry
  readiness : Finset DatasetReadinessTag
  cataloguedBy : String
  createdAt : Timestamp
  deriving DecidableEq

namespace Dataset

/-- The first version, under a fresh `id`. -/
def catalog (id : DatasetId) (tenantId : TenantId) (datasetSourceId : DatasetSourceId)
    (metadata : DatasetMetadata) (readiness : Finset DatasetReadinessTag) (cataloguedBy : String)
    (now : Timestamp) : Dataset × DatasetCatalogued :=
  ({ id, tenantId, datasetSourceId, version := 1, status := .catalogued, metadata
     provenance := [⟨now, cataloguedBy, "CATALOGUED",
       s!"Initial cataloguing of {pyRepr metadata.name}", none⟩]
     readiness, cataloguedBy, createdAt := now },
    ⟨id, tenantId, metadata.name, 1⟩)

/-- The next version, under a fresh `id`. -/
def revise (previous : Dataset) (id : DatasetId) (metadata : DatasetMetadata)
    (readiness : Finset DatasetReadinessTag) (description cataloguedBy : String)
    (now : Timestamp) : Dataset × DatasetRevised :=
  ({ id, tenantId := previous.tenantId, datasetSourceId := previous.datasetSourceId
     version := previous.version + 1, status := .catalogued, metadata
     provenance := previous.provenance ++
       [⟨now, cataloguedBy, "REVISED", description, some (toString previous.id)⟩]
     readiness, cataloguedBy, createdAt := now },
    ⟨id, previous.tenantId, previous.version + 1, previous.id⟩)

def markSuperseded (self : Dataset) : Dataset := { self with status := .superseded }

@[simp] theorem markSuperseded_id (d : Dataset) : d.markSuperseded.id = d.id := rfl

@[simp] theorem markSuperseded_version (d : Dataset) : d.markSuperseded.version = d.version := rfl

end Dataset

/-! ### Variables and selections -/

structure PredictorVariable where
  id : PredictorVariableId
  tenantId : Option TenantId
  name : String
  code : String
  category : VariableCategory
  variableRole : VariableRole
  dataType : VariableDataType
  unit : String
  valueMin : Option PyFloat
  valueMax : Option PyFloat
  isRequiredForMlr : Bool
  linkedDatasetId : Option DatasetId
  isActive : Bool
  createdBy : String
  createdAt : Timestamp
  deriving DecidableEq

structure VariableSelection where
  id : VariableSelectionId
  tenantId : TenantId
  name : String
  hazardType : Option String
  selectedVariableIds : List PredictorVariableId
  status : VariableSelectionStatus
  createdBy : String
  createdAt : Timestamp
  deriving DecidableEq

namespace VariableSelection

/-- A draft selection, under a fresh `id`. -/
def create (id : VariableSelectionId) (tenantId : TenantId) (name : String)
    (hazardType : Option String) (selectedVariableIds : List PredictorVariableId)
    (createdBy : String) (now : Timestamp) :
    Except AcquisitionError (VariableSelection × VariableSelectionCreated) :=
  if selectedVariableIds = [] then
    .error ⟨.invalidVariableSelection,
      "VariableSelection must select at least one PredictorVariable"⟩
  else
    .ok ({ id, tenantId, name, hazardType, selectedVariableIds, status := .draft, createdBy
           createdAt := now },
      ⟨id, tenantId, name, selectedVariableIds.length⟩)

def confirm (self : VariableSelection) : VariableSelection × VariableSelectionConfirmed :=
  ({ self with status := .confirmed }, ⟨self.id, self.tenantId⟩)

end VariableSelection

end GeoRisk.DataAcquisition
