import Mathlib
import GeoRisk.DataAcquisition.Storage
import GeoRisk.Geospatial.Geometry
import GeoRisk.Lib.Results
import GeoRisk.Lib.Table
import GeoRisk.Lib.Traces

/-! The `AreaOfInterest` aggregate, its table, and the one command on it. The command reads the active
    area of its assessment; if there is none it defines version 1, and otherwise the version after
    the one it has read, which it supersedes in the same transaction:

        active? ─┬─ none ──▶ commit: insert version 1
                 ├─ v ─────▶ commit: supersede v, insert version v + 1
                 └─ two ───▶ raises                                                             -/

namespace GeoRisk.Geospatial

open DataAcquisition (fits fitsInteger storable finite)

structure AoiId where
  value : UUID
  deriving DecidableEq

instance : ToString AoiId := ⟨fun i => UUID.str i.value⟩

inductive AoiSource where
  | drawn | geojsonUpload | kmlUpload | shapefile | rectangle | search
  deriving DecidableEq

def AoiSource.value : AoiSource → String
  | .drawn => "DRAWN"
  | .geojsonUpload => "GEOJSON_UPLOAD"
  | .kmlUpload => "KML_UPLOAD"
  | .shapefile => "SHAPEFILE"
  | .rectangle => "RECTANGLE"
  | .search => "SEARCH"

/-- `AoiSource(value)`. -/
def AoiSource.ofValue (value : String) : Except GeospatialError AoiSource :=
  match [AoiSource.drawn, .geojsonUpload, .kmlUpload, .shapefile, .rectangle, .search].find?
      (·.value = value) with
  | some source => .ok source
  | none => .error ⟨.valueError, pyRepr value ++ " is not a valid AoiSource"⟩

inductive AoiStatus where | active | superseded
  deriving DecidableEq

structure AoiMetadata where
  name : String
  source : AoiSource
  notes : String := ""
  deriving DecidableEq

structure AreaOfInterest where
  id : AoiId
  tenantId : TenantId
  assessmentId : Spelled UUID
  version : ℕ
  status : AoiStatus
  geometry : Geometry
  metadata : AoiMetadata
  areaM2 : PyFloat
  perimeterM : PyFloat
  centroid : Centroid
  bbox : BoundingBox
  createdBy : String
  createdAt : Timestamp

/-! ### Domain events -/

structure AoiAttached where
  aoiId : AoiId
  tenantId : TenantId
  assessmentId : String
  version : ℕ

structure AoiRevised where
  aoiId : AoiId
  tenantId : TenantId
  assessmentId : String
  version : ℕ
  supersededAoiId : AoiId

inductive GeospatialEvent where
  | attached (e : AoiAttached)
  | revised (e : AoiRevised)

namespace AreaOfInterest

/-- A first version, under a fresh `id`. -/
def define (math : Trig) (id : AoiId) (tenantId : TenantId) (assessmentId : Spelled UUID)
    (geometry : Geometry) (metadata : AoiMetadata) (createdBy : String) (now : Timestamp) :
    Except GeospatialError (AreaOfInterest × AoiAttached) := do
  let stats ← computeAoiStatistics math geometry
  return ({ id, tenantId, assessmentId, version := 1, status := .active, geometry, metadata
            areaM2 := stats.areaM2, perimeterM := stats.perimeterM, centroid := stats.centroid
            bbox := stats.bbox, createdBy, createdAt := now },
          { aoiId := id, tenantId, assessmentId := assessmentId.text, version := 1 })

/-- The version after `previous`, under a fresh `id`. -/
def revise (math : Trig) (id : AoiId) (previous : AreaOfInterest) (geometry : Geometry)
    (metadata : AoiMetadata) (createdBy : String) (now : Timestamp) :
    Except GeospatialError (AreaOfInterest × AoiRevised) := do
  let stats ← computeAoiStatistics math geometry
  return ({ id, tenantId := previous.tenantId, assessmentId := previous.assessmentId
            version := previous.version + 1, status := .active, geometry, metadata
            areaM2 := stats.areaM2, perimeterM := stats.perimeterM, centroid := stats.centroid
            bbox := stats.bbox, createdBy, createdAt := now },
          { aoiId := id, tenantId := previous.tenantId, assessmentId := previous.assessmentId.text
            version := previous.version + 1, supersededAoiId := previous.id })

def markSuperseded (self : AreaOfInterest) : AreaOfInterest := { self with status := .superseded }

/-- The row of an area: its assessment is stored as a UUID, and read back in canonical spelling. -/
def toRow (self : AreaOfInterest) : AreaOfInterest :=
  { self with assessmentId := ⟨UUID.str self.assessmentId.id, self.assessmentId.id⟩ }

/-- Every column can hold its value. -/
def storable (self : AreaOfInterest) : Bool :=
  fitsInteger self.version && fits 200 self.metadata.name &&
    DataAcquisition.storable self.metadata.notes && fits 200 self.createdBy &&
    self.geometry.geojson.rings.all (fun ring => ring.all fun p => finite p.1 && finite p.2)

end AreaOfInterest

/-! ### The table -/

/-- What an area is an area of. -/
structure AoiKey where
  tenantId : TenantId
  assessmentId : UUID
  deriving DecidableEq

def AreaOfInterest.key (self : AreaOfInterest) : AoiKey := ⟨self.tenantId, self.assessmentId.id⟩

structure Db where
  aois : Lib.Table AreaOfInterest.id
  outbox : List (OutboxEvent GeospatialEvent)

namespace Db

def empty : Db := ⟨.empty, []⟩

/-- The areas of an assessment, in the order of their rows. -/
def areas (k : AoiKey) (db : Db) : List AreaOfInterest := db.aois.rows.filter (·.key = k)

/-- `scalar_one_or_none` of the active areas of an assessment. -/
def getActiveForAssessment (k : AoiKey) (db : Db) :
    Except GeospatialError (Option AreaOfInterest) :=
  match (db.areas k).filter (·.status = .active) with
  | [] => .ok none
  | [aoi] => .ok (some aoi)
  | _ => .error ⟨.multipleResultsFound, "Multiple rows were found when one or none was required"⟩

/-- The update of an area loaded before: of its columns only the status differs. A row that is gone
    fails the transaction. -/
def supersede (previous : AreaOfInterest) (db : Db) : Option Db :=
  (db.aois.get previous.id).map fun current =>
    { db with aois := db.aois.put current.markSuperseded }

/-- The insert of a new area with its event; its primary key must be free and its columns fit. -/
def insert (aoi : AreaOfInterest) (event : GeospatialEvent) (now : Timestamp) (db : Db) :
    Option Db :=
  if (db.aois.get aoi.id).isSome || !aoi.storable then none
  else some {
    aois := db.aois.put aoi.toRow
    outbox := appendEvent db.outbox "AreaOfInterest" (UUID.str aoi.id.value) event
      (some aoi.tenantId) now }

/-- What the command writes. -/
def save (previous : Option AreaOfInterest) (aoi : AreaOfInterest) (event : GeospatialEvent)
    (now : Timestamp) (db : Db) : Option Db :=
  match previous with
  | none => db.insert aoi event now
  | some p => (db.supersede p).bind (Db.insert aoi event now)

end Db

/-! ### The command -/

structure DefineOrReviseAoi where
  tenantId : TenantId
  assessmentId : Spelled UUID
  source : String
  geojson : GeoJson
  name : String
  notes : String
  issuedBy : String

def DefineOrReviseAoi.key (c : DefineOrReviseAoi) : AoiKey := ⟨c.tenantId, c.assessmentId.id⟩

/-- The new area and its event, over the area that is read as active. -/
def nextArea (math : Trig) (c : DefineOrReviseAoi) (id : AoiId) (geometry : Geometry)
    (metadata : AoiMetadata) (existing : Option AreaOfInterest) (now : Timestamp) :
    Except GeospatialError (AreaOfInterest × GeospatialEvent) :=
  match existing with
  | none => do
    let (aoi, event) ← AreaOfInterest.define math id c.tenantId c.assessmentId geometry metadata
      c.issuedBy now
    return (aoi, .attached event)
  | some previous => do
    let (aoi, event) ← AreaOfInterest.revise math id previous geometry metadata c.issuedBy now
    return (aoi, .revised event)

/-- The handler up to its writes: what it has read as active, the new area and its event. -/
def DefineOrReviseAoi.run (math : Trig) (c : DefineOrReviseAoi) (id : AoiId) (now : Timestamp)
    (db : Db) : Except GeospatialError (Option AreaOfInterest × AreaOfInterest × GeospatialEvent) := do
  let geometry ← Geometry.create c.geojson
  let source ← AoiSource.ofValue c.source
  let existing ← db.getActiveForAssessment c.key
  let next ← nextArea math c id geometry { name := c.name, source, notes := c.notes } existing now
  return (existing, next)

abbrev AoiTxn := Lib.Txn Db Timestamp (Except GeospatialError AreaOfInterest)

/-- `DefineOrReviseAoiHandler.handle`. -/
def defineOrReviseTxn (math : Trig) (c : DefineOrReviseAoi) (id : AoiId) : AoiTxn :=
  .query fun now db =>
    match c.run math id now db with
    | .error e => .rollback (.error e)
    | .ok (existing, aoi, event) => .commit (Db.save existing aoi event now) (.ok aoi)

/-! ### What the command commits -/

section Spec

variable {math : Trig} {c : DefineOrReviseAoi} {id : AoiId} {now : Timestamp} {db db' : Db}
  {geometry : Geometry} {metadata : AoiMetadata} {existing : Option AreaOfInterest}
  {aoi : AreaOfInterest} {event : GeospatialEvent} {k : AoiKey}

/-- The version after the one read as active. -/
def versionAfter (existing : Option AreaOfInterest) : ℕ := (existing.elim 0 (·.version)) + 1

theorem nextArea_ok (hkey : ∀ p, existing = some p → p.key = c.key)
    (h : nextArea math c id geometry metadata existing now = .ok (aoi, event)) :
    aoi.id = id ∧ aoi.key = c.key ∧ aoi.status = .active ∧ aoi.version = versionAfter existing := by
  unfold nextArea at h
  cases existing with
  | none =>
    obtain ⟨⟨a, e⟩, hdef, hret⟩ := Lib.bind_ok.mp h
    obtain ⟨stats, -, hpair⟩ := Lib.bind_ok.mp hdef
    cases hpair; cases hret
    exact ⟨rfl, rfl, rfl, rfl⟩
  | some p =>
    obtain ⟨⟨a, e⟩, hrev, hret⟩ := Lib.bind_ok.mp h
    obtain ⟨stats, -, hpair⟩ := Lib.bind_ok.mp hrev
    cases hpair; cases hret
    exact ⟨rfl, hkey p rfl, rfl, rfl⟩

/-- What is read as active. -/
theorem getActive_ok (h : db.getActiveForAssessment k = .ok existing) :
    (db.areas k).filter (·.status = .active) = existing.toList := by
  unfold Db.getActiveForAssessment at h
  split at h
  · next heq => cases h; exact heq
  · next heq => cases h; exact heq
  · cases h

theorem getActive_mem {p : AreaOfInterest} (h : db.getActiveForAssessment k = .ok (some p)) :
    p ∈ db.aois.rows ∧ p.key = k ∧ p.status = .active := by
  have hp : p ∈ (db.areas k).filter (·.status = .active) := by rw [getActive_ok h]; simp
  obtain ⟨hp, hs⟩ := List.mem_filter.mp hp
  obtain ⟨hp, hk⟩ := List.mem_filter.mp hp
  exact ⟨hp, by simpa using hk, by simpa using hs⟩

/-- How the command ends: with the area after the one it has read as active. -/
structure Commits (c : DefineOrReviseAoi) (id : AoiId) (reads : List (Timestamp × Db))
    (write : Db → Option Db) : Prop where
  reads : ∃ now db existing aoi event, reads = [(now, db)] ∧
    db.getActiveForAssessment c.key = .ok existing ∧ aoi.id = id ∧ aoi.key = c.key ∧
    aoi.status = .active ∧ aoi.version = versionAfter existing ∧
    write = Db.save existing aoi event now

theorem defineOrReviseTxn_ends (math : Trig) (c : DefineOrReviseAoi) (id : AoiId) :
    (defineOrReviseTxn math c id).Ends (fun reads write _ => Commits c id reads write)
      (fun _ => True) [] := by
  intro now db
  dsimp only
  cases hrun : c.run math id now db with
  | error e => trivial
  | ok r =>
    obtain ⟨existing, aoi, event⟩ := r
    obtain ⟨geometry, -, hrun⟩ := Lib.bind_ok.mp hrun
    obtain ⟨source, -, hrun⟩ := Lib.bind_ok.mp hrun
    obtain ⟨existing', hread, hrun⟩ := Lib.bind_ok.mp hrun
    obtain ⟨next, hnext, hret⟩ := Lib.bind_ok.mp hrun
    cases hret
    have hkey : ∀ p, existing = some p → p.key = c.key := fun p hp =>
      (getActive_mem (hp ▸ hread)).2.1
    obtain ⟨hid, hk, hs, hv⟩ := nextArea_ok hkey hnext
    exact ⟨now, db, existing, aoi, event, rfl, hread, hid, hk, hs, hv, rfl⟩

end Spec

end GeoRisk.Geospatial
