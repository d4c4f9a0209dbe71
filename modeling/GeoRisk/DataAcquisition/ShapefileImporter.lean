import Mathlib
import GeoRisk.DataAcquisition.ContentValidation

/-! The import of a shapefile archive, which GDAL reads and whose geometries `shapely` decodes. What
    GDAL raises is wrapped into an error of the importer; what comes after it is not:

        read_info   number of features, CRS │ read   geometries   field data │ bounds
            │              │                │  │         │            │      │   │
        corrupted     empty, CRS        corrupted     untyped      untyped     untyped -/

namespace GeoRisk.DataAcquisition

/-- Lower-left and upper-right corner. -/
abbrev BoundingBox := PyFloat × PyFloat × PyFloat × PyFloat

/-- A value of a row of attributes: one that JSON has, or a date, a time or bytes. -/
inductive Attribute where
  | json (value : Json)
  | other (typeName : String)

/-- What `pyogrio.read_info` says of an archive; it may find no bounds. -/
structure ShapefileInfo where
  features : ℤ
  crs : Option String
  fields : List String
  totalBounds : Option BoundingBox

/-- What `pyogrio.raw.read` reads: a geometry for each feature, which may be null, and for each field
    its column. -/
structure ShapefileData where
  geometries : List (Option Bytes)
  fieldData : List (List Attribute)

/-- `pyogrio` and `shapely`: `geomType` is `shapely.wkb.loads(wkb).geom_type`. -/
structure Gdal where
  readInfo : Bytes → Except String ShapefileInfo
  read : Bytes → Except String ShapefileData
  geomType : Option Bytes → Except String String

structure ShapefileImportResult where
  geometryType : String
  featureCount : ℤ
  boundingBox : BoundingBox
  crs : String
  fieldNames : List String
  firstFeatureAttributes : List (String × Attribute)

/-- How an import can fail: with one of the four errors of the importer, or with another exception. -/
inductive ImportError where
  | rejected (message : String)
  | raised (message : String)

/-- `repr` of a list of texts. -/
def reprNames (names : List String) : String := "[" ++ ", ".intercalate (names.map pyRepr) ++ "]"

/-- `sorted` on texts. -/
def sortedNames (names : List String) : List String := names.insertionSort (· ≤ ·)

/-- `_SUPPORTED_GEOMETRY_TYPES`. -/
def supportedGeometryTypes : List String :=
  ["Point", "MultiPoint", "LineString", "MultiLineString", "Polygon", "MultiPolygon"]

def assertFeatures (info : ShapefileInfo) : Except ImportError Unit :=
  if info.features = 0 then
    throw (.rejected "Shapefile archive parses cleanly but contains zero features")
  else return ()

/-- The CRS of the archive, if it has one that is supported. -/
def importedCrs (info : ShapefileInfo) : Except ImportError String :=
  let crs := info.crs.getD ""
  if crs = "" then
    throw (.rejected ("Could not resolve a coordinate reference system from the .prj component " ++
      "(missing, empty, or GDAL could not parse its WKT)"))
  else if validateCrs crs ≠ [] then
    let errors := "; ".intercalate (validateCrs crs)
    throw (.rejected s!"Shapefile CRS {pyRepr crs} resolved but is not supported: {errors}")
  else return crs

/-- The one type of all geometries. -/
def importedGeometryType (gdal : Gdal) (geometries : List (Option Bytes)) :
    Except ImportError String := do
  match ← geometries.mapM fun wkb => (gdal.geomType wkb).mapError .raised with
  | [] => throw (.raised "StopIteration")
  | first :: types =>
    if types.any (· ≠ first) then
      let names := reprNames (sortedNames (first :: types).dedup)
      throw (.rejected s!"Shapefile features disagree on geometry type: {names}")
    else if first ∉ supportedGeometryTypes then
      let names := reprNames (sortedNames supportedGeometryTypes)
      throw (.rejected
        s!"Geometry type {pyRepr first} is not supported (supported: {names})")
    else return first

/-- The first value of each column, under the names of the fields. -/
def firstRow : List String → List (List Attribute) → Except ImportError (List (String × Attribute))
  | [], _ => return []
  | field :: fields, column :: columns =>
    match column with
    | [] => throw (.raised "index 0 is out of bounds for axis 0 with size 0")
    | value :: _ => return (field, value) :: (← firstRow fields columns)
  | _ :: _, [] => throw (.raised "list index out of range")

/-- What follows once GDAL has read everything. -/
def importRead (gdal : Gdal) (info : ShapefileInfo) (crs : String) (data : ShapefileData) :
    Except ImportError ShapefileImportResult := do
  let geometryType ← importedGeometryType gdal data.geometries
  let row ← firstRow info.fields data.fieldData
  match info.totalBounds with
  | none => throw (.raised "'NoneType' object is not iterable")
  | some boundingBox =>
    return {
      geometryType, featureCount := info.features, boundingBox, crs, fieldNames := info.fields
      firstFeatureAttributes := row.foldl (fun d p => setItem d p.1 p.2) [] }

def parseShapefileArchive (gdal : Gdal) (content : Bytes) :
    Except ImportError ShapefileImportResult := do
  let info ← (gdal.readInfo content).mapError fun e =>
    .rejected s!"Could not parse Shapefile archive: {e}"
  assertFeatures info
  let crs ← importedCrs info
  let data ← (gdal.read content).mapError fun e =>
    .rejected s!"Could not read Shapefile geometries/attributes: {e}"
  importRead gdal info crs data

/-! ### When the import raises -/

/-- What GDAL has read of an archive of supported CRS, which is where exceptions are not caught. -/
structure ReadByGdal (gdal : Gdal) (content : Bytes) (info : ShapefileInfo) (data : ShapefileData) :
    Prop where
  infoRead : gdal.readInfo content = .ok info
  nonempty : info.features ≠ 0
  crs : ∃ crs, info.crs = some crs ∧ crs ≠ "" ∧ validateCrs crs = []
  dataRead : gdal.read content = .ok data

/-- All geometries can be decoded, to the type `geometryType`. -/
def AllOfType (gdal : Gdal) (geometryType : String) (geometries : List (Option Bytes)) : Prop :=
  ∀ wkb ∈ geometries, gdal.geomType wkb = .ok geometryType

/-- Every field has a column with a first value. -/
def HasFirstRow (info : ShapefileInfo) (data : ShapefileData) : Prop :=
  info.fields.length ≤ data.fieldData.length ∧
    ∀ column ∈ data.fieldData.take info.fields.length, column ≠ []

/-- The archives on which the import raises another exception than its own four. -/
inductive ImportRaises (gdal : Gdal) (content : Bytes) : Prop
  | geometry {info : ShapefileInfo} {data : ShapefileData} {wkb : Option Bytes} {message : String}
      (hread : ReadByGdal gdal content info data) (hwkb : wkb ∈ data.geometries)
      (h : gdal.geomType wkb = .error message)
  | noGeometry {info : ShapefileInfo} {data : ShapefileData}
      (hread : ReadByGdal gdal content info data) (h : data.geometries = [])
  | noFirstRow {info : ShapefileInfo} {data : ShapefileData} {geometryType : String}
      (hread : ReadByGdal gdal content info data) (hnonempty : data.geometries ≠ [])
      (htype : AllOfType gdal geometryType data.geometries)
      (hsupported : geometryType ∈ supportedGeometryTypes) (h : ¬ HasFirstRow info data)
  | noBounds {info : ShapefileInfo} {data : ShapefileData} {geometryType : String}
      (hread : ReadByGdal gdal content info data) (hnonempty : data.geometries ≠ [])
      (htype : AllOfType gdal geometryType data.geometries)
      (hsupported : geometryType ∈ supportedGeometryTypes) (h : info.totalBounds = none)

/-- An exception leaves the computation that is none of the importer's own. -/
def Raises {α : Type} (x : Except ImportError α) : Prop := ∃ message, x = .error (.raised message)

section Import

variable {gdal : Gdal} {content : Bytes} {info : ShapefileInfo} {data : ShapefileData}
  {α β : Type}

theorem raises_bind {x : Except ImportError α} {f : α → Except ImportError β} :
    Raises (x >>= f) ↔ Raises x ∨ ∃ a, x = .ok a ∧ Raises (f a) := by
  cases x with
  | error e => simp [Raises, bind, Except.bind]
  | ok a => simp [Raises, bind, Except.bind]

theorem raises_throw {message : String} :
    Raises (throw (.raised message) : Except ImportError α) :=
  ⟨message, rfl⟩

theorem not_raises_wrapped {x : Except String α} {f : String → String} :
    ¬ Raises (x.mapError fun e => .rejected (f e)) := by
  rintro ⟨message, h⟩
  cases x <;> cases h

theorem mapError_ok {x : Except String α} {f : String → ImportError} {a : α} :
    x.mapError f = .ok a ↔ x = .ok a := by
  cases x <;> simp [Except.mapError]

theorem importedCrs_ok {crs : String} :
    importedCrs info = .ok crs ↔ info.crs = some crs ∧ crs ≠ "" ∧ validateCrs crs = [] := by
  unfold importedCrs
  cases hcrs : info.crs with
  | none => simp
  | some text =>
    simp only [Option.getD_some, Option.some.injEq]
    by_cases hempty : text = ""
    · constructor
      · intro h
        rw [if_pos hempty] at h
        cases h
      · rintro ⟨rfl, h, -⟩
        exact absurd hempty h
    · by_cases hvalid : validateCrs text = []
      · simp only [hempty, hvalid, if_false, ne_eq, not_true_eq_false]
        constructor
        · intro h
          cases h
          exact ⟨rfl, hempty, hvalid⟩
        · rintro ⟨rfl, -, -⟩
          rfl
      · simp only [hempty, if_false, ne_eq, hvalid, not_false_eq_true, if_true]
        constructor
        · intro h
          cases h
        · rintro ⟨rfl, -, h⟩
          exact absurd h hvalid

theorem assertFeatures_ok : assertFeatures info = .ok () ↔ info.features ≠ 0 := by
  unfold assertFeatures
  split <;> simp_all [pure, Except.pure]

theorem assertFeatures_not_raises : ¬ Raises (assertFeatures info) := by
  rintro ⟨message, h⟩
  unfold assertFeatures at h
  split at h <;> cases h

theorem importedCrs_not_raises : ¬ Raises (importedCrs info) := by
  rintro ⟨message, h⟩
  unfold importedCrs at h
  dsimp only at h
  split at h
  · cases h
  · split at h <;> cases h

theorem firstRow_raises {fields : List String} {columns : List (List Attribute)} :
    Raises (firstRow fields columns) ↔
      ¬ (fields.length ≤ columns.length ∧ ∀ column ∈ columns.take fields.length, column ≠ []) := by
  induction fields generalizing columns with
  | nil => simp [firstRow, Raises, pure, Except.pure]
  | cons field fields ih =>
    cases columns with
    | nil => simp [firstRow, raises_throw]
    | cons column columns =>
      cases column with
      | nil => simp [firstRow, raises_throw]
      | cons value column =>
        simp only [firstRow, raises_bind, ih]
        simp [Raises, pure, Except.pure]

/-- It raises nothing of the importer's own. -/
theorem raises_of_firstRow {fields : List String} {columns : List (List Attribute)}
    {e : ImportError} (h : firstRow fields columns = .error e) : Raises (firstRow fields columns) := by
  induction fields generalizing columns e with
  | nil => cases h
  | cons field fields ih =>
    cases columns with
    | nil => exact raises_throw
    | cons column columns =>
      cases column with
      | nil => exact raises_throw
      | cons value column =>
        cases hrest : firstRow fields columns with
        | error e => exact raises_bind.mpr (Or.inl (ih hrest))
        | ok rest => simp [firstRow, hrest, bind, Except.bind, pure, Except.pure] at h

theorem importedGeometryType_ok {geometries : List (Option Bytes)} {geometryType : String} :
    importedGeometryType gdal geometries = .ok geometryType ↔
      geometries ≠ [] ∧ AllOfType gdal geometryType geometries ∧
        geometryType ∈ supportedGeometryTypes := by
  unfold importedGeometryType
  rw [Lib.bind_ok]
  constructor
  · rintro ⟨types, htypes, h⟩
    split at h
    · cases h
    · next first rest =>
      split at h
      · cases h
      · next hsame =>
        split at h
        · cases h
        · next hsupported =>
          cases h
          refine ⟨?_, ?_, not_not.mp hsupported⟩
          · rintro rfl
            cases htypes
          · intro wkb hwkb
            obtain ⟨type, htype, hdecoded⟩ := Lib.exists_of_mapM_ok htypes wkb hwkb
            have hfirst : type = geometryType := by
              by_contra hne
              rcases List.mem_cons.mp htype with heq | htype
              · exact hne heq
              · exact hsame (List.any_eq_true.mpr ⟨type, htype, by simpa using hne⟩)
            exact hfirst ▸ mapError_ok.mp hdecoded
  · rintro ⟨hnonempty, htype, hsupported⟩
    refine ⟨geometries.map fun _ => geometryType, ?_, ?_⟩
    · rw [Lib.mapM_ok, List.forall₂_map_right_iff, List.forall₂_same]
      exact fun wkb hwkb => mapError_ok.mpr (htype wkb hwkb)
    · cases geometries with
      | nil => exact absurd rfl hnonempty
      | cons wkb geometries => simp [hsupported, pure, Except.pure]

theorem mapM_raises {geometries : List (Option Bytes)} :
    Raises (geometries.mapM fun wkb => (gdal.geomType wkb).mapError .raised) ↔
      ∃ wkb ∈ geometries, ∃ message, gdal.geomType wkb = .error message := by
  induction geometries with
  | nil => simp [Raises, pure, Except.pure]
  | cons wkb geometries ih =>
    rw [List.mapM_cons, raises_bind]
    simp only [raises_bind, ih, mapError_ok]
    cases htype : gdal.geomType wkb with
    | error message => simp [Raises, Except.mapError, htype]
    | ok type => simp [Raises, Except.mapError, htype, pure, Except.pure]

theorem importedGeometryType_raises {geometries : List (Option Bytes)} :
    Raises (importedGeometryType gdal geometries) ↔
      (∃ wkb ∈ geometries, ∃ message, gdal.geomType wkb = .error message) ∨ geometries = [] := by
  unfold importedGeometryType
  rw [raises_bind, mapM_raises]
  constructor
  · rintro (h | ⟨types, htypes, h⟩)
    · exact Or.inl h
    · split at h
      · cases geometries with
        | nil => exact Or.inr rfl
        | cons wkb geometries => simpa using (Lib.mapM_ok.mp htypes).length_eq
      · obtain ⟨message, h⟩ := h
        split at h
        · cases h
        · split at h <;> cases h
  · rintro (h | rfl)
    · exact Or.inl h
    · exact Or.inr ⟨[], rfl, raises_throw⟩

/-- What is imported has a supported CRS and a supported geometry type. -/
theorem parseShapefileArchive_ok {result : ShapefileImportResult}
    (h : parseShapefileArchive gdal content = .ok result) :
    validateCrs result.crs = [] ∧ result.geometryType ∈ supportedGeometryTypes := by
  obtain ⟨info, -, h⟩ := Lib.bind_ok.mp h
  obtain ⟨-, -, h⟩ := Lib.bind_ok.mp h
  obtain ⟨crs, hcrs, h⟩ := Lib.bind_ok.mp h
  obtain ⟨data, -, h⟩ := Lib.bind_ok.mp h
  obtain ⟨geometryType, htype, h⟩ := Lib.bind_ok.mp h
  obtain ⟨row, -, h⟩ := Lib.bind_ok.mp h
  split at h
  · cases h
  · cases h
    exact ⟨(importedCrs_ok.mp hcrs).2.2, (importedGeometryType_ok.mp htype).2.2⟩

theorem parse_of_read (hread : ReadByGdal gdal content info data) :
    ∃ crs, parseShapefileArchive gdal content = importRead gdal info crs data := by
  obtain ⟨crs, hcrs⟩ := hread.crs
  refine ⟨crs, ?_⟩
  rw [parseShapefileArchive, mapError_ok.mpr hread.infoRead, mapError_ok.mpr hread.dataRead]
  simp only [bind, Except.bind, assertFeatures_ok.mpr hread.nonempty, importedCrs_ok.mpr hcrs]

/-- Whatever it raises, it raises on what GDAL has read. -/
theorem read_of_raises (h : Raises (parseShapefileArchive gdal content)) :
    ∃ info crs data, ReadByGdal gdal content info data ∧ Raises (importRead gdal info crs data) := by
  obtain ⟨info, hinfo, h⟩ := (raises_bind.mp h).resolve_left not_raises_wrapped
  obtain ⟨⟨⟩, hfeatures, h⟩ := (raises_bind.mp h).resolve_left assertFeatures_not_raises
  obtain ⟨crs, hcrs, h⟩ := (raises_bind.mp h).resolve_left importedCrs_not_raises
  obtain ⟨data, hdata, h⟩ := (raises_bind.mp h).resolve_left not_raises_wrapped
  exact ⟨info, crs, data, ⟨mapError_ok.mp hinfo, assertFeatures_ok.mp hfeatures,
    ⟨crs, importedCrs_ok.mp hcrs⟩, mapError_ok.mp hdata⟩, h⟩

/-- The import raises an exception of another kind on these archives and on no others. -/
theorem parseShapefileArchive_raises :
    Raises (parseShapefileArchive gdal content) ↔ ImportRaises gdal content := by
  constructor
  · intro h
    obtain ⟨info, crs, data, hread, h⟩ := read_of_raises h
    rcases raises_bind.mp h with h | ⟨geometryType, htype, h⟩
    · rcases importedGeometryType_raises.mp h with ⟨wkb, hwkb, message, h⟩ | h
      · exact .geometry hread hwkb h
      · exact .noGeometry hread h
    · obtain ⟨hnonempty, htype, hsupported⟩ := importedGeometryType_ok.mp htype
      rcases raises_bind.mp h with h | ⟨row, -, message, h⟩
      · exact .noFirstRow hread hnonempty htype hsupported (firstRow_raises.mp h)
      · split at h
        · next hbounds => exact .noBounds hread hnonempty htype hsupported hbounds
        · cases h
  · intro h
    cases h with
    | geometry hread hwkb h =>
      obtain ⟨crs, hparse⟩ := parse_of_read hread
      rw [hparse]
      exact raises_bind.mpr (Or.inl (importedGeometryType_raises.mpr (Or.inl ⟨_, hwkb, _, h⟩)))
    | noGeometry hread h =>
      obtain ⟨crs, hparse⟩ := parse_of_read hread
      rw [hparse]
      exact raises_bind.mpr (Or.inl (importedGeometryType_raises.mpr (Or.inr h)))
    | noFirstRow hread hnonempty htype hsupported h =>
      obtain ⟨crs, hparse⟩ := parse_of_read hread
      rw [hparse]
      refine raises_bind.mpr (Or.inr ⟨_, importedGeometryType_ok.mpr
        ⟨hnonempty, htype, hsupported⟩, ?_⟩)
      exact raises_bind.mpr (Or.inl (firstRow_raises.mpr h))
    | @noBounds info data _ hread hnonempty htype hsupported h =>
      obtain ⟨crs, hparse⟩ := parse_of_read hread
      rw [hparse]
      refine raises_bind.mpr (Or.inr ⟨_, importedGeometryType_ok.mpr
        ⟨hnonempty, htype, hsupported⟩, raises_bind.mpr ?_⟩)
      cases hfirst : firstRow info.fields data.fieldData with
      | error e => exact Or.inl (hfirst ▸ raises_of_firstRow hfirst)
      | ok row => exact Or.inr ⟨row, rfl, by rw [h]; exact raises_throw⟩

end Import

end GeoRisk.DataAcquisition
