import Mathlib
import GeoRisk.Lib.Results
import GeoRisk.Uuid

/-! The structural checks of what was fetched, one for each format, and the check of the declared CRS
    after it. A check collects errors; but it runs readers of the standard library on bytes that
    nobody has looked at, and what they raise is only caught in part:

        GEOJSON, JSON   json.loads   JSONDecodeError, UnicodeDecodeError ▶ error   others ▶ raised
        CSV             decode       UnicodeDecodeError                  ▶ error
                        csv.reader                                                 all    ▶ raised
        GEOTIFF         –
        SHAPEFILE       ZipFile      BadZipFile                          ▶ error   others ▶ raised -/

namespace GeoRisk

/-- `not isinstance(value, Hashable)`: only what can be a key may be looked up in a set. -/
def Json.unhashable : Json → Bool
  | .arr _ => true
  | .obj _ => true
  | _ => false

/-- `type(value).__name__`. -/
def Json.typeName : Json → String
  | .null => "NoneType"
  | .bool _ => "bool"
  | .int _ => "int"
  | .float _ => "float"
  | .str _ => "str"
  | .arr _ => "list"
  | .obj _ => "dict"

namespace DataAcquisition

inductive AcquisitionFormat where
  | geojson | csv | geotiff | shapefile | json
  deriving DecidableEq

def AcquisitionFormat.value : AcquisitionFormat → String
  | .geojson => "GEOJSON"
  | .csv => "CSV"
  | .geotiff => "GEOTIFF"
  | .shapefile => "SHAPEFILE"
  | .json => "JSON"

abbrev Bytes := List UInt8

/-! ### The standard library -/

/-- How a reader can fail: with an exception its caller expects, or with another one. -/
inductive ReadError where
  | malformed (message : String)
  | other (message : String)

/-- The readers of the standard library, and its `str.lower` and `repr`. -/
structure Parsers where
  jsonLoads : Bytes → Except ReadError Json
  decodeUtf8 : Bytes → Except String String
  csvRows : String → Except String (List (List String))
  namelist : Bytes → Except ReadError (List String)
  lower : String → String
  reprJson : Json → String

/-- What is raised inside, and the errors and the metadata of a check that returns. -/
abbrev Check := Except String (List String × List (String × Json))

/-! ### The checks -/

def EPSG : List Char := ['E', 'P', 'S', 'G', ':']

/-- `\d` of a regular expression: a decimal digit of any script. -/
def isDecimal (c : Char) : Bool :=
  decimalZeros.any fun first => first ≤ c.toNat && c.toNat < first + 10

/-- `_EPSG_PATTERN.match`, on a text without blanks at its ends. -/
def matchesEpsg (crs : List Char) : Bool :=
  EPSG.isPrefixOf crs && (crs.drop 5).length > 0 && (crs.drop 5).all isDecimal

def validateCrs (crs : String) : List String :=
  if isBlank crs then ["CRS must not be blank"]
  else if matchesEpsg (stripped isSpace crs.toList) then []
  else [s!"CRS {pyRepr crs} is not of the form 'EPSG:<code>'"]

/-- `_GEOJSON_TYPES`. -/
def geojsonTypes : List String :=
  ["Point", "MultiPoint", "LineString", "MultiLineString", "Polygon", "MultiPolygon",
    "GeometryCollection", "Feature", "FeatureCollection"]

/-- What `validate_geojson` makes of an object, once its `type` is one of GeoJSON. -/
def checkGeojsonMembers (fields : List (String × Json)) (geojsonType : String) :
    List String × List (String × Json) :=
  if geojsonType = "FeatureCollection" then
    match fields.lookup "features" with
    | some (.arr features) => ([], [("feature_count", .int features.length)])
    | _ => (["FeatureCollection.features must be a list"], [])
  else if geojsonType = "Feature" ∧ (fields.lookup "geometry").isNone then
    (["Feature is missing a 'geometry' member"], [])
  else ([], [("feature_count", .int 1)])

def validateGeojson (p : Parsers) (content : Bytes) : Check :=
  match p.jsonLoads content with
  | .error (.malformed e) => .ok ([s!"Not valid JSON: {e}"], [])
  | .error (.other e) => .error e
  | .ok (.obj fields) =>
    let geojsonType := (fields.lookup "type").getD .null
    if geojsonType.unhashable then .error s!"unhashable type: '{geojsonType.typeName}'"
    else
      match geojsonType with
      | .str type =>
        if type ∈ geojsonTypes then .ok (checkGeojsonMembers fields type)
        else .ok ([s!"Unrecognized GeoJSON type: {p.reprJson geojsonType}"], [])
      | _ => .ok ([s!"Unrecognized GeoJSON type: {p.reprJson geojsonType}"], [])
  | .ok _ => .ok (["GeoJSON root must be a JSON object"], [])

def validateCsv (p : Parsers) (content : Bytes) : Check :=
  match p.decodeUtf8 content with
  | .error e => .ok ([s!"Not valid UTF-8 text: {e}"], [])
  | .ok text => do
    match ← p.csvRows text with
    | [] => return (["CSV content is empty"], [])
    | [] :: _ => return (["CSV header row is empty"], [])
    | header :: rows =>
      return ([], [("column_count", .int header.length), ("row_count", .int rows.length)])

/-- `_TIFF_MAGIC`. -/
def tiffMagic : List Bytes := [[0x49, 0x49, 0x2A, 0x00], [0x4D, 0x4D, 0x00, 0x2A]]

def validateGeotiff (content : Bytes) : Check :=
  if content.length < 8 ∨ content.take 4 ∉ tiffMagic then
    .ok (["Content does not start with a valid TIFF header"], [])
  else .ok ([], [("byte_size", .int content.length)])

/-- `_REQUIRED_SHAPEFILE_EXTENSIONS`. -/
def requiredShapefileExtensions : List String := [".shp", ".shx", ".dbf", ".prj"]

def endsWith (text suffix : String) : Bool := suffix.toList.isSuffixOf text.toList

/-- `n for n in names if n.lower().endswith(".shp")`. -/
def shpEntries (p : Parsers) (names : List String) : List String :=
  names.filter fun name => endsWith (p.lower name) ".shp"

/-- A name without its last four characters. -/
def baseName (shpEntry : String) : String := String.ofList (shpEntry.toList.take (shpEntry.length - 4))

/-- The required components that the archive lacks. -/
def missingComponents (p : Parsers) (names : List String) (base : String) : List String :=
  (requiredShapefileExtensions.filter fun ext =>
    ext ≠ ".shp" ∧ p.lower base ++ ext ∉ names.map p.lower).map (base ++ ·)

def validateShapefileArchive (p : Parsers) (content : Bytes) : Check :=
  match p.namelist content with
  | .error (.malformed _) => .ok (["Content is not a valid ZIP archive"], [])
  | .error (.other e) => .error e
  | .ok names =>
    match shpEntries p names with
    | [] => .ok (["ZIP archive contains no .shp file"], [])
    | [shpEntry] =>
      let missing := missingComponents p names (baseName shpEntry)
      if missing ≠ [] then
        let components := ", ".intercalate missing
        .ok ([s!"Incomplete Shapefile dataset — missing required component(s): {components}"], [])
      else
        .ok ([], [("shapefile_base_name", .str (baseName shpEntry)),
          ("archive_entries", .arr (names.map .str))])
    | entries =>
      let found := ", ".intercalate entries
      .ok ([s!"ZIP archive must contain exactly one .shp dataset, found {entries.length}: {found}"],
        [])

def validateJson (p : Parsers) (content : Bytes) : Check :=
  match p.jsonLoads content with
  | .error (.malformed e) => .ok ([s!"Not valid JSON: {e}"], [])
  | .error (.other e) => .error e
  | .ok parsed => .ok ([], [("json_type", .str parsed.typeName)])

/-- `_VALIDATORS_BY_FORMAT`. -/
def validatorsByFormat (p : Parsers) : AcquisitionFormat → Bytes → Check
  | .geojson => validateGeojson p
  | .csv => validateCsv p
  | .geotiff => validateGeotiff
  | .shapefile => validateShapefileArchive p
  | .json => validateJson p

structure ValidationOutcome where
  isValid : Bool
  errors : List String
  extractedMetadata : List (String × Json)

def validateDatasetContent (p : Parsers) (format : AcquisitionFormat) (content : Bytes)
    (crs : String) : Except String ValidationOutcome := do
  let (formatErrors, extractedMetadata) ← validatorsByFormat p format content
  let errors := formatErrors ++ validateCrs crs
  return ⟨errors.isEmpty, errors, extractedMetadata⟩

/-! ### When a check raises -/

/-- The contents on which the check of a format raises. -/
inductive CheckRaises (p : Parsers) : AcquisitionFormat → Bytes → Prop
  | json {content : Bytes} {message : String} (h : p.jsonLoads content = .error (.other message)) :
      CheckRaises p .json content
  | geojson {content : Bytes} {message : String}
      (h : p.jsonLoads content = .error (.other message)) : CheckRaises p .geojson content
  | geojsonType {content : Bytes} {fields : List (String × Json)} {type : Json}
      (hroot : p.jsonLoads content = .ok (.obj fields)) (htype : fields.lookup "type" = some type)
      (h : type.unhashable = true) : CheckRaises p .geojson content
  | csv {content : Bytes} {text message : String} (htext : p.decodeUtf8 content = .ok text)
      (h : p.csvRows text = .error message) : CheckRaises p .csv content
  | archive {content : Bytes} {message : String}
      (h : p.namelist content = .error (.other message)) : CheckRaises p .shapefile content

theorem validateCrs_nil {crs : String} (h : validateCrs crs = []) :
    isBlank crs = false ∧ matchesEpsg (stripped isSpace crs.toList) = true := by
  unfold validateCrs at h
  split at h
  · cases h
  · next hblank =>
    split at h
    · next hmatch => exact ⟨by simpa using hblank, hmatch⟩
    · cases h

variable {p : Parsers} {content : Bytes}

theorem validateJson_raises :
    (∃ e, validateJson p content = .error e) ↔ CheckRaises p .json content := by
  unfold validateJson
  constructor
  · rintro ⟨e, h⟩
    split at h
    · cases h
    · next message hread => exact .json hread
    · cases h
  · rintro (hread | _)
    exact ⟨_, by rw [hread]⟩

theorem validateGeojson_raises :
    (∃ e, validateGeojson p content = .error e) ↔ CheckRaises p .geojson content := by
  unfold validateGeojson
  constructor
  · rintro ⟨e, h⟩
    split at h
    · cases h
    · next message hread => exact .geojson hread
    · next fields hroot =>
      dsimp only at h
      split at h
      · next hunhashable =>
        cases htype : fields.lookup "type" with
        | none => simp [htype, Json.unhashable] at hunhashable
        | some type => exact .geojsonType hroot htype (by simpa [htype] using hunhashable)
      · split at h
        · split at h <;> cases h
        · cases h
    · cases h
  · intro h
    cases h with
    | geojson hread => exact ⟨_, by rw [hread]⟩
    | geojsonType hroot htype hunhashable =>
      rw [hroot]
      simp only [htype, Option.getD_some, hunhashable, if_true]
      exact ⟨_, rfl⟩

theorem validateCsv_raises :
    (∃ e, validateCsv p content = .error e) ↔ CheckRaises p .csv content := by
  unfold validateCsv
  constructor
  · rintro ⟨e, h⟩
    split at h
    · cases h
    · next text htext =>
      rcases Lib.exists_bind_error.mp ⟨e, h⟩ with ⟨message, hrows⟩ | ⟨rows, -, e, hrest⟩
      · exact .csv htext hrows
      · split at hrest <;> cases hrest
  · intro h
    cases h with
    | csv htext hrows =>
      rw [htext]
      exact Lib.exists_bind_error.mpr (Or.inl ⟨_, hrows⟩)

theorem validateShapefileArchive_raises :
    (∃ e, validateShapefileArchive p content = .error e) ↔ CheckRaises p .shapefile content := by
  unfold validateShapefileArchive
  constructor
  · rintro ⟨e, h⟩
    split at h
    · cases h
    · next message hread => exact .archive hread
    · split at h
      · cases h
      · dsimp only at h
        split at h <;> cases h
      · cases h
  · intro h
    cases h with
    | archive hread => exact ⟨_, by rw [hread]⟩

/-- A check raises on these contents and on no others. -/
theorem validateDatasetContent_raises {format : AcquisitionFormat} {crs : String} :
    (∃ e, validateDatasetContent p format content crs = .error e) ↔
      CheckRaises p format content := by
  have hvalidator : (∃ e, validateDatasetContent p format content crs = .error e) ↔
      ∃ e, validatorsByFormat p format content = .error e := by
    rw [validateDatasetContent, Lib.exists_bind_error]
    constructor
    · rintro (h | ⟨_, _, e, h⟩)
      · exact h
      · cases h
    · exact Or.inl
  rw [hvalidator]
  cases format with
  | geojson => exact validateGeojson_raises
  | csv => exact validateCsv_raises
  | geotiff =>
    refine iff_of_false ?_ (fun h => nomatch h)
    rintro ⟨e, h⟩
    simp only [validatorsByFormat, validateGeotiff] at h
    split at h <;> cases h
  | shapefile => exact validateShapefileArchive_raises
  | json => exact validateJson_raises

/-! ### What an outcome says -/

/-- The readers raise what their documentation says. -/
structure Parsers.Documented (p : Parsers) : Prop where
  jsonLoads : ∀ content message, p.jsonLoads content ≠ .error (.other message)
  namelist : ∀ content message, p.namelist content ≠ .error (.other message)

/-- The entries of a complete archive: one `.shp`, and the components that go with it. -/
def CompleteArchive (p : Parsers) (names : List String) : Prop :=
  ∃ entry, names.filter (fun name => endsWith (p.lower name) ".shp") = [entry] ∧
    ∀ ext ∈ [".shx", ".dbf", ".prj"], ∃ name ∈ names, p.lower name = p.lower (baseName entry) ++ ext

/-- What is promised of an outcome. -/
structure SoundOutcome (p : Parsers) (format : AcquisitionFormat) (content : Bytes)
    (outcome : ValidationOutcome) : Prop where
  valid : outcome.isValid = true ↔ outcome.errors = []
  shapefile : format = .shapefile → outcome.isValid = true →
    ∃ names, p.namelist content = .ok names ∧ CompleteArchive p names

/-- The contents that no reader or lookup stumbles over: a GeoJSON type that is no array or object,
    and rows that `csv.reader` can read. -/
def Checkable (p : Parsers) (content : Bytes) : AcquisitionFormat → Prop
  | .geojson => ∀ fields type, p.jsonLoads content = .ok (.obj fields) →
      fields.lookup "type" = some type → type.unhashable = false
  | .csv => ∀ text, p.decodeUtf8 content = .ok text → ∃ rows, p.csvRows text = .ok rows
  | _ => True

theorem validateShapefileArchive_ok {metadata : List (String × Json)}
    (h : validateShapefileArchive p content = .ok ([], metadata)) :
    ∃ names, p.namelist content = .ok names ∧ CompleteArchive p names := by
  unfold validateShapefileArchive at h
  split at h
  · cases h
  · cases h
  · next names hnames =>
    split at h
    · cases h
    · next entry hentry =>
      dsimp only at h
      split at h
      · cases h
      · next hmissing =>
        rw [not_not, missingComponents, List.map_eq_nil_iff, List.filter_eq_nil_iff] at hmissing
        refine ⟨names, hnames, entry, hentry, fun ext hext => ?_⟩
        have hrequired : ext ∈ requiredShapefileExtensions ∧ ext ≠ ".shp" := by
          fin_cases hext <;> decide
        have hin := hmissing ext hrequired.1
        rw [decide_eq_true_eq, not_and_not_right] at hin
        exact List.mem_map.mp (hin hrequired.2)
    · cases h

theorem checkable_iff (hp : p.Documented) {format : AcquisitionFormat} :
    Checkable p content format ↔ ¬ CheckRaises p format content := by
  constructor
  · intro h hraises
    cases hraises with
    | json hread => exact hp.jsonLoads _ _ hread
    | geojson hread => exact hp.jsonLoads _ _ hread
    | geojsonType hroot htype hunhashable =>
      rw [h _ _ hroot htype] at hunhashable
      cases hunhashable
    | csv htext hrows =>
      obtain ⟨rows, hok⟩ := h _ htext
      rw [hrows] at hok
      cases hok
    | archive hread => exact hp.namelist _ _ hread
  · intro h
    cases format with
    | geojson =>
      intro fields type hroot htype
      rw [← Bool.not_eq_true]
      exact fun hunhashable => h (.geojsonType hroot htype hunhashable)
    | csv =>
      intro text htext
      cases hrows : p.csvRows text with
      | error message => exact absurd (.csv htext hrows) h
      | ok rows => exact ⟨rows, rfl⟩
    | _ => trivial

/-- Validation ends in a sound outcome iff the content is one that it does not stumble over. -/
theorem validateDatasetContent_sound_iff (hp : p.Documented) (format : AcquisitionFormat)
    (content : Bytes) (crs : String) :
    (∃ outcome, validateDatasetContent p format content crs = .ok outcome ∧
      SoundOutcome p format content outcome) ↔ Checkable p content format := by
  rw [checkable_iff hp, ← @validateDatasetContent_raises _ _ _ crs]
  constructor
  · rintro ⟨outcome, hok, -⟩ ⟨e, herror⟩
    rw [hok] at herror
    cases herror
  · intro h
    cases hrun : validateDatasetContent p format content crs with
    | error e => exact absurd ⟨e, hrun⟩ h
    | ok outcome =>
      refine ⟨outcome, rfl, ?_⟩
      obtain ⟨⟨formatErrors, metadata⟩, hformat, hret⟩ := Lib.bind_ok.mp hrun
      cases hret
      refine ⟨List.isEmpty_iff, ?_⟩
      rintro rfl hvalid
      obtain ⟨rfl, -⟩ := List.append_eq_nil_iff.mp (List.isEmpty_iff.mp hvalid)
      exact validateShapefileArchive_ok hformat

/-- Readers that know two documents: a feature collection, and one whose type is an array. -/
def twoDocuments : Parsers where
  jsonLoads content :=
    if content = "\x7b\"type\": \"FeatureCollection\", \"features\": []\x7d".toUTF8.toList then
      .ok (.obj [("type", .str "FeatureCollection"), ("features", .arr [])])
    else if content = "\x7b\"type\": []\x7d".toUTF8.toList then .ok (.obj [("type", .arr [])])
    else .error (.malformed "Expecting value: line 1 column 1 (char 0)")
  decodeUtf8 _ := .ok ""
  csvRows _ := .ok []
  namelist _ := .error (.malformed "File is not a zip file")
  lower := String.toLower
  reprJson _ := ""

theorem twoDocuments_documented : twoDocuments.Documented where
  jsonLoads content message := by
    unfold twoDocuments
    dsimp only
    split
    · simp
    · split <;> simp
  namelist _ _ := by simp [twoDocuments]

/-- A type that is an array is looked up in a set. -/
theorem validateDatasetContent_unhashable : ∃ content, twoDocuments.Documented ∧
    ¬ ∃ outcome, validateDatasetContent twoDocuments .geojson content "EPSG:4326" = .ok outcome := by
  refine ⟨"\x7b\"type\": []\x7d".toUTF8.toList, twoDocuments_documented, ?_⟩
  rintro ⟨outcome, h⟩
  obtain ⟨checked, hchecked, -⟩ := Lib.bind_ok.mp h
  have hread : twoDocuments.jsonLoads "\x7b\"type\": []\x7d".toUTF8.toList =
      .ok (.obj [("type", .arr [])]) := by
    unfold twoDocuments
    dsimp only
    rw [if_neg (by decide +kernel), if_pos rfl]
  rw [validatorsByFormat, validateGeojson, hread] at hchecked
  cases hchecked

theorem validateDatasetContent_sound_collection :
    ∃ content, twoDocuments.jsonLoads content =
        .ok (.obj [("type", .str "FeatureCollection"), ("features", .arr [])]) ∧
      ((∃ outcome, validateDatasetContent twoDocuments .geojson content "EPSG:4326" = .ok outcome ∧
        SoundOutcome twoDocuments .geojson content outcome) ↔
          Checkable twoDocuments content .geojson) :=
  ⟨"\x7b\"type\": \"FeatureCollection\", \"features\": []\x7d".toUTF8.toList, if_pos rfl,
    validateDatasetContent_sound_iff twoDocuments_documented .geojson _ "EPSG:4326"⟩

end DataAcquisition

end GeoRisk
