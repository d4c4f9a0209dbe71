import Mathlib
import GeoRisk.DataAcquisition.Writes
import GeoRisk.DataAcquisition.FeatureAccounting

/-! The three ways in which the pipeline of an execution ends, told by what the collaborators answer:
    it has acquired everything, it has rejected the job with an error to record, or an exception has
    left it. Each step is asked only if the steps before it went on.

        area ─▶ decode ─▶ fetch ─▶ check ─▶ import ─▶ extract ─▶ acquired
         │ └───────│────────│────────│─────────│──────────│────▶ raised
         └─────────│────────┴────────┴─────────┘          │
                   no error of its own                     no error of its own   ▶ rejected -/

namespace GeoRisk.DataAcquisition

variable (w : World) (job : AcquisitionJob)

/-! ### What the steps get -/

/-- The geometry of the area of interest, if the job names one. -/
inductive AreaRead : Option Json → Prop
  | noArea (h : job.aoiId = none) : AreaRead none
  | found {aoiId : String} {info : AoiGeometryInfo} (h : job.aoiId = some aoiId)
      (hread : w.getAoiGeometry job.tenantId aoiId = .ok (some info)) : AreaRead (some info.geometry)

/-- The uploaded bytes, if there are any. -/
inductive Decoded : Option Bytes → Prop
  | nothing (h : job.rawContentBase64.getD "" = "") : Decoded none
  | content {raw : String} {bytes : Bytes} (h : job.rawContentBase64 = some raw) (hne : raw ≠ "")
      (hdecode : w.b64decode raw = .ok bytes) : Decoded (some bytes)

/-- The result of the provider; an exception that `except Exception` catches is a failed one. -/
inductive Fetched : FetchResult → Prop
  | returned {area : Option Json} {content : Option Bytes} {fetched : FetchResult}
      (harea : AreaRead w job area) (hcontent : Decoded w job content)
      (h : w.fetch job.provider job.sourceReference content (fetchSpec job area) = .ok fetched) :
      Fetched fetched
  | caught {area : Option Json} {content : Option Bytes} {e : String}
      (harea : AreaRead w job area) (hcontent : Decoded w job content)
      (h : w.fetch job.provider job.sourceReference content (fetchSpec job area) =
        .error (.exception e)) :
      Fetched { success := false, content := none, error := some e }

/-- A result to go on with: one that has valid content, or says why it has none. -/
structure Checked (fetched : FetchResult) : Prop where
  came : Fetched w job fetched
  success : fetched.success = true
  valid : ∀ content, fetched.content = some content → ∃ outcome,
    validateDatasetContent w.parsers job.format content job.declaredCrs = .ok outcome ∧
      outcome.isValid = true
  skipped : fetched.content = none → fetched.rasterSkippedReason ≠ none

/-- The imported shapefile, for a job of that format. -/
inductive Imported (fetched : FetchResult) : Option ShapefileImportResult → Prop
  | otherFormat (h : job.format ≠ .shapefile) : Imported fetched none
  | shapefile {content : Bytes} {result : ShapefileImportResult} (h : job.format = .shapefile)
      (hcontent : fetched.content = some content)
      (himport : parseShapefileArchive w.gdal content = .ok result) : Imported fetched (some result)

/-- Everything that goes into a completed job. -/
structure Acquires (acquired : Acquired) : Prop where
  checked : Checked w job acquired.fetched
  imported : Imported w job acquired.fetched acquired.shapefile
  extracted : extract w job acquired.fetched =
    .ok (acquired.computedFeatures, acquired.skippedFeatures)

/-! ### Errors to record, and exceptions -/

/-- The errors that are recorded on a failed job. -/
inductive Rejected : String → Prop
  | noArea {aoiId : String} (h : job.aoiId = some aoiId)
      (hread : w.getAoiGeometry job.tenantId aoiId = .ok none) :
      Rejected s!"AreaOfInterest {aoiId} not found"
  | notFetched {fetched : FetchResult} (hfetched : Fetched w job fetched)
      (h : fetched.success = false) : Rejected (orText fetched.error "Fetch failed")
  | noContent {fetched : FetchResult} (hfetched : Fetched w job fetched)
      (hsuccess : fetched.success = true) (hcontent : fetched.content = none)
      (h : fetched.rasterSkippedReason = none) :
      Rejected (orText fetched.error "Fetch returned no content")
  | invalid {fetched : FetchResult} {content : Bytes} {outcome : ValidationOutcome}
      (hfetched : Fetched w job fetched) (hsuccess : fetched.success = true)
      (hcontent : fetched.content = some content)
      (hcheck : validateDatasetContent w.parsers job.format content job.declaredCrs = .ok outcome)
      (h : outcome.isValid = false) : Rejected ("; ".intercalate outcome.errors)
  | notImported {fetched : FetchResult} {content : Bytes} {e : String}
      (hchecked : Checked w job fetched) (hformat : job.format = .shapefile)
      (hcontent : fetched.content = some content)
      (h : parseShapefileArchive w.gdal content = .error (.rejected e)) : Rejected e

/-- The exceptions that nothing catches. -/
inductive PipelineRaises : Prop
  | reader {aoiId message : String} (h : job.aoiId = some aoiId)
      (hread : w.getAoiGeometry job.tenantId aoiId = .error message)
  | base64 {area : Option Json} {raw message : String} (harea : AreaRead w job area)
      (h : job.rawContentBase64 = some raw) (hne : raw ≠ "")
      (hdecode : w.b64decode raw = .error message)
  | cancelled {area : Option Json} {content : Option Bytes} {message : String}
      (harea : AreaRead w job area) (hcontent : Decoded w job content)
      (h : w.fetch job.provider job.sourceReference content (fetchSpec job area) =
        .error (.baseException message))
  | check {fetched : FetchResult} {content : Bytes} (hfetched : Fetched w job fetched)
      (hsuccess : fetched.success = true) (hcontent : fetched.content = some content)
      (h : CheckRaises w.parsers job.format content)
  | assertion {fetched : FetchResult} (hchecked : Checked w job fetched)
      (hformat : job.format = .shapefile) (hcontent : fetched.content = none)
  | importer {fetched : FetchResult} {content : Bytes} (hchecked : Checked w job fetched)
      (hformat : job.format = .shapefile) (hcontent : fetched.content = some content)
      (h : ImportRaises w.gdal content)
  | spei {fetched : FetchResult} {shapefile : Option ShapefileImportResult}
      {source : RemoteSensingSource} {statistics : BandStatistics}
      (hchecked : Checked w job fetched) (himported : Imported w job fetched shapefile)
      (hindex : .spei ∈ job.requestedIndices) (hsource : job.remoteSensingSource = some source)
      (hstatistics : fetched.bandStatistics = some statistics)
      (h : ¬ SpeiInRange w.libm source statistics)

/-! ### The steps -/

variable {w job} {fetched : FetchResult} {area : Option Json} {content : Option Bytes}

section Steps

variable {α : Type} {x : Except String α} {text : String}

theorem raising_ok {a : α} : raising x = .ok a ↔ x = .ok a := by
  cases x <;> simp [raising]

theorem raising_failed : raising x ≠ .error (.failed text) := by
  cases x <;> simp [raising]

theorem raising_raised {e : AcquisitionError} :
    raising x = .error (.raised e) ↔ ∃ message, x = .error message ∧ e = ⟨.collaborator, message⟩ := by
  cases x <;> simp [raising, eq_comm]

theorem throw_failed {e : String} :
    (throw (.failed e) : Except Stop α) = .error (.failed text) ↔ text = e := by
  constructor
  · intro h
    cases h
    rfl
  · rintro rfl
    rfl

end Steps

theorem readArea_ok : readArea w job = .ok area ↔ AreaRead w job area := by
  unfold readArea
  constructor
  · intro h
    split at h
    · next harea =>
      cases h
      exact .noArea harea
    · next aoiId harea =>
      obtain ⟨info, hread, h⟩ := Lib.bind_ok.mp h
      cases info with
      | none => cases h
      | some info =>
        cases h
        exact .found harea (raising_ok.mp hread)
  · rintro (h | ⟨harea, hread⟩)
    · rw [h]
    · rw [harea]
      exact Lib.bind_ok.mpr ⟨_, raising_ok.mpr hread, rfl⟩

theorem readArea_failed {text : String} : readArea w job = .error (.failed text) ↔
    ∃ aoiId, job.aoiId = some aoiId ∧ w.getAoiGeometry job.tenantId aoiId = .ok none ∧
      text = s!"AreaOfInterest {aoiId} not found" := by
  unfold readArea
  constructor
  · intro h
    split at h
    · cases h
    · next aoiId harea =>
      rcases Lib.bind_error.mp h with h | ⟨info, hread, h⟩
      · exact absurd h raising_failed
      · cases info with
        | none =>
          cases h
          exact ⟨aoiId, harea, raising_ok.mp hread, rfl⟩
        | some info => cases h
  · rintro ⟨aoiId, harea, hread, rfl⟩
    rw [harea]
    exact Lib.bind_error.mpr (Or.inr ⟨_, raising_ok.mpr hread, rfl⟩)

theorem readArea_raised : (∃ e, readArea w job = .error (.raised e)) ↔
    ∃ aoiId message, job.aoiId = some aoiId ∧
      w.getAoiGeometry job.tenantId aoiId = .error message := by
  unfold readArea
  constructor
  · rintro ⟨e, h⟩
    split at h
    · cases h
    · next aoiId harea =>
      rcases Lib.bind_error.mp h with h | ⟨info, hread, h⟩
      · obtain ⟨message, hread, -⟩ := raising_raised.mp h
        exact ⟨aoiId, message, harea, hread⟩
      · cases info <;> cases h
  · rintro ⟨aoiId, message, harea, hread⟩
    rw [harea]
    exact ⟨_, Lib.bind_error.mpr (Or.inl (raising_raised.mpr ⟨message, hread, rfl⟩))⟩

theorem uploaded_ok : uploaded w job = .ok content ↔ Decoded w job content := by
  unfold uploaded
  constructor
  · intro h
    split at h
    · next hraw =>
      cases h
      exact .nothing (by simp [hraw])
    · next raw hraw =>
      split at h
      · next hempty =>
        cases h
        exact .nothing (by simp [hraw, hempty])
      · next hne =>
        obtain ⟨bytes, hdecode, rfl⟩ := Lib.map_ok.mp h
        exact .content hraw hne (raising_ok.mp hdecode)
  · rintro (h | ⟨hraw, hne, hdecode⟩)
    · cases hraw : job.rawContentBase64 with
      | none => rfl
      | some raw =>
        rw [hraw] at h
        exact if_pos h
    · rw [hraw]
      exact (if_neg hne).trans (Lib.map_ok.mpr ⟨_, raising_ok.mpr hdecode, rfl⟩)

theorem uploaded_error {stop : Stop} : uploaded w job = .error stop ↔
    ∃ raw message, job.rawContentBase64 = some raw ∧ raw ≠ "" ∧
      w.b64decode raw = .error message ∧ stop = .raised ⟨.collaborator, message⟩ := by
  unfold uploaded
  constructor
  · intro h
    split at h
    · cases h
    · next raw hraw =>
      split at h
      · cases h
      · next hne =>
        cases hdecode : w.b64decode raw with
        | ok bytes =>
          rw [hdecode] at h
          cases h
        | error message =>
          rw [hdecode] at h
          cases h
          exact ⟨raw, message, hraw, hne, hdecode, rfl⟩
  · rintro ⟨raw, message, hraw, hne, hdecode, rfl⟩
    rw [hraw]
    dsimp only
    rw [if_neg hne, hdecode]
    rfl

theorem fetch_ok (harea : AreaRead w job area) (hcontent : Decoded w job content)
    (h : fetch w job area content = .ok fetched) : Fetched w job fetched := by
  unfold fetch at h
  split at h
  · next result hfetch =>
    cases h
    exact .returned harea hcontent hfetch
  · next e hfetch =>
    cases h
    exact .caught harea hcontent hfetch
  · cases h

theorem fetch_error {stop : Stop} : fetch w job area content = .error stop ↔
    ∃ message, w.fetch job.provider job.sourceReference content (fetchSpec job area) =
      .error (.baseException message) ∧ stop = .raised ⟨.collaborator, message⟩ := by
  unfold fetch
  split
  · next result hfetch => simp [hfetch]
  · next e hfetch => simp [hfetch]
  · next e hfetch => simp [hfetch, eq_comm]

/-- What came, came through the steps before it. -/
theorem exists_of_fetched (h : Fetched w job fetched) : ∃ area content,
    readArea w job = .ok area ∧ uploaded w job = .ok content ∧
      fetch w job area content = .ok fetched := by
  cases h with
  | returned harea hcontent hfetch =>
    exact ⟨_, _, readArea_ok.mpr harea, uploaded_ok.mpr hcontent, by rw [fetch, hfetch]⟩
  | caught harea hcontent hfetch =>
    exact ⟨_, _, readArea_ok.mpr harea, uploaded_ok.mpr hcontent, by rw [fetch, hfetch]⟩

theorem checkContent_ok (hfetched : Fetched w job fetched) :
    checkContent w job fetched = .ok () ↔ Checked w job fetched := by
  unfold checkContent
  constructor
  · intro h
    split at h
    · cases h
    · next hsuccess =>
      refine ⟨hfetched, by simpa using hsuccess, ?_, ?_⟩
      · intro content hcontent
        rw [hcontent] at h
        obtain ⟨outcome, hcheck, h⟩ := Lib.bind_ok.mp h
        split at h
        · next hvalid => exact ⟨outcome, raising_ok.mp hcheck, hvalid⟩
        · cases h
      · intro hcontent hskipped
        rw [hcontent] at h
        dsimp only at h
        rw [if_pos hskipped] at h
        cases h
  · rintro ⟨-, hsuccess, hvalid, hskipped⟩
    rw [if_neg (by simp [hsuccess])]
    cases hcontent : fetched.content with
    | none => exact if_neg (hskipped hcontent)
    | some content =>
      obtain ⟨outcome, hcheck, hvalid⟩ := hvalid content hcontent
      exact Lib.bind_ok.mpr ⟨outcome, raising_ok.mpr hcheck, if_pos hvalid⟩

theorem checkContent_failed {text : String} : checkContent w job fetched = .error (.failed text) ↔
    (fetched.success = false ∧ text = orText fetched.error "Fetch failed") ∨
    (fetched.success = true ∧ fetched.content = none ∧ fetched.rasterSkippedReason = none ∧
      text = orText fetched.error "Fetch returned no content") ∨
    ∃ content outcome, fetched.success = true ∧ fetched.content = some content ∧
      validateDatasetContent w.parsers job.format content job.declaredCrs = .ok outcome ∧
      outcome.isValid = false ∧ text = "; ".intercalate outcome.errors := by
  unfold checkContent
  cases hsuccess : fetched.success with
  | false => simp [throw_failed]
  | true =>
    simp only [Bool.true_eq_false, if_false, false_and, false_or, true_and]
    cases hcontent : fetched.content with
    | none =>
      by_cases hskipped : fetched.rasterSkippedReason = none
      · simp [hskipped, throw_failed]
      · simp [hskipped, pure, Except.pure]
    | some content =>
      simp only [reduceCtorEq, false_and, false_or, Option.some.injEq, Lib.bind_error, raising_ok]
      constructor
      · rintro (h | ⟨outcome, hcheck, h⟩)
        · exact absurd h raising_failed
        · split at h
          · cases h
          · next hvalid =>
            cases h
            exact ⟨content, outcome, rfl, hcheck, by simpa using hvalid, rfl⟩
      · rintro ⟨_, outcome, rfl, hcheck, hvalid, rfl⟩
        exact Or.inr ⟨outcome, hcheck, if_neg (by simp [hvalid])⟩

theorem checkContent_raised : (∃ e, checkContent w job fetched = .error (.raised e)) ↔
    fetched.success = true ∧ ∃ content, fetched.content = some content ∧
      CheckRaises w.parsers job.format content := by
  unfold checkContent
  constructor
  · rintro ⟨e, h⟩
    split at h
    · cases h
    · next hsuccess =>
      split at h
      · split at h <;> cases h
      · next content hcontent =>
        refine ⟨by simpa using hsuccess, content, hcontent, ?_⟩
        rcases Lib.bind_error.mp h with h | ⟨outcome, -, h⟩
        · obtain ⟨message, hcheck, -⟩ := raising_raised.mp h
          exact validateDatasetContent_raises.mp ⟨message, hcheck⟩
        · split at h <;> cases h
  · rintro ⟨hsuccess, content, hcontent, hraises⟩
    obtain ⟨message, hcheck⟩ : ∃ e, validateDatasetContent w.parsers job.format content
        job.declaredCrs = .error e := validateDatasetContent_raises.mpr hraises
    refine ⟨⟨.collaborator, message⟩, ?_⟩
    rw [if_neg (by simp [hsuccess]), hcontent]
    exact Lib.bind_error.mpr (Or.inl (raising_raised.mpr ⟨message, hcheck, rfl⟩))

theorem parseShapefile_ok {shapefile : Option ShapefileImportResult} :
    parseShapefile w job fetched = .ok shapefile ↔ Imported w job fetched shapefile := by
  unfold parseShapefile
  constructor
  · intro h
    split at h
    · next hformat =>
      cases h
      exact .otherFormat hformat
    · next hformat =>
      split at h
      · cases h
      · next content hcontent =>
        split at h
        · next result himport =>
          cases h
          exact .shapefile (not_not.mp hformat) hcontent himport
        · cases h
        · cases h
  · rintro (h | ⟨hformat, hcontent, himport⟩)
    · exact if_pos h
    · rw [if_neg (not_not.mpr hformat), hcontent]
      dsimp only
      rw [himport]
      rfl

theorem parseShapefile_failed {text : String} :
    parseShapefile w job fetched = .error (.failed text) ↔
      ∃ content, job.format = .shapefile ∧ fetched.content = some content ∧
        parseShapefileArchive w.gdal content = .error (.rejected text) := by
  unfold parseShapefile
  constructor
  · intro h
    split at h
    · cases h
    · next hformat =>
      split at h
      · cases h
      · next content hcontent =>
        split at h
        · cases h
        · next e himport =>
          cases h
          exact ⟨content, not_not.mp hformat, hcontent, himport⟩
        · cases h
  · rintro ⟨content, hformat, hcontent, himport⟩
    rw [if_neg (not_not.mpr hformat), hcontent]
    dsimp only
    rw [himport]
    rfl

theorem parseShapefile_raised : (∃ e, parseShapefile w job fetched = .error (.raised e)) ↔
    job.format = .shapefile ∧ (fetched.content = none ∨
      ∃ content, fetched.content = some content ∧ ImportRaises w.gdal content) := by
  unfold parseShapefile
  constructor
  · rintro ⟨e, h⟩
    split at h
    · cases h
    · next hformat =>
      refine ⟨not_not.mp hformat, ?_⟩
      split at h
      · next hcontent => exact Or.inl hcontent
      · next content hcontent =>
        split at h
        · cases h
        · cases h
        · next message himport =>
          exact Or.inr ⟨content, hcontent, parseShapefileArchive_raises.mp ⟨message, himport⟩⟩
  · rintro ⟨hformat, hcontent | ⟨content, hcontent, hraises⟩⟩
    · rw [if_neg (not_not.mpr hformat), hcontent]
      exact ⟨_, rfl⟩
    · obtain ⟨message, himport⟩ := parseShapefileArchive_raises.mpr hraises
      rw [if_neg (not_not.mpr hformat), hcontent]
      dsimp only
      rw [himport]
      exact ⟨_, rfl⟩

theorem extract_failed {text : String} : extract w job fetched ≠ .error (.failed text) := by
  unfold extract
  split
  · intro h
    cases h
  · intro h
    cases h
  · split
    · exact raising_failed
    · intro h
      cases h

theorem extract_raised : (∃ e, extract w job fetched = .error (.raised e)) ↔
    ∃ source statistics, .spei ∈ job.requestedIndices ∧ job.remoteSensingSource = some source ∧
      fetched.bandStatistics = some statistics ∧ ¬ SpeiInRange w.libm source statistics := by
  constructor
  · rintro ⟨e, h⟩
    unfold extract at h
    split at h
    · cases h
    · cases h
    · next source hsource hindices =>
      split at h
      · next statistics hstatistics =>
        obtain ⟨message, hextract, -⟩ := raising_raised.mp h
        have hnotok : ¬ ∃ features, extractFeatures w.libm source statistics job.requestedIndices
            fetched.comparisonBandStatistics = .ok features := by
          rintro ⟨features, hok⟩
          cases hok.symm.trans hextract
        rw [extractFeatures_ok, Classical.not_imp] at hnotok
        exact ⟨source, statistics, hnotok.1, hsource, hstatistics, hnotok.2⟩
      · cases h
  · rintro ⟨source, statistics, hindex, hsource, hstatistics, hrange⟩
    have hnotok : ¬ ∃ features, extractFeatures w.libm source statistics job.requestedIndices
        fetched.comparisonBandStatistics = .ok features := by
      rw [extractFeatures_ok]
      exact fun h => hrange (h hindex)
    cases hextract : extractFeatures w.libm source statistics job.requestedIndices
        fetched.comparisonBandStatistics with
    | ok features => exact absurd ⟨features, hextract⟩ hnotok
    | error message =>
      refine ⟨⟨.collaborator, message⟩, ?_⟩
      unfold extract
      split
      · next hindices =>
        rw [hindices] at hindex
        cases hindex
      · next hnone _ => cases hsource.symm.trans hnone
      · next source' hsource' _ =>
        cases hsource.symm.trans hsource'
        rw [hstatistics]
        exact raising_raised.mpr ⟨message, hextract, rfl⟩

/-! ### The pipeline -/

theorem acquire_ok_iff {acquired : Acquired} :
    acquire w job = .ok acquired ↔ Acquires w job acquired := by
  rw [acquire_ok]
  constructor
  · rintro ⟨area, content, harea, hcontent, hfetch, hcheck, himport, hextract⟩
    have hfetched := fetch_ok (readArea_ok.mp harea) (uploaded_ok.mp hcontent) hfetch
    exact ⟨(checkContent_ok hfetched).mp hcheck, parseShapefile_ok.mp himport, hextract⟩
  · rintro ⟨hchecked, himported, hextract⟩
    obtain ⟨area, content, harea, hcontent, hfetch⟩ := exists_of_fetched hchecked.came
    exact ⟨area, content, harea, hcontent, hfetch, (checkContent_ok hchecked.came).mpr hchecked,
      parseShapefile_ok.mpr himported, hextract⟩

/-- A pipeline that stops does so at a step, on what the steps before it have got. -/
theorem acquire_error {stop : Stop} : acquire w job = .error stop ↔
    readArea w job = .error stop ∨
    (∃ area, AreaRead w job area ∧ uploaded w job = .error stop) ∨
    (∃ area content, AreaRead w job area ∧ Decoded w job content ∧
      fetch w job area content = .error stop) ∨
    (∃ fetched, Fetched w job fetched ∧ checkContent w job fetched = .error stop) ∨
    (∃ fetched, Checked w job fetched ∧ parseShapefile w job fetched = .error stop) ∨
    ∃ fetched shapefile, Checked w job fetched ∧ Imported w job fetched shapefile ∧
      extract w job fetched = .error stop := by
  simp only [acquire, Lib.bind_error, readArea_ok, uploaded_ok, parseShapefile_ok]
  constructor
  · rintro (h | ⟨area, harea, h | ⟨content, hcontent, h | ⟨fetched, hfetch, h | ⟨⟨⟩, hcheck,
      h | ⟨shapefile, himported, h | ⟨features, hextract, h⟩⟩⟩⟩⟩⟩)
    · exact Or.inl h
    · exact Or.inr (Or.inl ⟨area, harea, h⟩)
    · exact Or.inr (Or.inr (Or.inl ⟨area, content, harea, hcontent, h⟩))
    · exact Or.inr (Or.inr (Or.inr (Or.inl ⟨fetched, fetch_ok harea hcontent hfetch, h⟩)))
    · have hchecked := (checkContent_ok (fetch_ok harea hcontent hfetch)).mp hcheck
      exact Or.inr (Or.inr (Or.inr (Or.inr (Or.inl ⟨fetched, hchecked, h⟩))))
    · have hchecked := (checkContent_ok (fetch_ok harea hcontent hfetch)).mp hcheck
      exact Or.inr (Or.inr (Or.inr (Or.inr (Or.inr ⟨fetched, shapefile, hchecked, himported, h⟩))))
    · cases h
  · rintro (h | ⟨area, harea, h⟩ | ⟨area, content, harea, hcontent, h⟩ | ⟨fetched, hfetched, h⟩ |
      ⟨fetched, hchecked, h⟩ | ⟨fetched, shapefile, hchecked, himported, h⟩)
    · exact Or.inl h
    · exact Or.inr ⟨area, harea, Or.inl h⟩
    · exact Or.inr ⟨area, harea, Or.inr ⟨content, hcontent, Or.inl h⟩⟩
    · obtain ⟨area, content, harea, hcontent, hfetch⟩ := exists_of_fetched hfetched
      exact Or.inr ⟨area, readArea_ok.mp harea, Or.inr ⟨content, uploaded_ok.mp hcontent,
        Or.inr ⟨fetched, hfetch, Or.inl h⟩⟩⟩
    · obtain ⟨area, content, harea, hcontent, hfetch⟩ := exists_of_fetched hchecked.came
      exact Or.inr ⟨area, readArea_ok.mp harea, Or.inr ⟨content, uploaded_ok.mp hcontent,
        Or.inr ⟨fetched, hfetch, Or.inr ⟨(), (checkContent_ok hchecked.came).mpr hchecked,
          Or.inl h⟩⟩⟩⟩
    · obtain ⟨area, content, harea, hcontent, hfetch⟩ := exists_of_fetched hchecked.came
      exact Or.inr ⟨area, readArea_ok.mp harea, Or.inr ⟨content, uploaded_ok.mp hcontent,
        Or.inr ⟨fetched, hfetch, Or.inr ⟨(), (checkContent_ok hchecked.came).mpr hchecked,
          Or.inr ⟨shapefile, himported, Or.inl h⟩⟩⟩⟩⟩

theorem acquire_failed_iff {text : String} :
    acquire w job = .error (.failed text) ↔ Rejected w job text := by
  rw [acquire_error]
  constructor
  · rintro (h | ⟨area, -, h⟩ | ⟨area, content, -, -, h⟩ | ⟨fetched, hfetched, h⟩ |
      ⟨fetched, hchecked, h⟩ | ⟨fetched, shapefile, -, -, h⟩)
    · obtain ⟨aoiId, harea, hread, rfl⟩ := readArea_failed.mp h
      exact .noArea harea hread
    · obtain ⟨raw, message, -, -, -, h⟩ := uploaded_error.mp h
      cases h
    · obtain ⟨message, -, h⟩ := fetch_error.mp h
      cases h
    · rcases checkContent_failed.mp h with ⟨hfailed, rfl⟩ | ⟨hsuccess, hcontent, hskipped, rfl⟩ |
        ⟨content, outcome, hsuccess, hcontent, hcheck, hinvalid, rfl⟩
      · exact .notFetched hfetched hfailed
      · exact .noContent hfetched hsuccess hcontent hskipped
      · exact .invalid hfetched hsuccess hcontent hcheck hinvalid
    · obtain ⟨content, hformat, hcontent, himport⟩ := parseShapefile_failed.mp h
      exact .notImported hchecked hformat hcontent himport
    · exact absurd h extract_failed
  · intro h
    cases h with
    | noArea harea hread => exact Or.inl (readArea_failed.mpr ⟨_, harea, hread, rfl⟩)
    | notFetched hfetched hfailed =>
      exact Or.inr (Or.inr (Or.inr (Or.inl ⟨_, hfetched,
        checkContent_failed.mpr (Or.inl ⟨hfailed, rfl⟩)⟩)))
    | noContent hfetched hsuccess hcontent hskipped =>
      exact Or.inr (Or.inr (Or.inr (Or.inl ⟨_, hfetched,
        checkContent_failed.mpr (Or.inr (Or.inl ⟨hsuccess, hcontent, hskipped, rfl⟩))⟩)))
    | invalid hfetched hsuccess hcontent hcheck hinvalid =>
      exact Or.inr (Or.inr (Or.inr (Or.inl ⟨_, hfetched, checkContent_failed.mpr
        (Or.inr (Or.inr ⟨_, _, hsuccess, hcontent, hcheck, hinvalid, rfl⟩))⟩)))
    | notImported hchecked hformat hcontent himport =>
      exact Or.inr (Or.inr (Or.inr (Or.inr (Or.inl ⟨_, hchecked,
        parseShapefile_failed.mpr ⟨_, hformat, hcontent, himport⟩⟩))))

theorem acquire_raised_iff :
    (∃ e, acquire w job = .error (.raised e)) ↔ PipelineRaises w job := by
  simp only [acquire_error]
  constructor
  · rintro ⟨e, h | ⟨area, harea, h⟩ | ⟨area, content, harea, hcontent, h⟩ | ⟨fetched, hfetched, h⟩ |
      ⟨fetched, hchecked, h⟩ | ⟨fetched, shapefile, hchecked, himported, h⟩⟩
    · obtain ⟨aoiId, message, harea, hread⟩ := readArea_raised.mp ⟨e, h⟩
      exact .reader harea hread
    · obtain ⟨raw, message, hraw, hne, hdecode, -⟩ := uploaded_error.mp h
      exact .base64 harea hraw hne hdecode
    · obtain ⟨message, hfetch, -⟩ := fetch_error.mp h
      exact .cancelled harea hcontent hfetch
    · obtain ⟨hsuccess, content, hcontent, hraises⟩ := checkContent_raised.mp ⟨e, h⟩
      exact .check hfetched hsuccess hcontent hraises
    · obtain ⟨hformat, hcontent | ⟨content, hcontent, hraises⟩⟩ := parseShapefile_raised.mp ⟨e, h⟩
      · exact .assertion hchecked hformat hcontent
      · exact .importer hchecked hformat hcontent hraises
    · obtain ⟨source, statistics, hindex, hsource, hstatistics, hrange⟩ := extract_raised.mp ⟨e, h⟩
      exact .spei hchecked himported hindex hsource hstatistics hrange
  · intro h
    cases h with
    | reader harea hread =>
      obtain ⟨e, h⟩ := readArea_raised.mpr ⟨_, _, harea, hread⟩
      exact ⟨e, Or.inl h⟩
    | base64 harea hraw hne hdecode =>
      exact ⟨_, Or.inr (Or.inl ⟨_, harea, uploaded_error.mpr ⟨_, _, hraw, hne, hdecode, rfl⟩⟩)⟩
    | cancelled harea hcontent hfetch =>
      exact ⟨_, Or.inr (Or.inr (Or.inl ⟨_, _, harea, hcontent,
        fetch_error.mpr ⟨_, hfetch, rfl⟩⟩))⟩
    | check hfetched hsuccess hcontent hraises =>
      obtain ⟨e, h⟩ := checkContent_raised.mpr ⟨hsuccess, _, hcontent, hraises⟩
      exact ⟨e, Or.inr (Or.inr (Or.inr (Or.inl ⟨_, hfetched, h⟩)))⟩
    | assertion hchecked hformat hcontent =>
      obtain ⟨e, h⟩ := parseShapefile_raised.mpr ⟨hformat, Or.inl hcontent⟩
      exact ⟨e, Or.inr (Or.inr (Or.inr (Or.inr (Or.inl ⟨_, hchecked, h⟩))))⟩
    | importer hchecked hformat hcontent hraises =>
      obtain ⟨e, h⟩ := parseShapefile_raised.mpr ⟨hformat, Or.inr ⟨_, hcontent, hraises⟩⟩
      exact ⟨e, Or.inr (Or.inr (Or.inr (Or.inr (Or.inl ⟨_, hchecked, h⟩))))⟩
    | spei hchecked himported hindex hsource hstatistics hrange =>
      obtain ⟨e, h⟩ := extract_raised.mpr ⟨_, _, hindex, hsource, hstatistics, hrange⟩
      exact ⟨e, Or.inr (Or.inr (Or.inr (Or.inr (Or.inr ⟨_, _, hchecked, himported, h⟩))))⟩

end GeoRisk.DataAcquisition
