import Mathlib
import GeoRisk.Lib.Runs
import GeoRisk.DataAcquisition.Pipeline

/-! When an execution leaves its job running. The first transaction commits `RUNNING`; after that the
    job is stuck iff an exception leaves the pipeline, or what is to be recorded is refused: a blank
    name, or a row that does not fit its columns. All that the program composes itself does fit.

        start ─▶ pipeline ─▶ rejected ─▶ error storable ─▶ FAILED
                    │  └───▶ acquired ─▶ metadata valid ─▶ dataset fits ─▶ job fits ─▶ COMPLETED
                    ▼                        ▼                 ▼              ▼
                    └────────────────────────┴─────────────────┴──────────────┴────▶ RUNNING -/

namespace GeoRisk.DataAcquisition

/-! ### Composed texts -/

theorem mem_stripped_or {p : Char → Bool} {cs : List Char} {c : Char} (h : c ∈ cs) :
    p c = true ∨ c ∈ stripped p cs := by
  have hside : ∀ {cs : List Char}, c ∈ cs → p c = true ∨ c ∈ cs.dropWhile p := by
    intro cs hc
    rw [← List.takeWhile_append_dropWhile (p := p) (l := cs)] at hc
    rcases List.mem_append.mp hc with hc | hc
    · exact Or.inl (List.mem_takeWhile_imp hc)
    · exact Or.inr hc
  rcases hside h with hp | hc
  · exact Or.inl hp
  · rcases hside (List.mem_reverse.mpr hc) with hp | hc
    · exact Or.inl hp
    · exact Or.inr (List.mem_reverse.mpr hc)

/-- A supported CRS is made of its scheme, digits and blanks. -/
theorem storable_of_validateCrs {crs : String} (h : validateCrs crs = []) : storable crs = true := by
  obtain ⟨-, hmatch⟩ := validateCrs_nil h
  simp only [matchesEpsg, Bool.and_eq_true, List.isPrefixOf_iff_prefix] at hmatch
  obtain ⟨⟨⟨rest, hprefix⟩, -⟩, hdecimal⟩ := hmatch
  rw [← hprefix] at hdecimal
  rw [storable, List.all_eq_true]
  intro c hc
  refine decide_eq_true ?_
  rintro rfl
  rcases mem_stripped_or (p := isSpace) hc with hspace | hc
  · exact absurd hspace (by decide)
  · rw [← hprefix] at hc
    rcases List.mem_append.mp hc with hc | hc
    · exact absurd hc (by decide)
    · exact absurd (List.all_eq_true.mp hdecimal _ hc) (by decide)

section Printed

variable (r : FloatRepr) (box : BoundingBox)

theorem fits_boundingBox : fits 104 (r.boundingBox box) = true := by
  obtain ⟨xmin, ymin, xmax, ymax⟩ := box
  have hnumber : ∀ x, fits 24 (r.repr x) = true := fun x => by
    rw [fits, r.plain, Bool.and_true]
    exact decide_eq_true (r.short x)
  have hopen : fits 1 "(" = true := by decide
  have hcomma : fits 2 ", " = true := by decide
  have hclose : fits 1 ")" = true := by decide
  have hx := fits_append (fits_append hopen (hnumber xmin) (le_refl 25)) hcomma (le_refl 27)
  have hy := fits_append (fits_append hx (hnumber ymin) (le_refl 51)) hcomma (le_refl 53)
  have hx' := fits_append (fits_append hy (hnumber xmax) (le_refl 77)) hcomma (le_refl 79)
  exact fits_append (fits_append hx' (hnumber ymax) (le_refl 103)) hclose (le_refl 104)

@[simp] theorem storable_boundingBox : storable (r.boundingBox box) = true :=
  storable_of_fits (fits_boundingBox r box)

end Printed

@[simp] theorem storable_reprNames (names : List String) : storable (reprNames names) = true := by
  have hlist : storable (", ".intercalate (names.map pyRepr)) = true := by
    refine storable_intercalate (by decide) fun text htext => ?_
    obtain ⟨name, -, rfl⟩ := List.mem_map.mp htext
    exact storable_pyRepr name
  have hopen : storable "[" = true := by decide
  have hclose : storable "]" = true := by decide
  simp [reprNames, hlist, hopen, hclose]

/-! ### The two dictionaries -/

theorem storable_source (source : RemoteSensingSource) : storable source.value = true := by
  cases source <;> decide

theorem storable_index (index : SpectralIndex) : storable index.value = true := by
  cases index <;> decide

theorem storable_bands (index : SpectralIndex) :
    storable (", ".intercalate (requiredBandsByIndex index)) = true := by
  cases index <;> decide

/-- The reasons for which an index is skipped name the source, the index and its bands. -/
theorem storable_of_skipped {libm : PyFloat.Libm} {source : RemoteSensingSource}
    {statistics : BandStatistics} {comparison : Option BandStatistics} {index : SpectralIndex}
    {reason : String} (h : judge libm source statistics comparison index = .ok (.skipped reason)) :
    storable reason = true := by
  unfold judge at h
  split at h
  · split at h
    · cases h
      decide
    · split at h
      · cases h
      · cases h
        have htext : storable " does not provide the NIR/SWIR2 bands required for dNBR" = true := by
          decide
        simp [storable_source, htext]
  · dsimp only at h
    split at h
    · cases h
      have htext : storable " does not provide the band(s) required for " = true := by decide
      have hopen : storable " (" = true := by decide
      have hclose : storable ")" = true := by decide
      simp [storable_source, storable_index, storable_bands, htext, hopen, hclose]
    · obtain ⟨v, -, h⟩ := Lib.map_ok.mp h
      cases h

/-- The names in both dictionaries can be stored, and so can the reasons. -/
def PlainFeatures (features : List (String × PyFloat) × List (String × String)) : Prop :=
  (∀ p ∈ features.1, storable p.1 = true) ∧
    ∀ p ∈ features.2, storable p.1 = true ∧ storable p.2 = true

theorem plainFeatures_of_extract {w : World} {job : AcquisitionJob} {fetched : FetchResult}
    {features : List (String × PyFloat) × List (String × String)}
    (h : extract w job fetched = .ok features) : PlainFeatures features := by
  unfold extract at h
  split at h
  · cases h
    exact ⟨by simp, by simp⟩
  · cases h
    exact ⟨by simp, by simp⟩
  · split at h
    · refine Lib.foldlM_inv (P := PlainFeatures) ?_ ⟨by simp, by simp⟩ (raising_ok.mp h)
      rintro index - features features' ⟨hcomputed, hskipped⟩ hround
      obtain ⟨verdict, hverdict, rfl⟩ := Lib.map_ok.mp hround
      cases verdict with
      | computed v =>
        refine ⟨fun p hp => ?_, hskipped⟩
        rcases mem_setItem hp with hp | rfl
        · exact hcomputed p hp
        · exact storable_index index
      | skipped reason =>
        refine ⟨hcomputed, fun p hp => ?_⟩
        rcases mem_setItem hp with hp | rfl
        · exact hskipped p hp
        · exact ⟨storable_index index, storable_of_skipped hverdict⟩
    · cases h
      refine ⟨by simp, ?_⟩
      refine Lib.inv_foldl (P := fun d : List (String × String) =>
        ∀ p ∈ d, storable p.1 = true ∧ storable p.2 = true) ?_ _ (by simp)
      intro d index hd p hp
      rcases mem_setItem hp with hp | rfl
      · exact hd p hp
      · have hreason : storable "provider returned no band statistics" = true := by decide
        exact ⟨storable_index index, hreason⟩

/-! ### What is recorded of a completed job -/

/-- What the two rows of a completed job demand of it: the checks of the metadata, and the columns
    whose content does not come from the program itself. -/
structure CompletedFits (w : World) (job : AcquisitionJob) (db : Db) (tie : ℕ) (acquired : Acquired) :
    Prop where
  named : isBlank job.sourceReference = false
  referenced : acquired.fetched.content = none → isBlank job.declaredCrs = false
  name : job.sourceReference.length ≤ 200
  lineage : ∀ previous, db.getLatest tie job.tenantId job.sourceReference = some previous →
    previous.version + 1 < 2 ^ 31 ∧ previous.provenance.all ProvenanceEntry.storable = true
  warning : ∀ text, acquired.fetched.rasterSkippedReason = some text → storable text = true
  features : ∀ p ∈ acquired.computedFeatures, finite p.2 = true
  crs : ∀ shapefile, acquired.shapefile = some shapefile → shapefile.crs.length ≤ 30
  count : ∀ shapefile, acquired.shapefile = some shapefile →
    fitsInteger shapefile.featureCount = true
  box : ∀ shapefile, acquired.shapefile = some shapefile → finiteBox shapefile.boundingBox = true
  attributes : ∀ shapefile, acquired.shapefile = some shapefile →
    ∀ p ∈ shapefile.firstFeatureAttributes, storable p.1 = true ∧ p.2.storable = true

section Rows

variable {w : World} {job done : AcquisitionJob} {acquired : Acquired} {now : Timestamp}

theorem started_fits (h : job.fits = true) : (job.started now).fits = true := by
  have hentry : ProvenanceEntry.storable ⟨now, "system", "STARTED", "Fetch started", none⟩ = true := by
    simp only [ProvenanceEntry.storable]
    decide
  simp only [AcquisitionJob.fits, AcquisitionJob.started, List.all_append, List.all_cons,
    List.all_nil, hentry, Bool.and_true] at h ⊢
  exact h

theorem ofFailure_fits {error : String} (h : job.fits = true) :
    (job.ofFailure error now).fits = storable error := by
  have hentry : ProvenanceEntry.storable ⟨now, "system", "FAILED", error, none⟩ = storable error := by
    have hactor : storable "system" = true := by decide
    have haction : storable "FAILED" = true := by decide
    simp [ProvenanceEntry.storable, hactor, haction]
  simp only [AcquisitionJob.fits, Bool.and_eq_true] at h
  simp only [AcquisitionJob.fits, AcquisitionJob.ofFailure, List.all_append, List.all_cons,
    List.all_nil, hentry, Bool.and_true, Option.all_some, h]
  simp

theorem imported_ok {fetched : FetchResult} {result : ShapefileImportResult}
    (h : Imported w job fetched (some result)) :
    validateCrs result.crs = [] ∧ result.geometryType ∈ supportedGeometryTypes := by
  cases h with
  | shapefile hformat hcontent himport => exact parseShapefileArchive_ok himport

theorem fits_supported {geometryType : String} (h : geometryType ∈ supportedGeometryTypes) :
    fits 30 geometryType = true := by
  have hall : ∀ geometryType ∈ supportedGeometryTypes, fits 30 geometryType = true := by decide
  exact hall geometryType h

/-- The description of a completed job is as plain as the warning that it repeats. -/
theorem storable_description {fetched : FetchResult}
    (h : Imported w job fetched acquired.shapefile) :
    storable (completionDescription w job acquired) =
      acquired.fetched.rasterSkippedReason.all storable := by
  have hbase : storable "Fetched, validated, and catalogued successfully" = true := by decide
  have hnothing : storable "" = true := by decide
  have hfeatures : storable "; extracted features: " = true := by decide
  have hwarning : storable "; WARNING: " = true := by decide
  have hfile : storable "; Shapefile import: file=" = true := by decide
  have htype : storable "geometry_type=" = true := by decide
  have hcount : storable ", features=" = true := by decide
  have hcrs : storable "crs=" = true := by decide
  have hbox : storable ", bbox=" = true := by decide
  have hcomma : storable ", " = true := by decide
  have himporter : storable "importer=" = true := by decide
  have hversion : storable SHAPEFILE_IMPORTER_VERSION = true := by decide
  have hcomputed : storable (if acquired.computedFeatures = [] then "" else
      "; extracted features: " ++ reprNames (sortedNames (acquired.computedFeatures.map Prod.fst))) =
      true := by
    split
    · exact hnothing
    · simp [hfeatures]
  unfold completionDescription
  rw [storable_append, storable_append, storable_append, hbase, hcomputed]
  cases hskipped : acquired.fetched.rasterSkippedReason with
  | none =>
    cases hshapefile : acquired.shapefile with
    | none => simp [hnothing]
    | some result =>
      rw [hshapefile] at h
      obtain ⟨hvalid, hsupported⟩ := imported_ok h
      simp [hnothing, hfile, htype, hcount, hcrs, hbox, hcomma, himporter, hversion,
        storable_of_validateCrs hvalid, storable_of_fits (fits_supported hsupported)]
  | some warning =>
    cases hshapefile : acquired.shapefile with
    | none => simp [hnothing, hwarning]
    | some result =>
      rw [hshapefile] at h
      obtain ⟨hvalid, hsupported⟩ := imported_ok h
      simp [hwarning, hfile, htype, hcount, hcrs, hbox, hcomma, himporter, hversion,
        storable_of_validateCrs hvalid, storable_of_fits (fits_supported hsupported)]

theorem ofCompletion_fits {datasetId : DatasetId} (h : job.fits = true)
    (hacquired : Acquires w job acquired) :
    (job.ofCompletion w datasetId acquired now).fits = true ↔
      acquired.fetched.rasterSkippedReason.all storable = true ∧
      acquired.computedFeatures.all (fun p => finite p.2) = true ∧
      acquired.shapefile.all (fun shapefile => shapefile.crs.length ≤ 30 &&
        fitsInteger shapefile.featureCount && finiteBox shapefile.boundingBox &&
        shapefile.firstFeatureAttributes.all fun p => storable p.1 && p.2.storable) = true := by
  obtain ⟨hcomputed, hskipped⟩ := plainFeatures_of_extract hacquired.extracted
  have hentry : ProvenanceEntry.storable ⟨now, "system", "COMPLETED",
      completionDescription w job acquired, some (toString datasetId)⟩ =
      acquired.fetched.rasterSkippedReason.all storable := by
    have hactor : storable "system" = true := by decide
    have haction : storable "COMPLETED" = true := by decide
    have hid : storable (toString datasetId) = true := storable_uuid datasetId.value
    simp [ProvenanceEntry.storable, hactor, haction, hid, storable_description hacquired.imported]
  have hnames : acquired.computedFeatures.all (fun p => storable p.1 && finite p.2) =
      acquired.computedFeatures.all (fun p => finite p.2) := by
    rw [Bool.eq_iff_iff, List.all_eq_true, List.all_eq_true]
    refine forall₂_congr fun p hp => ?_
    simp [hcomputed p hp]
  have hreasons : acquired.skippedFeatures.all (fun p => storable p.1 && storable p.2) = true := by
    rw [List.all_eq_true]
    intro p hp
    simpa using hskipped p hp
  simp only [AcquisitionJob.fits, Bool.and_eq_true] at h
  unfold AcquisitionJob.fits
  rw [ofCompletion_features.1, ofCompletion_features.2, hnames, hreasons]
  simp only [AcquisitionJob.ofCompletion, List.all_append, List.all_cons, List.all_nil, hentry, h]
  cases hshapefile : acquired.shapefile with
  | none =>
    have hempty : fits 30 "" = true := by decide
    simp [hempty, and_comm]
  | some result =>
    obtain ⟨hvalid, hsupported⟩ := imported_ok (hshapefile ▸ hacquired.imported)
    have hcrs : fits 30 result.crs = decide (result.crs.length ≤ 30) := by
      rw [fits, storable_of_validateCrs hvalid, Bool.and_true]
    simp only [Option.map_some, Option.getD_some, Option.all_some, fits_supported hsupported, hcrs,
      Bool.and_true, Bool.true_and, Bool.and_eq_true]
    constructor
    · rintro ⟨⟨⟨⟨⟨hwarning, hfeatures⟩, hcount⟩, hbox⟩, hlength⟩, hattributes⟩
      exact ⟨hwarning, hfeatures, ⟨⟨hlength, hcount⟩, hbox⟩, hattributes⟩
    · rintro ⟨hwarning, hfeatures, ⟨⟨hlength, hcount⟩, hbox⟩, hattributes⟩
      exact ⟨⟨⟨⟨⟨hwarning, hfeatures⟩, hcount⟩, hbox⟩, hlength⟩, hattributes⟩

/-- The name of a source of a dataset: the job and its provider. -/
theorem fits_source (id : AcquisitionJobId) (provider : DataProvider) :
    fits 200 s!"AcquisitionJob {id} via {provider.value}" = true := by
  have hprovider : fits 50 provider.value = true := by
    cases provider <;> decide
  have hjob : fits 15 "AcquisitionJob " = true := by decide
  have hid : fits 51 ("AcquisitionJob " ++ toString id) = true :=
    fits_append hjob (fits_uuid id.value) (by decide)
  have hvia : fits 5 " via " = true := by decide
  exact fits_append (fits_append hid hvia (le_refl 56)) hprovider (by decide)

theorem metadata_ok {shapefile : Option ShapefileImportResult} {metadata : DatasetMetadata}
    (h : metadataForCompletedJob w job shapefile now = .ok metadata) :
    metadata.name = job.sourceReference ∧
      metadata.source = s!"AcquisitionJob {job.id} via {job.provider.value}" ∧
      metadata.crs = (shapefile.map (·.crs)).getD job.declaredCrs ∧
      metadata.spatialCoverage = spatialCoverage w shapefile ∧ metadata.modelUsed = none := by
  obtain ⟨hname, hcrs, rfl⟩ := DatasetMetadata.make_ok.mp h
  exact ⟨rfl, rfl, rfl, rfl, rfl⟩

/-- The CRS and the coverage of the metadata fit, as soon as the CRS of a shapefile is short enough. -/
theorem coverage_fits (h : job.fits = true) (hacquired : Acquires w job acquired) :
    (fits 30 ((acquired.shapefile.map (·.crs)).getD job.declaredCrs) &&
      fits 500 (spatialCoverage w acquired.shapefile)) =
      acquired.shapefile.all fun shapefile => shapefile.crs.length ≤ 30 := by
  cases hshapefile : acquired.shapefile with
  | none =>
    have hfirst : fits 400 "Not derived — Sprint 13's Dataset Validation is structural " = true := by
      decide +kernel
    have hsecond : fits 100 "(format/CRS), not full geospatial extent computation" = true := by
      decide +kernel
    have hplaceholder : fits 500 (spatialCoverage w none) = true :=
      fits_append hfirst hsecond (by decide)
    simp only [AcquisitionJob.fits, Bool.and_eq_true] at h
    simp [h, hplaceholder]
  | some result =>
    obtain ⟨hvalid, -⟩ := imported_ok (hshapefile ▸ hacquired.imported)
    have hplain := storable_of_validateCrs hvalid
    have hcrs : fits 30 result.crs = decide (result.crs.length ≤ 30) := by
      rw [fits, hplain, Bool.and_true]
    simp only [Option.map_some, Option.getD_some, Option.all_some, hcrs]
    by_cases hshort : result.crs.length ≤ 30
    · have hcoverage : fits 500 (spatialCoverage w (some result)) = true := by
        have hprefix : fits 4 "BBOX" = true := by decide
        have hin : fits 4 " in " = true := by decide
        have hbox := fits_append hprefix (fits_boundingBox w.floatRepr result.boundingBox) (le_refl 108)
        exact fits_append (fits_append hbox hin (le_refl 112)) (hcrs.trans (decide_eq_true hshort))
          (by decide)
      rw [hcoverage, Bool.and_true]
    · rw [decide_eq_false hshort, Bool.false_and]

/-- A dataset of the job fits its row iff its name and its CRS are short enough, and its version and
    its provenance can be stored. -/
theorem dataset_fits_iff {metadata : DatasetMetadata} {dataset : Dataset} (h : job.fits = true)
    (hacquired : Acquires w job acquired)
    (hmetadata : metadataForCompletedJob w job acquired.shapefile now = .ok metadata)
    (hdataset : dataset.metadata = metadata) (hby : dataset.cataloguedBy = job.requestedBy) :
    dataset.fits = true ↔ job.sourceReference.length ≤ 200 ∧
      (acquired.shapefile.all fun shapefile => shapefile.crs.length ≤ 30) = true ∧
      dataset.version < 2 ^ 31 ∧ dataset.provenance.all ProvenanceEntry.storable = true := by
  obtain ⟨hname, hsource, hcrs, hcoverage, hmodel⟩ := metadata_ok hmetadata
  have hcolumns := coverage_fits h hacquired
  rw [← hcrs, ← hcoverage] at hcolumns
  simp only [AcquisitionJob.fits, Bool.and_eq_true] at h
  have hreference : storable job.sourceReference = true := h.1.1.1.1.1.1.1.1.1.1.1.1
  have hrequested : fits 200 job.requestedBy = true := h.1.1.1.1.1.1.1.2
  have hsource' : fits 200 metadata.source = true := hsource ▸ fits_source job.id job.provider
  have hmodel' : fits 200 (metadata.modelUsed.getD "") = true := by
    rw [hmodel]
    decide
  have hname' : fits 200 metadata.name = decide (job.sourceReference.length ≤ 200) := by
    rw [hname, fits, hreference, Bool.and_true]
  rw [← hcolumns]
  simp only [Dataset.fits, hdataset, hby, hrequested, hsource', hmodel', hname', Bool.and_true,
    Bool.and_eq_true, decide_eq_true_eq]
  constructor
  · rintro ⟨⟨⟨⟨hversion, hlength⟩, hcrs⟩, hcoverage⟩, hprovenance⟩
    exact ⟨hlength, ⟨hcrs, hcoverage⟩, hversion, hprovenance⟩
  · rintro ⟨hlength, ⟨hcrs, hcoverage⟩, hversion, hprovenance⟩
    exact ⟨⟨⟨⟨hversion, hlength⟩, hcrs⟩, hcoverage⟩, hprovenance⟩

/-- The dataset of a completed job can be written iff its name and its CRS are short enough, and what
    it continues can be continued. -/
theorem catalogAcquired_iff {db : Db} {metadata : DatasetMetadata} {id : DatasetId} {tie : ℕ}
    (h : job.fits = true) (hacquired : Acquires w job acquired)
    (hmetadata : metadataForCompletedJob w job acquired.shapefile now = .ok metadata) :
    (∃ r, catalogAcquired job metadata id tie now db = .ok r) ↔
      job.sourceReference.length ≤ 200 ∧
      (acquired.shapefile.all fun shapefile => shapefile.crs.length ≤ 30) = true ∧
      ∀ previous, db.getLatest tie job.tenantId job.sourceReference = some previous →
        previous.version + 1 < 2 ^ 31 ∧ previous.provenance.all ProvenanceEntry.storable = true := by
  have hactor : storable job.requestedBy = true := by
    simp only [AcquisitionJob.fits, Bool.and_eq_true] at h
    exact storable_of_fits h.1.1.1.1.1.1.1.2
  unfold catalogAcquired
  split
  · next hlatest =>
    have hentry : ProvenanceEntry.storable ⟨now, job.requestedBy, "CATALOGUED",
        s!"Initial cataloguing of {pyRepr metadata.name}", none⟩ = true := by
      have haction : storable "CATALOGUED" = true := by decide
      have htext : storable "Initial cataloguing of " = true := by decide
      simp [ProvenanceEntry.storable, hactor, haction, htext]
    have hfits := @dataset_fits_iff w job acquired now metadata (Dataset.catalog id job.tenantId
      job.datasetSourceId metadata ∅ job.requestedBy now).1 h hacquired hmetadata rfl rfl
    rw [Lib.exists_bind_ok]
    constructor
    · rintro ⟨_, hflushed, -⟩
      obtain ⟨hlength, hcrs, -⟩ := hfits.mp (flushed_ok.mp hflushed)
      refine ⟨hlength, hcrs, fun previous hprevious => ?_⟩
      cases hlatest.symm.trans hprevious
    · rintro ⟨hlength, hcrs, -⟩
      have hrow := hfits.mpr ⟨hlength, hcrs, by simp [Dataset.catalog], by
        simp only [Dataset.catalog, List.all_cons, List.all_nil, hentry, Bool.and_true]⟩
      exact ⟨(), flushed_ok.mpr hrow, _, rfl⟩
  · next previous hlatest =>
    have hentry : ProvenanceEntry.storable ⟨now, job.requestedBy, "REVISED",
        s!"Re-uploaded via AcquisitionJob {job.id}", some (toString previous.id)⟩ = true := by
      have haction : storable "REVISED" = true := by decide
      have htext : storable "Re-uploaded via AcquisitionJob " = true := by decide
      have hjob : storable (toString job.id) = true := storable_uuid job.id.value
      have hprevious : storable (toString previous.id) = true := storable_uuid previous.id.value
      simp [ProvenanceEntry.storable, hactor, haction, htext, hjob, hprevious]
    have hfits := @dataset_fits_iff w job acquired now metadata (previous.revise id metadata
      previous.readiness s!"Re-uploaded via AcquisitionJob {job.id}" job.requestedBy now).1 h hacquired
      hmetadata rfl rfl
    have hprovenance : (previous.revise id metadata previous.readiness
        s!"Re-uploaded via AcquisitionJob {job.id}" job.requestedBy now).1.provenance.all
          ProvenanceEntry.storable = previous.provenance.all ProvenanceEntry.storable := by
      simp only [Dataset.revise, List.all_append, List.all_cons, List.all_nil, hentry, Bool.and_true]
    rw [hprovenance] at hfits
    rw [Lib.exists_bind_ok]
    constructor
    · rintro ⟨_, hflushed, -⟩
      obtain ⟨hlength, hcrs, hlineage⟩ := hfits.mp (flushed_ok.mp hflushed)
      refine ⟨hlength, hcrs, fun previous' hprevious => ?_⟩
      cases hlatest.symm.trans hprevious
      exact hlineage
    · rintro ⟨hlength, hcrs, hlineage⟩
      have hrow := hfits.mpr ⟨hlength, hcrs, hlineage previous hlatest⟩
      exact ⟨(), flushed_ok.mpr hrow, _, rfl⟩

/-! ### The whole execution -/

/-- Everything that an execution has acquired or rejected can be recorded, and nothing is raised. -/
structure NothingEscapes (w : World) (job : AcquisitionJob) (db : Db) (tie : ℕ) : Prop where
  pipeline : ¬ PipelineRaises w job
  error : ∀ text, Rejected w job text → storable text = true
  record : ∀ acquired, Acquires w job acquired → CompletedFits w job db tie acquired

/-- Content that went through the check was declared with a supported CRS. -/
theorem declaredCrs_of_checked {fetched : FetchResult} {content : Bytes}
    (h : Checked w job fetched) (hcontent : fetched.content = some content) :
    isBlank job.declaredCrs = false := by
  obtain ⟨outcome, hcheck, hvalid⟩ := h.valid content hcontent
  obtain ⟨⟨formatErrors, extracted⟩, -, houtcome⟩ := Lib.bind_ok.mp hcheck
  cases houtcome
  have herrors : formatErrors ++ validateCrs job.declaredCrs = [] := List.isEmpty_iff.mp hvalid
  exact (validateCrs_nil (List.append_eq_nil_iff.mp herrors).2).1

/-- The metadata are valid iff neither the name nor the CRS is blank; a CRS that was checked is not. -/
theorem metadata_iff (hacquired : Acquires w job acquired) :
    (∃ metadata, metadataForCompletedJob w job acquired.shapefile now = .ok metadata) ↔
      isBlank job.sourceReference = false ∧
        (acquired.fetched.content = none → isBlank job.declaredCrs = false) := by
  have hcrs : isBlank ((acquired.shapefile.map (·.crs)).getD job.declaredCrs) = false ↔
      (acquired.fetched.content = none → isBlank job.declaredCrs = false) := by
    cases hshapefile : acquired.shapefile with
    | some result =>
      have himported := hshapefile ▸ hacquired.imported
      have hblank : isBlank result.crs = false := (validateCrs_nil (imported_ok himported).1).1
      refine iff_of_true hblank fun hnone => ?_
      cases himported with
      | shapefile hformat hcontent himport => cases hnone.symm.trans hcontent
    | none =>
      cases hcontent : acquired.fetched.content with
      | none => simp
      | some content => simp [declaredCrs_of_checked hacquired.checked hcontent]
  rw [← hcrs]
  constructor
  · rintro ⟨metadata, h⟩
    obtain ⟨hname, hcrs, -⟩ := DatasetMetadata.make_ok.mp h
    exact ⟨hname, hcrs⟩
  · rintro ⟨hname, hcrs⟩
    exact ⟨_, DatasetMetadata.make_ok.mpr ⟨hname, hcrs, rfl⟩⟩

/-- A job that came from its row can be saved again iff the new row fits. -/
theorem exists_saveJob {db : Db} {event : AcquisitionEvent} (h : CanonicalArea job.aoiId) :
    (∃ db', saveJob db job event now = .ok db') ↔ job.fits = true := by
  constructor
  · rintro ⟨db', hsave⟩
    obtain ⟨row, hrow, hfits, -⟩ := saveJob_ok.mp hsave
    cases (stored_of_canonicalArea h).symm.trans hrow
    exact hfits
  · intro hfits
    exact ⟨_, saveJob_ok.mpr ⟨job, stored_of_canonicalArea h, hfits, rfl⟩⟩

variable {db : Db} {tie : ℕ} {datasetId : DatasetId}

theorem exists_failJob {error : String} (harea : CanonicalArea job.aoiId) (hfits : job.fits = true)
    (hrunning : job.status = .running) :
    (∃ r, failJob job error now db = .ok r) ↔ storable error = true := by
  have hfail : job.fail error now =
      .ok (job.ofFailure error now, ⟨job.id, job.tenantId, error⟩) := by
    rw [AcquisitionJob.fail, if_neg (not_not.mpr hrunning)]
    rfl
  rw [← @ofFailure_fits _ now _ hfits]
  have hfailed : CanonicalArea (job.ofFailure error now).aoiId := harea
  rw [← @exists_saveJob _ now db (.acquisitionJobFailed ⟨job.id, job.tenantId, error⟩) hfailed]
  constructor
  · rintro ⟨r, h⟩
    obtain ⟨p, hp, h⟩ := Lib.bind_ok.mp h
    cases hfail.symm.trans hp
    obtain ⟨db', hsave, -⟩ := Lib.bind_ok.mp h
    exact ⟨db', hsave⟩
  · rintro ⟨db', hsave⟩
    exact ⟨_, Lib.bind_ok.mpr ⟨_, hfail, Lib.bind_ok.mpr ⟨db', hsave, rfl⟩⟩⟩

/-- The completed job can be written iff both of its rows fit. -/
theorem exists_completes (harea : CanonicalArea job.aoiId) (hfits : job.fits = true)
    (hrunning : job.status = .running) (hacquired : Acquires w job acquired) :
    (∃ db' done, Completes w job datasetId tie now db db' done acquired) ↔
      CompletedFits w job db tie acquired := by
  constructor
  · rintro ⟨db', done, -, metadata, db₁, dataset, event, hmetadata, hcatalog, hcomplete, hsave⟩
    obtain ⟨hnamed, hreferenced⟩ := (metadata_iff hacquired).mp ⟨metadata, hmetadata⟩
    obtain ⟨hname, hcrs, hlineage⟩ :=
      (catalogAcquired_iff hfits hacquired hmetadata).mp ⟨_, hcatalog⟩
    obtain ⟨-, rfl, -⟩ := complete_ok.mp hcomplete
    have hdone : CanonicalArea (job.ofCompletion w dataset.id acquired now).aoiId := harea
    have hrow := (exists_saveJob hdone).mp ⟨db', hsave⟩
    obtain ⟨hwarning, hfeatures, hshapefile⟩ := (ofCompletion_fits hfits hacquired).mp hrow
    simp only [Option.all_eq_true, Bool.and_eq_true, decide_eq_true_eq, List.all_eq_true]
      at hwarning hfeatures hshapefile
    exact {
      named := hnamed
      referenced := hreferenced
      name := hname
      lineage := hlineage
      warning := fun text htext => hwarning text htext
      features := hfeatures
      crs := fun result h => (hshapefile result h).1.1.1
      count := fun result h => (hshapefile result h).1.1.2
      box := fun result h => (hshapefile result h).1.2
      attributes := fun result h => (hshapefile result h).2 }
  · intro h
    obtain ⟨metadata, hmetadata⟩ :=
      (@metadata_iff _ _ _ now hacquired).mpr ⟨h.named, h.referenced⟩
    have hcrs : (acquired.shapefile.all fun shapefile => shapefile.crs.length ≤ 30) = true := by
      simpa [Option.all_eq_true] using h.crs
    have hcatalog : ∃ r, catalogAcquired job metadata datasetId tie now db = .ok r :=
      (catalogAcquired_iff hfits hacquired hmetadata).mpr ⟨h.name, hcrs, h.lineage⟩
    obtain ⟨⟨db₁, dataset⟩, hcatalog⟩ := hcatalog
    have hrow : (job.ofCompletion w dataset.id acquired now).fits = true := by
      refine (ofCompletion_fits hfits hacquired).mpr ⟨?_, ?_, ?_⟩
      · simpa [Option.all_eq_true] using h.warning
      · exact List.all_eq_true.mpr h.features
      · simp only [Option.all_eq_true, Bool.and_eq_true, decide_eq_true_eq, List.all_eq_true]
        intro result hresult
        exact ⟨⟨⟨h.crs result hresult, h.count result hresult⟩, h.box result hresult⟩,
          h.attributes result hresult⟩
    have hdone : CanonicalArea (job.ofCompletion w dataset.id acquired now).aoiId := harea
    obtain ⟨db', hsave⟩ := (@exists_saveJob _ now db₁
      (.acquisitionJobCompleted ⟨job.id, job.tenantId, dataset.id⟩) hdone).mpr hrow
    exact ⟨db', _, acquire_ok_iff.mpr hacquired, metadata, db₁, dataset, _, hmetadata, hcatalog,
      complete_ok.mpr ⟨hrunning, rfl, rfl⟩, hsave⟩

/-- The second transaction commits iff nothing escapes from it. -/
theorem exists_finishJob (harea : CanonicalArea job.aoiId) (hfits : job.fits = true)
    (hrunning : job.status = .running) :
    (∃ r, finishJob w job datasetId tie now db = .ok r) ↔ NothingEscapes w job db tie := by
  have hpipeline : (∃ r, finishJob w job datasetId tie now db = .ok r) ↔
      (∃ error, acquire w job = .error (.failed error) ∧ storable error = true) ∨
      ∃ acquired, acquire w job = .ok acquired ∧ CompletedFits w job db tie acquired := by
    constructor
    · rintro ⟨⟨db', done⟩, h⟩
      rcases finishJob_ok.mp h with ⟨error, hacquire, hfail⟩ | ⟨acquired, hcompletes⟩
      · exact Or.inl ⟨error, hacquire, (exists_failJob harea hfits hrunning).mp ⟨_, hfail⟩⟩
      · have hacquired := acquire_ok_iff.mp hcompletes.got
        exact Or.inr ⟨acquired, hcompletes.got,
          (exists_completes harea hfits hrunning hacquired).mp ⟨db', done, hcompletes⟩⟩
    · rintro (⟨error, hacquire, hstorable⟩ | ⟨acquired, hacquire, hcompleted⟩)
      · obtain ⟨r, hfail⟩ := (exists_failJob harea hfits hrunning).mpr hstorable
        exact ⟨r, finishJob_ok.mpr (Or.inl ⟨error, hacquire, hfail⟩)⟩
      · obtain ⟨db', done, hcompletes⟩ :=
          (exists_completes harea hfits hrunning (acquire_ok_iff.mp hacquire)).mpr hcompleted
        exact ⟨(db', done), finishJob_ok.mpr (Or.inr ⟨acquired, hcompletes⟩)⟩
  rw [hpipeline]
  constructor
  · intro h
    refine ⟨fun hraises => ?_, fun text htext => ?_, fun acquired hacquired => ?_⟩
    · obtain ⟨e, hraised⟩ := acquire_raised_iff.mpr hraises
      rcases h with ⟨error, hacquire, -⟩ | ⟨acquired, hacquire, -⟩ <;>
        cases hraised.symm.trans hacquire
    · have hfailed := acquire_failed_iff.mpr htext
      rcases h with ⟨error, hacquire, hstorable⟩ | ⟨acquired, hacquire, -⟩
      · cases hfailed.symm.trans hacquire
        exact hstorable
      · cases hfailed.symm.trans hacquire
    · have hok := acquire_ok_iff.mpr hacquired
      rcases h with ⟨error, hacquire, -⟩ | ⟨acquired', hacquire, hcompleted⟩
      · cases hok.symm.trans hacquire
      · cases hok.symm.trans hacquire
        exact hcompleted
  · rintro ⟨hraises, herror, hrecord⟩
    cases hacquire : acquire w job with
    | ok acquired => exact Or.inr ⟨acquired, rfl, hrecord acquired (acquire_ok_iff.mp hacquire)⟩
    | error stop =>
      cases stop with
      | failed error => exact Or.inl ⟨error, rfl, herror error (acquire_failed_iff.mp hacquire)⟩
      | raised e => exact absurd (acquire_raised_iff.mp ⟨e, hacquire⟩) hraises

end Rows

/-! ### Settled and stuck jobs -/

/-- The stored job is completed with a dataset that is there, or failed with an error and without a
    dataset. -/
def Settled (db : Db) (id : AcquisitionJobId) : Prop :=
  ∃ job, db.acquisitionJobs.get id = some job ∧
    ((job.status = .completed ∧ ∃ dataset, job.datasetId = some dataset ∧
        (db.datasets.get dataset).isSome) ∨
      (job.status = .failed ∧ job.error ≠ none ∧ job.datasetId = none))

/-- The stored job is running. -/
def Stuck (db : Db) (id : AcquisitionJobId) : Prop :=
  ∃ job, db.acquisitionJobs.get id = some job ∧ job.status = .running

theorem not_settled_of_stuck {db : Db} {id : AcquisitionJobId} (h : Stuck db id) :
    ¬ Settled db id := by
  obtain ⟨job, hget, hrunning⟩ := h
  rintro ⟨job', hget', ⟨hcompleted, -⟩ | ⟨hfailed, -⟩⟩
  · cases hget.symm.trans hget'
    cases hrunning.symm.trans hcompleted
  · cases hget.symm.trans hget'
    cases hrunning.symm.trans hfailed

section Execution

variable {w : World} {job done : AcquisitionJob} {db db' : Db} {datasetId : DatasetId} {tie : ℕ}
  {started now : Timestamp}

/-- The row of a job that `schedule` has made. -/
structure ScheduledRow (c : ScheduleAcquisitionJob) (job : AcquisitionJob) : Prop where
  tenant : job.tenantId = c.tenantId
  scheduled : job.status = .scheduled
  dataset : job.datasetId = none
  area : CanonicalArea job.aoiId

theorem scheduledRow {id : AcquisitionJobId} {c : ScheduleAcquisitionJob} {now : Timestamp}
    {entity : AcquisitionJob} {event : AcquisitionJobScheduled}
    (hschedule : AcquisitionJob.schedule id c now = .ok (entity, event))
    (hstored : entity.stored = .ok job) : ScheduledRow c job := by
  have harea := canonicalArea_of_stored hstored
  rw [stored_ok hstored] at harea ⊢
  unfold AcquisitionJob.schedule at hschedule
  iterate 5
    split at hschedule
    · cases hschedule
  cases hschedule
  exact ⟨rfl, rfl, rfl, harea⟩

/-- Starting changes nothing that the pipeline or the second transaction looks at. -/
theorem nothingEscapes_started {outbox : List (OutboxEvent AcquisitionEvent)}
    {jobs : Lib.Table AcquisitionJob.id} :
    NothingEscapes w (job.started started) { db with acquisitionJobs := jobs, outbox } tie ↔
      NothingEscapes w job db tie := by
  have hacquire : acquire w (job.started started) = acquire w job := rfl
  have hraises : PipelineRaises w (job.started started) ↔ PipelineRaises w job := by
    rw [← acquire_raised_iff, ← acquire_raised_iff, hacquire]
  have hrejected : ∀ text, Rejected w (job.started started) text ↔ Rejected w job text := fun text => by
    rw [← acquire_failed_iff, ← acquire_failed_iff, hacquire]
  have hacquires : ∀ acquired, Acquires w (job.started started) acquired ↔ Acquires w job acquired :=
    fun acquired => by rw [← acquire_ok_iff, ← acquire_ok_iff, hacquire]
  constructor
  · rintro ⟨hpipeline, herror, hrecord⟩
    refine ⟨mt hraises.mpr hpipeline, fun text h => herror text ((hrejected text).mpr h), ?_⟩
    intro acquired h
    obtain ⟨⟩ := hrecord acquired ((hacquires acquired).mpr h)
    constructor <;> assumption
  · rintro ⟨hpipeline, herror, hrecord⟩
    refine ⟨mt hraises.mp hpipeline, fun text h => herror text ((hrejected text).mp h), ?_⟩
    intro acquired h
    obtain ⟨⟩ := hrecord acquired ((hacquires acquired).mp h)
    constructor <;> assumption

/-- The row of a job is found under the identifier of the job. -/
theorem get_put_stored {row : AcquisitionJob} (h : job.stored = .ok row)
    (jobs : Lib.Table AcquisitionJob.id) : (jobs.put row).get job.id = some row := by
  have hid : row.id = job.id := by rw [stored_ok h]
  rw [← hid]
  exact jobs.get_put_self row

theorem get_of_catalogAcquired {metadata : DatasetMetadata} {dataset : Dataset}
    (h : catalogAcquired job metadata datasetId tie now db = .ok (db', dataset)) :
    db'.datasets.get dataset.id = some dataset := by
  unfold catalogAcquired at h
  split at h
  · obtain ⟨-, -, h⟩ := Lib.bind_ok.mp h
    cases h
    exact Lib.Table.get_put_self _ _
  · obtain ⟨-, -, h⟩ := Lib.bind_ok.mp h
    cases h
    exact Lib.Table.get_put_self _ _

/-- What the second transaction has written is a settled job. -/
theorem settled_of_finishJob (hdataset : job.datasetId = none)
    (h : finishJob w job datasetId tie now db = .ok (db', done)) : Settled db' job.id := by
  rcases finishJob_ok.mp h with ⟨error, -, hfail⟩ | ⟨acquired, -, metadata, db₁, dataset, event,
    -, hcatalog, hcomplete, hsave⟩
  · obtain ⟨-, rfl, row, outbox, hrow, -, rfl⟩ := failJob_ok hfail
    refine ⟨row, get_put_stored hrow _, Or.inr ?_⟩
    rw [stored_ok hrow]
    exact ⟨rfl, Option.some_ne_none _, hdataset⟩
  · obtain ⟨-, rfl, -⟩ := complete_ok.mp hcomplete
    obtain ⟨row, outbox, hrow, -, rfl⟩ := saveJob_writes hsave
    refine ⟨row, get_put_stored hrow _, Or.inl ?_⟩
    rw [stored_ok hrow]
    exact ⟨rfl, dataset.id, rfl, by rw [get_of_catalogAcquired hcatalog, Option.isSome_some]⟩

/-- A job is started as soon as it is scheduled: its row is the one that was read. -/
theorem startJob_scheduled {c : ScheduleAcquisitionJob} (hrow : ScheduledRow c job)
    (hfits : job.fits = true) (hget : db.acquisitionJobs.get job.id = some job) :
    ∃ outbox, startJob ⟨c.tenantId, job.id⟩ started db =
      .ok ({ db with acquisitionJobs := db.acquisitionJobs.put (job.started started), outbox },
        job.started started) := by
  have harea : CanonicalArea (job.started started).aoiId := hrow.area
  have hstart : job.start started = .ok (job.started started, ⟨job.id, job.tenantId⟩) := by
    rw [AcquisitionJob.start, if_neg (not_not.mpr hrow.scheduled)]
    rfl
  have hsave : saveJob db (job.started started)
      (.acquisitionJobStarted ⟨job.id, job.tenantId⟩) started = .ok _ :=
    saveJob_ok.mpr ⟨_, stored_of_canonicalArea harea, started_fits hfits, rfl⟩
  refine ⟨appendEvent db.outbox "AcquisitionJob" (toString job.id)
    (.acquisitionJobStarted ⟨job.id, job.tenantId⟩) (some job.tenantId) started, ?_⟩
  unfold startJob
  rw [hget]
  dsimp only
  rw [if_neg (not_not.mpr hrow.tenant)]
  exact Lib.bind_ok.mpr ⟨_, hstart, Lib.bind_ok.mpr ⟨_, hsave, rfl⟩⟩

end Execution

/-- An execution of a scheduled job leaves it completed with a dataset or failed with an error, iff
    nothing escapes; otherwise it leaves it running. -/
theorem execution_settles_iff (id : AcquisitionJobId) (c : ScheduleAcquisitionJob)
    (scheduled : Timestamp) (entity job : AcquisitionJob) (event : AcquisitionJobScheduled) (db : Db)
    (w : World) (datasetId : DatasetId) (tie : ℕ) (started finished : Timestamp)
    (hschedule : AcquisitionJob.schedule id c scheduled = .ok (entity, event))
    (hstored : entity.stored = .ok job) (hfits : job.fits = true)
    (hget : db.acquisitionJobs.get id = some job) :
    (Settled (executeAcquisitionJob w ⟨c.tenantId, id⟩ datasetId tie started finished db).1 id ↔
        NothingEscapes w job db tie) ∧
      (Stuck (executeAcquisitionJob w ⟨c.tenantId, id⟩ datasetId tie started finished db).1 id ↔
        ¬ NothingEscapes w job db tie) := by
  have hrow := scheduledRow hschedule hstored
  have hid : job.id = id := Lib.Table.key_of_get hget
  subst hid
  obtain ⟨outbox, hstart⟩ := @startJob_scheduled _ db started c hrow hfits hget
  set db₁ : Db :=
    { db with acquisitionJobs := db.acquisitionJobs.put (job.started started), outbox } with hdb₁
  have harea : CanonicalArea (job.started started).aoiId := hrow.area
  have hnone : (job.started started).datasetId = none := hrow.dataset
  have hfinish : (∃ r, finishJob w (job.started started) datasetId tie finished db₁ = .ok r) ↔
      NothingEscapes w job db tie :=
    (exists_finishJob harea (started_fits hfits) rfl).trans nothingEscapes_started
  unfold executeAcquisitionJob
  rw [hstart]
  dsimp only
  rw [← hfinish]
  cases hresult : finishJob w (job.started started) datasetId tie finished db₁ with
  | ok r =>
    have hsettled : Settled r.1 (job.started started).id := settled_of_finishJob hnone hresult
    refine ⟨iff_of_true hsettled ⟨r, rfl⟩, ?_⟩
    exact iff_of_false (fun h => not_settled_of_stuck h hsettled) (not_not.mpr ⟨r, rfl⟩)
  | error e =>
    have hstuck : Stuck db₁ job.id :=
      ⟨job.started started, db.acquisitionJobs.get_put_self (job.started started), rfl⟩
    have hraised : ¬ ∃ r, (Except.error e : Except AcquisitionError (Db × AcquisitionJob)) = .ok r := by
      rintro ⟨r, h⟩
      cases h
    exact ⟨iff_of_false (not_settled_of_stuck hstuck) hraised, iff_of_true hstuck hraised⟩

/-! ### Two uploads -/

/-- The tables after the upload of an empty object has been executed. -/
def uploadExecuted : Db :=
  (executeAcquisitionJob uploadWorld ⟨⟨1⟩, ⟨20⟩⟩ ⟨30⟩ 0 2 3 (uploadScheduled none)).1

theorem execution_settles_upload :
    ∃ job, (uploadScheduled none).acquisitionJobs.get ⟨20⟩ = some job ∧
      NothingEscapes uploadWorld job (uploadScheduled none) 0 := by
  have hstatus : (uploadExecuted.acquisitionJobs.get ⟨20⟩).map (fun job =>
      (job.status, job.datasetId)) = some (.completed, some ⟨30⟩) := by decide +kernel
  obtain ⟨done, hdone, hrow⟩ := Option.map_eq_some_iff.mp hstatus
  obtain ⟨hcompleted, hdataset⟩ := Prod.mk.inj hrow
  have hsettled : Settled uploadExecuted ⟨20⟩ :=
    ⟨done, hdone, Or.inl ⟨hcompleted, ⟨30⟩, hdataset, by decide +kernel⟩⟩
  exact ⟨_, rfl, (execution_settles_iff ⟨20⟩ (uploadAskingForNdvi none) 1 _ _ _ (uploadScheduled none)
    uploadWorld ⟨30⟩ 0 2 3 rfl rfl (by decide +kernel) rfl).1.mp hsettled⟩

/-- An upload whose text is cut off in the middle of its base64. -/
def cutUpload : ScheduleAcquisitionJob :=
  { uploadAskingForNdvi none with
    sourceReference := "rainfall", format := .csv, rawContentBase64 := some "abc"
    requestedIndices := [] }

def cutUploadScheduled : Db :=
  [(0, .registerDatasetSource ⟨none, "Uploads", .userUpload, "", "admin"⟩ ⟨10⟩),
    (1, .scheduleAcquisitionJob cutUpload ⟨20⟩)].foldl Db.step Db.empty

/-- The tables after its execution, in which `b64decode` raises `binascii.Error`. -/
def cutUploadExecuted : Db :=
  (executeAcquisitionJob { uploadWorld with b64decode := fun _ => .error "Incorrect padding" }
    ⟨⟨1⟩, ⟨20⟩⟩ ⟨30⟩ 0 2 3 cutUploadScheduled).1

/-- Nothing catches the exception: the job stays running. -/
theorem cut_upload_stuck :
    ∃ entity event job, AcquisitionJob.schedule ⟨20⟩ cutUpload 1 = .ok (entity, event) ∧
      entity.stored = .ok job ∧ job.fits = true ∧
      cutUploadScheduled.acquisitionJobs.get ⟨20⟩ = some job ∧
      Stuck cutUploadExecuted ⟨20⟩ ∧ ¬ Settled cutUploadExecuted ⟨20⟩ := by
  have hstuck : Stuck cutUploadExecuted ⟨20⟩ := ⟨_, rfl, rfl⟩
  exact ⟨_, _, _, rfl, rfl, by decide +kernel, rfl, hstuck, not_settled_of_stuck hstuck⟩

end GeoRisk.DataAcquisition
