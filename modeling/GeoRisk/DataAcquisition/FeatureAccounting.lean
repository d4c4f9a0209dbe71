import Mathlib
import GeoRisk.DataAcquisition.Writes

/-! What a completed job says about the indices it was asked for. `extract_features` puts each into one
    of its two dictionaries, unless the estimate for the SPEI leaves the range of a float; but a job
    without a remote sensing source is completed with neither dictionary:

        indices   source   statistics │ computed   skipped
           []       –          –      │    –          –
          some     some      some     │   each index in one of the two
          some     some      none     │    –        all of them
          some     none        –      │    –          –            none is accounted for -/

namespace GeoRisk.DataAcquisition

open PyFloat (Libm)

/-- Each of the indices is in one of the two dictionaries and not in the other, and nothing else is in
    either. -/
structure Accounted (indices : List SpectralIndex) (computed : List (String × PyFloat))
    (skipped : List (String × String)) : Prop where
  once : ∀ index ∈ indices,
    index.value ∈ computed.map Prod.fst ∧ index.value ∉ skipped.map Prod.fst ∨
      index.value ∉ computed.map Prod.fst ∧ index.value ∈ skipped.map Prod.fst
  only : ∀ name, name ∈ computed.map Prod.fst ∨ name ∈ skipped.map Prod.fst →
    ∃ index ∈ indices, index.value = name

/-! ### When a formula raises -/

/-- A temperature for which the estimate stays in the range of a float: one at or below freezing, or one
    whose heat index is not rounded to zero and whose powers do not overflow. -/
def HeatIndexInRange (libm : Libm) (temperatureC : PyFloat) : Prop :=
  temperatureC.nonpositive = true ∨ ∃ heatIndex cube square power,
    libm.pow (temperatureC.quotient 5.0) 1.514 = .ok heatIndex ∧
    libm.pow heatIndex 3 = .ok cube ∧ libm.pow heatIndex 2 = .ok square ∧
    heatIndex.isZero = false ∧
    libm.pow ((10.0 * temperatureC).quotient heatIndex) (petExponent heatIndex cube square) =
      .ok power

/-- The temperature of the statistics, if the SPEI can be computed from them at all. -/
def SpeiInRange (libm : Libm) (source : RemoteSensingSource) (statistics : BandStatistics) : Prop :=
  ∀ precipitation temperature, bandValue source statistics "PRECIPITATION" = some precipitation →
    bandValue source statistics "TEMPERATURE" = some temperature →
    HeatIndexInRange libm temperature

section Extraction

variable {libm : Libm} {source : RemoteSensingSource} {statistics : BandStatistics}
  {comparison : Option BandStatistics} {index : SpectralIndex}

theorem truediv_ok {x y z : PyFloat} :
    x.truediv y = .ok z ↔ y.isZero = false ∧ x.quotient y = z := by
  unfold PyFloat.truediv
  cases y.isZero <;> simp

theorem thornthwaitePetMm_ok {temperatureC : PyFloat} :
    (∃ pet, thornthwaitePetMm libm temperatureC = .ok pet) ↔ HeatIndexInRange libm temperatureC := by
  unfold thornthwaitePetMm HeatIndexInRange
  by_cases hcold : temperatureC.nonpositive = true
  · simp [hcold]
  · simp only [hcold, Bool.false_eq_true, if_false, false_or, Lib.exists_bind_ok, truediv_ok]
    constructor
    · rintro ⟨heatIndex, hheat, cube, hcube, square, hsquare, base, ⟨hzero, rfl⟩, power, hpower, -⟩
      exact ⟨heatIndex, cube, square, power, hheat, hcube, hsquare, hzero, hpower⟩
    · rintro ⟨heatIndex, cube, square, power, hheat, hcube, hsquare, hzero, hpower⟩
      exact ⟨heatIndex, hheat, cube, hcube, square, hsquare, _, ⟨hzero, rfl⟩, power, hpower,
        _, rfl⟩

theorem computeSpei_ok {precipitationMm temperatureC : PyFloat} :
    (∃ spei, computeSpei libm precipitationMm temperatureC = .ok spei) ↔
      HeatIndexInRange libm temperatureC := by
  rw [← thornthwaitePetMm_ok, computeSpei, Lib.exists_bind_ok]
  constructor
  · rintro ⟨pet, hpet, -⟩
    exact ⟨pet, hpet⟩
  · rintro ⟨pet, hpet⟩
    exact ⟨pet, hpet, _, rfl⟩

/-- Every other formula returns, on as many values as it takes. -/
theorem computeIndex_ok {values : List PyFloat} (hdnbr : index ≠ .dnbr) (hspei : index ≠ .spei)
    (hlength : values.length = (requiredBandsByIndex index).length) :
    ∃ v, computeIndex libm index values = .ok v := by
  cases index with
  | dnbr => exact absurd rfl hdnbr
  | spei => exact absurd rfl hspei
  | lst =>
    obtain ⟨thermal, rfl⟩ := List.length_eq_one_iff.mp hlength
    exact ⟨_, rfl⟩
  | evi =>
    obtain ⟨nir, red, blue, rfl⟩ := List.length_eq_three.mp hlength
    exact ⟨_, rfl⟩
  | ndvi | savi | ndwi | nbr =>
    obtain ⟨a, b, rfl⟩ := List.length_eq_two.mp hlength
    exact ⟨_, rfl⟩

theorem length_filterMap_id {values : List (Option PyFloat)}
    (h : values.any Option.isNone = false) : (values.filterMap id).length = values.length := by
  induction values with
  | nil => rfl
  | cons value values ih =>
    cases value with
    | none => simp at h
    | some v => simpa using ih (by simpa using h)

/-- A round of the loop returns, unless the index is the SPEI of a temperature out of range. -/
theorem judge_ok : (∃ verdict, judge libm source statistics comparison index = .ok verdict) ↔
    (index = .spei → SpeiInRange libm source statistics) := by
  by_cases hdnbr : index = .dnbr
  · subst hdnbr
    refine iff_of_true ?_ (fun h => absurd h (by decide))
    simp only [judge, if_true]
    split
    · exact ⟨_, rfl⟩
    · split <;> exact ⟨_, rfl⟩
  · by_cases hspei : index = .spei
    · subst hspei
      simp only [judge, requiredBandsByIndex, SpeiInRange, List.map_cons, List.map_nil, hdnbr,
        if_false, true_imp_iff]
      cases bandValue source statistics "PRECIPITATION" with
      | none => simp
      | some precipitation =>
        cases bandValue source statistics "TEMPERATURE" with
        | none => simp
        | some temperature =>
          have hspei : (∃ spei, computeSpei libm precipitation temperature = .ok spei) ↔
              HeatIndexInRange libm temperature := computeSpei_ok
          simpa [Lib.map_ok, computeIndex] using hspei
    · refine iff_of_true ?_ (fun h => absurd h hspei)
      simp only [judge, if_neg hdnbr]
      split
      · exact ⟨_, rfl⟩
      · next hbands =>
        have hlength := (length_filterMap_id (Bool.eq_false_iff.mpr hbands)).trans
          (List.length_map ..)
        obtain ⟨v, hv⟩ : ∃ v, computeIndex libm index _ = .ok v := computeIndex_ok hdnbr hspei hlength
        exact ⟨.computed v, Lib.map_ok.mpr ⟨v, hv, rfl⟩⟩

/-! ### Accounting -/

theorem extractFeatures_ok {indices : List SpectralIndex} :
    (∃ features, extractFeatures libm source statistics indices comparison = .ok features) ↔
      (.spei ∈ indices → SpeiInRange libm source statistics) := by
  unfold extractFeatures
  rw [Lib.exists_foldlM_map_ok]
  simp only [judge_ok]
  constructor
  · intro h hmem
    exact h _ hmem rfl
  · rintro h index hindex rfl
    exact h hindex

/-- What the rounds of the loop add to the two dictionaries, by the verdict on each index. -/
theorem keys_of_loop {indices : List SpectralIndex}
    {features features' : List (String × PyFloat) × List (String × String)}
    (h : indices.foldlM (fun features index =>
      record features index <$> judge libm source statistics comparison index) features =
        .ok features') (name : String) :
    (name ∈ features'.1.map Prod.fst ↔ name ∈ features.1.map Prod.fst ∨
      ∃ index ∈ indices, index.value = name ∧
        ∃ v, judge libm source statistics comparison index = .ok (.computed v)) ∧
    (name ∈ features'.2.map Prod.fst ↔ name ∈ features.2.map Prod.fst ∨
      ∃ index ∈ indices, index.value = name ∧
        ∃ reason, judge libm source statistics comparison index = .ok (.skipped reason)) := by
  induction indices generalizing features with
  | nil =>
    cases h
    simp
  | cons index indices ih =>
    rw [List.foldlM_cons] at h
    obtain ⟨features₁, hround, hrest⟩ := Lib.bind_ok.mp h
    obtain ⟨verdict, hverdict, rfl⟩ := Lib.map_ok.mp hround
    obtain ⟨hcomputed, hskipped⟩ := ih hrest
    rw [hcomputed, hskipped]
    cases verdict with
    | computed v => simp [record, mem_setItem_keys, hverdict, or_assoc, eq_comm]
    | skipped reason => simp [record, mem_setItem_keys, hverdict, or_assoc, eq_comm]

/-- `extract_features` accounts for every requested index, whenever it returns. -/
theorem accounted_of_ok {indices : List SpectralIndex} {computed : List (String × PyFloat)}
    {skipped : List (String × String)}
    (h : extractFeatures libm source statistics indices comparison = .ok (computed, skipped)) :
    Accounted indices computed skipped := by
  have hkeys := keys_of_loop h
  simp only [List.map_nil, List.not_mem_nil, false_or] at hkeys
  constructor
  · intro index hindex
    obtain ⟨verdict, hverdict⟩ := Lib.exists_foldlM_map_ok.mp ⟨_, h⟩ index hindex
    rw [(hkeys index.value).1, (hkeys index.value).2]
    cases verdict with
    | computed v =>
      refine Or.inl ⟨⟨index, hindex, rfl, v, hverdict⟩, ?_⟩
      rintro ⟨index', -, hvalue, reason, hreason⟩
      cases SpectralIndex.value_injective hvalue
      cases hverdict.symm.trans hreason
    | skipped reason =>
      refine Or.inr ⟨?_, index, hindex, rfl, reason, hverdict⟩
      rintro ⟨index', -, hvalue, v, hv⟩
      cases SpectralIndex.value_injective hvalue
      cases hverdict.symm.trans hv
  · rintro name (hname | hname)
    · obtain ⟨index, hindex, hvalue, -⟩ := (hkeys name).1.mp hname
      exact ⟨index, hindex, hvalue⟩
    · obtain ⟨index, hindex, hvalue, -⟩ := (hkeys name).2.mp hname
      exact ⟨index, hindex, hvalue⟩

end Extraction

/-! ### Completed jobs -/

section Completed

variable {w : World} {job done : AcquisitionJob} {acquired : Acquired} {fetched : FetchResult}

/-- Where no statistics came, every index is skipped for one reason. -/
theorem keys_of_skipped (indices : List SpectralIndex) (reason name : String)
    (skipped : List (String × String)) :
    name ∈ (indices.foldl (fun d index => setItem d index.value reason) skipped).map Prod.fst ↔
      name ∈ skipped.map Prod.fst ∨ ∃ index ∈ indices, index.value = name := by
  induction indices generalizing skipped with
  | nil => simp
  | cons index indices ih =>
    rw [List.foldl_cons, ih, mem_setItem_keys]
    simp [or_assoc, eq_comm]

/-- The dictionaries of an execution account for the indices, unless there are some and no source. -/
theorem accounted_of_extract (h : extract w job fetched =
    .ok (acquired.computedFeatures, acquired.skippedFeatures)) :
    Accounted job.requestedIndices acquired.computedFeatures acquired.skippedFeatures ↔
      job.requestedIndices = [] ∨ job.remoteSensingSource ≠ none := by
  obtain ⟨fetched', shapefile, computed, skipped⟩ := acquired
  unfold extract at h
  split at h
  · next hindices =>
    cases h
    rw [hindices]
    exact iff_of_true ⟨by simp, by simp⟩ (Or.inl rfl)
  · next _ _ hsource hindices =>
    cases h
    obtain ⟨index, hindex⟩ := List.exists_mem_of_ne_nil _ hindices
    constructor
    · intro haccounted
      have honce := haccounted.once index hindex
      simp at honce
    · rintro (hnone | hsome)
      · exact absurd hnone hindices
      · exact absurd hsource hsome
  · next source hsource _ =>
    refine iff_of_true ?_ (Or.inr (by simp [hsource]))
    split at h
    · next statistics hstatistics =>
      unfold raising at h
      split at h
      · next hextract =>
        cases h
        exact accounted_of_ok hextract
      · cases h
    · cases h
      constructor
      · intro index hindex
        refine Or.inr ⟨by simp, ?_⟩
        rw [keys_of_skipped]
        exact Or.inr ⟨index, hindex, rfl⟩
      · rintro name (hname | hname)
        · simp at hname
        · rw [keys_of_skipped] at hname
          simpa using hname

/-- The two dictionaries of a job, absent where they are empty. -/
theorem ofCompletion_features {datasetId : DatasetId} {now : Timestamp} :
    ((job.ofCompletion w datasetId acquired now).extractedFeatures.getD [] =
        acquired.computedFeatures) ∧
      (job.ofCompletion w datasetId acquired now).skippedFeatures.getD [] =
        acquired.skippedFeatures := by
  constructor
  · simp only [AcquisitionJob.ofCompletion]
    split <;> simp_all
  · simp only [AcquisitionJob.ofCompletion]
    split <;> simp_all

/-- A job that an execution has completed accounts for its indices, unless it had some and no source. -/
theorem accounted_of_completes {id : DatasetId} {tie : ℕ} {now : Timestamp} {db db' : Db}
    (h : Completes w job id tie now db db' done acquired) :
    Accounted done.requestedIndices (done.extractedFeatures.getD [])
        (done.skippedFeatures.getD []) ↔
      job.requestedIndices = [] ∨ job.remoteSensingSource ≠ none := by
  obtain ⟨hacquire, metadata, db₁, dataset, event, -, -, hcomplete, -⟩ := h
  obtain ⟨area, content, -, -, -, -, -, hextract⟩ := acquire_ok.mp hacquire
  obtain ⟨-, rfl, -⟩ := complete_ok.mp hcomplete
  rw [ofCompletion_features.1, ofCompletion_features.2]
  exact accounted_of_extract hextract

end Completed

/-- The job as `schedule` makes it asks for what the request asks for. -/
theorem schedule_ok {id : AcquisitionJobId} {c : ScheduleAcquisitionJob} {now : Timestamp}
    {job : AcquisitionJob} {event : AcquisitionJobScheduled}
    (h : AcquisitionJob.schedule id c now = .ok (job, event)) :
    job.requestedIndices = c.requestedIndices ∧
      job.remoteSensingSource = c.remoteSensingSource := by
  unfold AcquisitionJob.schedule at h
  iterate 5
    split at h
    · cases h
  cases h
  exact ⟨rfl, rfl⟩

/-- Every requested index of a completed job is accounted for iff the job asks for none or has a
    remote sensing source; `extract_features` accounts for every index iff the SPEI, where it is
    among them, is asked for at a temperature in range. -/
theorem every_index_accounted_iff (id : AcquisitionJobId) (c : ScheduleAcquisitionJob)
    (scheduled : Timestamp) (entity job : AcquisitionJob) (event : AcquisitionJobScheduled)
    (db db' : Db) (w : World) (dataset : DatasetId) (tie : ℕ) (started finished : Timestamp)
    (done : AcquisitionJob) (libm : Libm) (source : RemoteSensingSource)
    (statistics : BandStatistics) (indices : List SpectralIndex)
    (comparison : Option BandStatistics) :
    (AcquisitionJob.schedule id c scheduled = .ok (entity, event) → entity.stored = .ok job →
      db.acquisitionJobs.get id = some job →
      executeAcquisitionJob w ⟨c.tenantId, id⟩ dataset tie started finished db = (db', .ok done) →
      done.status = .completed →
      (Accounted done.requestedIndices (done.extractedFeatures.getD [])
          (done.skippedFeatures.getD []) ↔
        c.requestedIndices = [] ∨ c.remoteSensingSource ≠ none)) ∧
      ((∃ computed skipped, extractFeatures libm source statistics indices comparison =
          .ok (computed, skipped) ∧ Accounted indices computed skipped) ↔
        (.spei ∈ indices → SpeiInRange libm source statistics)) := by
  constructor
  · intro hschedule hstored hget hexecute hdone
    obtain ⟨hindices, hsource⟩ := schedule_ok hschedule
    unfold executeAcquisitionJob at hexecute
    split at hexecute
    · cases hexecute
    · next db₁ running hstart =>
      obtain ⟨job', hget', -, -, rfl, -⟩ := startJob_ok hstart
      cases hget.symm.trans hget'
      split at hexecute
      · cases hexecute
      · next db₂ job' hfinish =>
        cases hexecute
        rcases finishJob_ok.mp hfinish with ⟨error, -, hfail⟩ | ⟨acquired, hcompletes⟩
        · obtain ⟨-, rfl, -⟩ := failJob_ok hfail
          cases hdone
        · rw [accounted_of_completes hcompletes, ← hindices, ← hsource]
          rw [stored_ok hstored]
          rfl
  · rw [← @extractFeatures_ok _ _ _ comparison]
    constructor
    · rintro ⟨computed, skipped, h, -⟩
      exact ⟨_, h⟩
    · rintro ⟨⟨computed, skipped⟩, h⟩
      exact ⟨computed, skipped, h, accounted_of_ok h⟩

/-! ### An upload that asks for an index -/

/-- Uploads an empty JSON object under the name `rainfall`, and asks for the NDVI. -/
def uploadAskingForNdvi (source : Option RemoteSensingSource) : ScheduleAcquisitionJob where
  tenantId := ⟨1⟩
  provider := .localUpload
  sourceReference := "rainfall"
  format := .json
  datasetSourceId := ⟨10⟩
  declaredCrs := "EPSG:4326"
  rawContentBase64 := some "e30="
  remoteSensingSource := source
  requestedIndices := [.ndvi]

/-- The tenant's job, scheduled. -/
def uploadScheduled (source : Option RemoteSensingSource) : Db :=
  [(0, .registerDatasetSource ⟨none, "Uploads", .userUpload, "", "admin"⟩ ⟨10⟩),
    (1, .scheduleAcquisitionJob (uploadAskingForNdvi source) ⟨20⟩)].foldl Db.step Db.empty

/-- The collaborators, as they are on this upload. -/
def uploadWorld : World where
  getAoiGeometry := fun _ _ => .ok none
  b64decode := fun _ => .ok [0x7B, 0x7D]
  fetch := fun _ _ content _ => .ok (localUploadFetch content)
  parsers :=
    { jsonLoads := fun _ => .ok (.obj []), decodeUtf8 := fun _ => .ok "\x7b\x7d"
      csvRows := fun _ => .ok [["\x7b\x7d"]], namelist := fun _ => .error (.malformed "")
      lower := id, reprJson := fun _ => "" }
  gdal :=
    { readInfo := fun _ => .error "", read := fun _ => .error "", geomType := fun _ => .error "" }
  libm := { pow := fun _ _ => .ok 1, tanh := id }
  floatRepr := { repr := fun _ => "0.0", plain := fun _ => by decide, short := fun _ => by decide }

/-- The execution of the job: its status, its indices, and the names in its two dictionaries. -/
def uploadOutcome (source : Option RemoteSensingSource) :
    Option (AcquisitionJobStatus × List SpectralIndex × List String × List String) :=
  (executeAcquisitionJob uploadWorld ⟨⟨1⟩, ⟨20⟩⟩ ⟨30⟩ 0 2 3 (uploadScheduled source)).2.toOption.map
    fun done => (done.status, done.requestedIndices, (done.extractedFeatures.getD []).map Prod.fst,
      (done.skippedFeatures.getD []).map Prod.fst)

theorem uploadOutcome_done {source : Option RemoteSensingSource} {status : AcquisitionJobStatus}
    {indices : List SpectralIndex} {computed skipped : List String}
    (h : uploadOutcome source = some (status, indices, computed, skipped)) :
    ∃ done, (executeAcquisitionJob uploadWorld ⟨⟨1⟩, ⟨20⟩⟩ ⟨30⟩ 0 2 3 (uploadScheduled source)).2 =
      .ok done ∧ done.status = status ∧ done.requestedIndices = indices ∧
        (done.extractedFeatures.getD []).map Prod.fst = computed ∧
        (done.skippedFeatures.getD []).map Prod.fst = skipped := by
  obtain ⟨done, hdone, h⟩ := Option.map_eq_some_iff.mp h
  simp only [Prod.mk.injEq] at h
  cases hexecute : (executeAcquisitionJob uploadWorld ⟨⟨1⟩, ⟨20⟩⟩ ⟨30⟩ 0 2 3
      (uploadScheduled source)).2 with
  | error e => simp [hexecute, Except.toOption] at hdone
  | ok done' =>
    rw [hexecute] at hdone
    cases hdone
    exact ⟨done, rfl, h⟩

theorem every_index_accounted_upload :
    ∃ done, (executeAcquisitionJob uploadWorld ⟨⟨1⟩, ⟨20⟩⟩ ⟨30⟩ 0 2 3
      (uploadScheduled (some .landsat))).2 = .ok done ∧
      Accounted done.requestedIndices (done.extractedFeatures.getD [])
        (done.skippedFeatures.getD []) := by
  have houtcome : uploadOutcome (some .landsat) = some (.completed, [.ndvi], [], ["NDVI"]) := by
    decide +kernel
  obtain ⟨done, hdone, hstatus, -⟩ := uploadOutcome_done houtcome
  refine ⟨done, hdone, ((every_index_accounted_iff ⟨20⟩ (uploadAskingForNdvi (some .landsat)) 1 _ _
    _ _ _ uploadWorld ⟨30⟩ 0 2 3 done uploadWorld.libm .landsat ([] : BandStatistics) []
    none).1 rfl rfl ?_ (Prod.ext rfl hdone) hstatus).mpr (Or.inr (by decide))⟩
  rfl

/-- Without a remote sensing source the job is completed, and the index is in neither dictionary. -/
theorem ndvi_lost :
    ∃ done, (executeAcquisitionJob uploadWorld ⟨⟨1⟩, ⟨20⟩⟩ ⟨30⟩ 0 2 3 (uploadScheduled none)).2 =
      .ok done ∧ done.status = .completed ∧ SpectralIndex.ndvi ∈ done.requestedIndices ∧
      ¬ Accounted done.requestedIndices (done.extractedFeatures.getD [])
        (done.skippedFeatures.getD []) := by
  have houtcome : uploadOutcome none = some (.completed, [.ndvi], [], []) := by
    decide +kernel
  obtain ⟨done, hdone, hstatus, hindices, hcomputed, hskipped⟩ := uploadOutcome_done houtcome
  refine ⟨done, hdone, hstatus, by simp [hindices], fun h => ?_⟩
  have honce := h.once .ndvi (by simp [hindices])
  rw [hcomputed, hskipped] at honce
  simp at honce

end GeoRisk.DataAcquisition
