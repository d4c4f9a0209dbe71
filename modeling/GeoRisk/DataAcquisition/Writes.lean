import Mathlib
import GeoRisk.Lib.Results
import GeoRisk.DataAcquisition.Handlers

/-! What the handlers of the data acquisition context write: a handler that returns has put one row, or
    the two versions of a dataset, into its own table, has appended to the outbox, and has left the
    other tables as they were. -/

namespace GeoRisk.DataAcquisition

variable {db db' : Db} {now : Timestamp}

theorem flushed_ok {ok : Bool} {u : Unit} : flushed ok = .ok u ↔ ok = true := by
  unfold flushed
  split <;> simp [*]

namespace Db

/-- What holds before a transaction and of its result holds after it. -/
theorem of_commit {α : Type} {P : Db → Prop} {r : Except AcquisitionError (Db × α)} (hdb : P db)
    (hr : ∀ db' a, r = .ok (db', a) → P db') : P (db.commit r) := by
  cases r with
  | error e => exact hdb
  | ok p => exact hr p.1 p.2 rfl

/-- The same for a transaction that needs an identifier not in use. -/
theorem of_drawn {α Row κ : Type} [DecidableEq κ] {key : Row → κ} {table : Lib.Table key} {id : κ}
    {P : Db → Prop} {r : Except AcquisitionError (Db × α)} (hdb : P db)
    (hr : table.get id = none → ∀ db' a, r = .ok (db', a) → P db') :
    P (if (table.get id).isSome then db else db.commit r) := by
  split
  · exact hdb
  · next hfresh => exact of_commit hdb (hr (Option.not_isSome_iff_eq_none.mp hfresh))

end Db

/-! ### Sources, variables and selections -/

theorem registerDatasetSource_ok {c : RegisterDatasetSource} {id : DatasetSourceId}
    {source : DatasetSource} (h : registerDatasetSource c id now db = .ok (db', source)) :
    ∃ outbox, db' = { db with datasetSources := db.datasetSources.put source, outbox } := by
  simp only [registerDatasetSource, Lib.bind_ok] at h
  obtain ⟨-, -, h⟩ := h
  cases h
  exact ⟨_, rfl⟩

theorem registerPredictorVariable_ok {c : RegisterPredictorVariable} {id : PredictorVariableId}
    {v : PredictorVariable} (h : registerPredictorVariable c id now db = .ok (db', v)) :
    v.id = id ∧ v.tenantId = c.tenantId ∧
      ∃ outbox, db' = { db with predictorVariables := db.predictorVariables.put v, outbox } := by
  simp only [registerPredictorVariable, Lib.bind_ok] at h
  obtain ⟨-, -, h⟩ := h
  cases h
  exact ⟨rfl, rfl, _, rfl⟩

theorem createVariableSelection_ok {c : CreateVariableSelection} {id : VariableSelectionId}
    {s : VariableSelection} (h : createVariableSelection c id now db = .ok (db', s)) :
    s.id = id ∧ s.tenantId = c.tenantId ∧ s.selectedVariableIds = c.selectedVariableIds ∧
      ∃ outbox, db' = { db with variableSelections := db.variableSelections.put s, outbox } := by
  obtain ⟨⟨selection, event⟩, hcreate, h⟩ := Lib.bind_ok.mp h
  obtain ⟨-, -, h⟩ := Lib.bind_ok.mp h
  cases h
  unfold VariableSelection.create at hcreate
  split at hcreate
  · cases hcreate
  · cases hcreate
    exact ⟨rfl, rfl, rfl, _, rfl⟩

theorem confirmVariableSelection_ok {c : ConfirmVariableSelection} {s' : VariableSelection}
    (h : confirmVariableSelection c now db = .ok (db', s')) :
    ∃ s, db.variableSelections.get c.variableSelectionId = some s ∧ s.tenantId = c.tenantId ∧
      s' = { s with status := .confirmed } ∧
      ∃ outbox, db' = { db with variableSelections := db.variableSelections.put s', outbox } := by
  unfold confirmVariableSelection at h
  split at h
  · cases h
  · next s hget =>
    split at h
    · cases h
    · next htenant =>
      cases h
      exact ⟨s, hget, not_not.mp htenant, rfl, _, rfl⟩

/-! ### Jobs -/

/-- The row of a job differs from it in the spelling of its area of interest at most. -/
theorem stored_ok {job row : AcquisitionJob} (h : job.stored = .ok row) :
    row = { job with aoiId := row.aoiId } := by
  unfold AcquisitionJob.stored at h
  split at h
  · cases h
    rfl
  · split at h
    · cases h
      rfl
    · split at h
      · cases h
      · cases h
        rfl

/-- An area of interest as it is read back from its column. -/
def CanonicalArea (aoiId : Option String) : Prop :=
  ∀ text, aoiId = some text → text ≠ "" ∧ ∃ id, UUID.fromString text = some id ∧ id.str = text

theorem canonicalArea_of_stored {job row : AcquisitionJob} (h : job.stored = .ok row) :
    CanonicalArea row.aoiId := by
  unfold AcquisitionJob.stored at h
  split at h
  · next hnone =>
    cases h
    intro text htext
    cases hnone.symm.trans htext
  · split at h
    · cases h
      intro text htext
      cases htext
    · split at h
      · cases h
      · next id hid =>
        cases h
        intro text htext
        cases htext
        refine ⟨?_, id, UUID.fromString_str (UUID.fromString_lt hid), rfl⟩
        intro hempty
        have hlength := uuid_str_length id
        rw [hempty] at hlength
        cases hlength

/-- A job that was read back is stored as it is. -/
theorem stored_of_canonicalArea {job : AcquisitionJob} (h : CanonicalArea job.aoiId) :
    job.stored = .ok job := by
  unfold AcquisitionJob.stored
  split
  · rfl
  · next text htext =>
    obtain ⟨hne, id, hid, hstr⟩ := h text htext
    rw [if_neg hne, hid]
    dsimp only
    rw [hstr, ← htext]

theorem saveJob_ok {job : AcquisitionJob} {event : AcquisitionEvent} :
    saveJob db job event now = .ok db' ↔
      ∃ row, job.stored = .ok row ∧ row.fits = true ∧
        { db with acquisitionJobs := db.acquisitionJobs.put row }.append "AcquisitionJob"
          (toString job.id) event (some job.tenantId) now = db' := by
  simp only [saveJob, Lib.bind_ok, flushed_ok]
  constructor
  · rintro ⟨row, hrow, -, hfits, h⟩
    exact ⟨row, hrow, hfits, Except.ok.inj h⟩
  · rintro ⟨row, hrow, hfits, rfl⟩
    exact ⟨row, hrow, (), hfits, rfl⟩

theorem saveJob_writes {job : AcquisitionJob} {event : AcquisitionEvent}
    (h : saveJob db job event now = .ok db') :
    ∃ row outbox, job.stored = .ok row ∧ row.fits = true ∧
      db' = { db with acquisitionJobs := db.acquisitionJobs.put row, outbox } := by
  obtain ⟨row, hrow, hfits, rfl⟩ := saveJob_ok.mp h
  exact ⟨row, _, hrow, hfits, rfl⟩

theorem scheduleAcquisitionJob_ok {c : ScheduleAcquisitionJob} {id : AcquisitionJobId}
    {job : AcquisitionJob} (h : scheduleAcquisitionJob c id now db = .ok (db', job)) :
    (∃ event, AcquisitionJob.schedule id c now = .ok (job, event)) ∧
      ∃ row outbox, job.stored = .ok row ∧ row.fits = true ∧
        db' = { db with acquisitionJobs := db.acquisitionJobs.put row, outbox } := by
  obtain ⟨source, -, h⟩ := Lib.bind_ok.mp h
  obtain ⟨⟨job, event⟩, hschedule, h⟩ := Lib.bind_ok.mp h
  obtain ⟨db₁, hsave, h⟩ := Lib.bind_ok.mp h
  cases h
  exact ⟨⟨event, hschedule⟩, saveJob_writes hsave⟩

/-- The job as `start` leaves it. -/
def AcquisitionJob.started (self : AcquisitionJob) (now : Timestamp) : AcquisitionJob :=
  { self with
    status := .running, startedAt := some now
    provenance := self.provenance ++ [⟨now, "system", "STARTED", "Fetch started", none⟩] }

theorem startJob_ok {c : ExecuteAcquisitionJob} {job' : AcquisitionJob}
    (h : startJob c now db = .ok (db', job')) :
    ∃ job, db.acquisitionJobs.get c.acquisitionJobId = some job ∧ job.tenantId = c.tenantId ∧
      job.status = .scheduled ∧ job' = job.started now ∧
      ∃ row outbox, job'.stored = .ok row ∧ row.fits = true ∧
        db' = { db with acquisitionJobs := db.acquisitionJobs.put row, outbox } := by
  unfold startJob at h
  split at h
  · cases h
  · next job hget =>
    split at h
    · cases h
    · next htenant =>
      obtain ⟨⟨job', event⟩, hstart, h⟩ := Lib.bind_ok.mp h
      obtain ⟨db₁, hsave, h⟩ := Lib.bind_ok.mp h
      cases h
      unfold AcquisitionJob.start at hstart
      split at hstart
      · cases hstart
      · next hstatus =>
        cases hstart
        exact ⟨job, hget, not_not.mp htenant, not_not.mp hstatus, rfl, saveJob_writes hsave⟩

/-- The job as `fail` leaves it. -/
def AcquisitionJob.ofFailure (self : AcquisitionJob) (error : String) (now : Timestamp) :
    AcquisitionJob :=
  { self with
    status := .failed, completedAt := some now, error := some error
    provenance := self.provenance ++ [⟨now, "system", "FAILED", error, none⟩] }

theorem failJob_ok {job job' : AcquisitionJob} {error : String}
    (h : failJob job error now db = .ok (db', job')) :
    job.status = .running ∧ job' = job.ofFailure error now ∧
      ∃ row outbox, job'.stored = .ok row ∧ row.fits = true ∧
        db' = { db with acquisitionJobs := db.acquisitionJobs.put row, outbox } := by
  obtain ⟨⟨job', event⟩, hfail, h⟩ := Lib.bind_ok.mp h
  obtain ⟨db₁, hsave, h⟩ := Lib.bind_ok.mp h
  cases h
  unfold AcquisitionJob.fail at hfail
  split at hfail
  · cases hfail
  · next hstatus =>
    cases hfail
    exact ⟨not_not.mp hstatus, rfl, saveJob_writes hsave⟩

/-- The job as `complete` leaves it. -/
def AcquisitionJob.ofCompletion (w : World) (self : AcquisitionJob) (datasetId : DatasetId)
    (acquired : Acquired) (now : Timestamp) : AcquisitionJob :=
  { self with
    status := .completed, completedAt := some now, datasetId := some datasetId
    appliedPreprocessing := acquired.fetched.appliedPreprocessing
    extractedFeatures :=
      if acquired.computedFeatures = [] then none else some acquired.computedFeatures
    skippedFeatures :=
      if acquired.skippedFeatures = [] then none else some acquired.skippedFeatures
    shapefileGeometryType := acquired.shapefile.map (·.geometryType)
    shapefileFeatureCount := acquired.shapefile.map (·.featureCount)
    shapefileBoundingBox := acquired.shapefile.map (·.boundingBox)
    shapefileCrs := acquired.shapefile.map (·.crs)
    shapefileAttributes := acquired.shapefile.map (·.firstFeatureAttributes)
    provenance := self.provenance ++ [⟨now, "system", "COMPLETED",
      completionDescription w self acquired, some (toString datasetId)⟩] }

theorem complete_ok {w : World} {job done : AcquisitionJob} {datasetId : DatasetId}
    {acquired : Acquired} {event : AcquisitionJobCompleted} :
    job.complete w datasetId acquired now = .ok (done, event) ↔
      job.status = .running ∧ done = job.ofCompletion w datasetId acquired now ∧
        event = ⟨job.id, job.tenantId, datasetId⟩ := by
  unfold AcquisitionJob.complete
  split
  · next hstatus =>
    refine iff_of_false (fun h => nomatch h) ?_
    rintro ⟨hrunning, -⟩
    exact hstatus hrunning
  · next hstatus =>
    constructor
    · intro h
      cases h
      exact ⟨not_not.mp hstatus, rfl, rfl⟩
    · rintro ⟨-, rfl, rfl⟩
      rfl

/-! ### Datasets -/

theorem catalogDataset_ok {c : CatalogDataset} {id : DatasetId} {d : Dataset}
    (h : catalogDataset c id now db = .ok (db', d)) :
    ∃ outbox, db' = { db with datasets := db.datasets.put d, outbox } := by
  obtain ⟨source, -, h⟩ := Lib.bind_ok.mp h
  obtain ⟨metadata, -, h⟩ := Lib.bind_ok.mp h
  obtain ⟨-, -, h⟩ := Lib.bind_ok.mp h
  cases h
  exact ⟨_, rfl⟩

theorem reviseDataset_ok {c : ReviseDataset} {id : DatasetId} {tie : ℕ} {d : Dataset}
    (h : reviseDataset c id tie now db = .ok (db', d)) :
    ∃ datasets outbox, db' = { db with datasets, outbox } := by
  unfold reviseDataset at h
  split at h
  · cases h
  · obtain ⟨metadata, -, h⟩ := Lib.bind_ok.mp h
    obtain ⟨-, -, h⟩ := Lib.bind_ok.mp h
    cases h
    exact ⟨_, _, rfl⟩

theorem catalogAcquired_ok {job : AcquisitionJob} {metadata : DatasetMetadata} {id : DatasetId}
    {tie : ℕ} {d : Dataset} (h : catalogAcquired job metadata id tie now db = .ok (db', d)) :
    ∃ datasets outbox, db' = { db with datasets, outbox } := by
  unfold catalogAcquired at h
  split at h
  · obtain ⟨-, -, h⟩ := Lib.bind_ok.mp h
    cases h
    exact ⟨_, _, rfl⟩
  · obtain ⟨-, -, h⟩ := Lib.bind_ok.mp h
    cases h
    exact ⟨_, _, rfl⟩

/-! ### Executions -/

/-- The pipeline got everything iff each of its steps did. -/
theorem acquire_ok {w : World} {job : AcquisitionJob} {acquired : Acquired} :
    acquire w job = .ok acquired ↔ ∃ area content, readArea w job = .ok area ∧
      uploaded w job = .ok content ∧ fetch w job area content = .ok acquired.fetched ∧
      checkContent w job acquired.fetched = .ok () ∧
      parseShapefile w job acquired.fetched = .ok acquired.shapefile ∧
      extract w job acquired.fetched =
        .ok (acquired.computedFeatures, acquired.skippedFeatures) := by
  simp only [acquire, Lib.bind_ok]
  constructor
  · rintro ⟨area, harea, content, hcontent, fetched, hfetched, ⟨⟩, hcheck, shapefile, hshapefile,
      ⟨computed, skipped⟩, hextract, h⟩
    cases h
    exact ⟨area, content, harea, hcontent, hfetched, hcheck, hshapefile, hextract⟩
  · rintro ⟨area, content, harea, hcontent, hfetched, hcheck, hshapefile, hextract⟩
    exact ⟨area, harea, content, hcontent, _, hfetched, (), hcheck, _, hshapefile, _, hextract, rfl⟩

/-- What an execution that got everything has written, when its second transaction commits. -/
structure Completes (w : World) (job : AcquisitionJob) (id : DatasetId) (tie : ℕ) (now : Timestamp)
    (db db' : Db) (done : AcquisitionJob) (acquired : Acquired) : Prop where
  got : acquire w job = .ok acquired
  written : ∃ metadata db₁ dataset event,
    metadataForCompletedJob w job acquired.shapefile now = .ok metadata ∧
    catalogAcquired job metadata id tie now db = .ok (db₁, dataset) ∧
    job.complete w dataset.id acquired now = .ok (done, event) ∧
    saveJob db₁ done (.acquisitionJobCompleted event) now = .ok db'

/-- The second transaction commits a failed job or a completed one. -/
theorem finishJob_ok {w : World} {job done : AcquisitionJob} {id : DatasetId} {tie : ℕ} :
    finishJob w job id tie now db = .ok (db', done) ↔
      (∃ error, acquire w job = .error (.failed error) ∧
        failJob job error now db = .ok (db', done)) ∨
      ∃ acquired, Completes w job id tie now db db' done acquired := by
  unfold finishJob
  constructor
  · intro h
    split at h
    · next error hacquire => exact Or.inl ⟨error, hacquire, h⟩
    · cases h
    · next acquired hacquire =>
      obtain ⟨metadata, hmetadata, h⟩ := Lib.bind_ok.mp h
      obtain ⟨⟨db₁, dataset⟩, hcatalog, h⟩ := Lib.bind_ok.mp h
      obtain ⟨⟨job, event⟩, hcomplete, h⟩ := Lib.bind_ok.mp h
      obtain ⟨db₂, hsave, h⟩ := Lib.bind_ok.mp h
      cases h
      exact Or.inr ⟨acquired, hacquire,
        metadata, db₁, dataset, event, hmetadata, hcatalog, hcomplete, hsave⟩
  · rintro (⟨error, hacquire, h⟩ | ⟨acquired, hacquire, metadata, db₁, dataset, event, hmetadata,
      hcatalog, hcomplete, hsave⟩)
    · rw [hacquire]
      exact h
    · rw [hacquire]
      refine Lib.bind_ok.mpr ⟨metadata, hmetadata, Lib.bind_ok.mpr ⟨(db₁, dataset), hcatalog, ?_⟩⟩
      exact Lib.bind_ok.mpr ⟨(done, event), hcomplete, Lib.bind_ok.mpr ⟨db', hsave, rfl⟩⟩

/-- An execution writes datasets, jobs and events, and nothing else. -/
theorem executeAcquisitionJob_writes (w : World) (c : ExecuteAcquisitionJob) (id : DatasetId)
    (tie : ℕ) (finished : Timestamp) :
    ∃ datasets acquisitionJobs outbox, (executeAcquisitionJob w c id tie now finished db).1 =
      { db with datasets, acquisitionJobs, outbox } := by
  unfold executeAcquisitionJob
  split
  · exact ⟨_, _, _, rfl⟩
  · next db₁ job hstart =>
    obtain ⟨-, -, -, -, -, -, -, -, -, rfl⟩ := startJob_ok hstart
    split
    · exact ⟨_, _, _, rfl⟩
    · next db₂ job' hfinish =>
      rcases finishJob_ok.mp hfinish with
        ⟨error, -, hfail⟩ | ⟨acquired, -, metadata, db₃, dataset, event, -, hcatalog, -, hsave⟩
      · obtain ⟨-, -, -, -, -, -, rfl⟩ := failJob_ok hfail
        exact ⟨_, _, _, rfl⟩
      · obtain ⟨datasets, outbox, rfl⟩ := catalogAcquired_ok hcatalog
        obtain ⟨-, -, -, -, rfl⟩ := saveJob_writes hsave
        exact ⟨_, _, _, rfl⟩

end GeoRisk.DataAcquisition
