import GeoRisk.Analysis.Handlers
import GeoRisk.DataAcquisition.DatasetOrigin
import GeoRisk.DataAcquisition.Pipeline
import GeoRisk.Orchestration.Handlers

/-! The indicator inputs of a stage, as the composition root provides them: what the job behind the latest
    dataset named `HAZARD:STAGE` has, and an error for a dataset without a job:

        assessment ─▶ tenant ─▶ latest dataset ─▶ job ─▶ features │ attributes │ uploaded JSON

    An uploaded object is provided until something else is written under the name. -/

namespace GeoRisk.Api

open DataAcquisition (AcquisitionJob Attribute Bytes Command Dataset ReadError)

inductive InputsError where
  | missingIndicatorDataset (message : String)
  | invalidIndicatorPayload (message : String)
  /-- An exception that nothing catches. -/
  | collaborator (message : String)

/-- `base64.b64decode`, `bytes.decode("utf-8")` and `json.loads` of a text. Of what they raise, a
    `ValueError` is malformed input. -/
structure Decoders where
  b64decode : String → Except ReadError Bytes
  decodeUtf8 : Bytes → Except ReadError String
  jsonLoads : String → Except ReadError Json

/-- The JSON value of a base64 text. -/
def Decoders.payload (d : Decoders) (raw : String) : Except ReadError Json := do
  let content ← d.b64decode raw
  let decoded ← d.decodeUtf8 content
  d.jsonLoads decoded

/-- `_dataset_name`. -/
def datasetName (hazardType : Analysis.HazardType) (stageType : Analysis.StageType) : String :=
  s!"{hazardType.value}:{stageType.value}"

/-- What a job has to supply. -/
def inputsOf (d : Decoders) (name : String) (job : AcquisitionJob) :
    Except InputsError (List (String × Attribute)) :=
  match job.extractedFeatures.getD [] with
  | feature :: features => .ok ((feature :: features).map fun (key, x) => (key, .json (.float x)))
  | [] =>
    match job.shapefileAttributes.getD [] with
    | column :: columns => .ok (column :: columns)
    | [] =>
      if job.rawContentBase64.getD "" = "" then
        .error (.missingIndicatorDataset (s!"AcquisitionJob {job.id} for dataset {pyRepr name} " ++
          "has neither extracted features nor raw content to supply indicator inputs from."))
      else
        match d.payload (job.rawContentBase64.getD "") with
        | .error (.other e) => .error (.collaborator e)
        | .error (.malformed e) => .error (.invalidIndicatorPayload
            (s!"AcquisitionJob {job.id}'s raw content for dataset {pyRepr name} is not valid " ++
            s!"base64-encoded JSON: {e}"))
        | .ok (.obj fields) => .ok (fields.map fun (key, value) => (key, .json value))
        | .ok payload => .error (.invalidIndicatorPayload
            (s!"AcquisitionJob {job.id}'s decoded payload for dataset {pyRepr name} must be a " ++
            s!"JSON object mapping indicator codes to values, got {payload.typeName}"))

/-- `SqlAlchemyAcquisitionJobRepository.list_by_tenant`. -/
def listByTenant (db : DataAcquisition.Db) (tenantId : TenantId) : List AcquisitionJob :=
  (db.acquisitionJobs.rows.filter (·.tenantId = tenantId)).insertionSort
    fun job job' => job'.scheduledAt ≤ job.scheduledAt

/-- The dataset has no job. -/
def noJob (name : String) (dataset : Dataset) : InputsError :=
  .missingIndicatorDataset (s!"Dataset {pyRepr name} (id={dataset.id}) has no originating " ++
    "AcquisitionJob on record — its raw indicator payload cannot be recovered.")

/-- `CompositionRootIndicatorInputProvider.provide_raw_inputs`. -/
def provideRawInputs (d : Decoders) (assessments : Lib.Table Orchestration.Assessment.id)
    (db : DataAcquisition.Db) (tie : ℕ) (hazardType : Analysis.HazardType)
    (stageType : Analysis.StageType) (assessmentId : Spelled Orchestration.AssessmentId) :
    Except InputsError (List (String × Attribute)) :=
  match assessments.get assessmentId.id with
  | none => .error (.missingIndicatorDataset s!"Assessment {assessmentId.text} not found")
  | some assessment =>
    let name := datasetName hazardType stageType
    match db.getLatest tie assessment.tenantId name with
    | none => .error (.missingIndicatorDataset
        (s!"No cataloged Data Acquisition dataset named {pyRepr name} exists for this tenant — " ++
        "upload and catalog one (e.g. via Local Upload) before running the " ++
        s!"{Analysis.title stageType.value} stage of a {Analysis.title hazardType.value} " ++
        "assessment."))
    | some dataset =>
      match (listByTenant db assessment.tenantId).find? (·.datasetId = some dataset.id) with
      | none => .error (noJob name dataset)
      | some job => inputsOf d name job

section

variable {d : Decoders} {assessments : Lib.Table Orchestration.Assessment.id}
  {db : DataAcquisition.Db} {tie : ℕ} {hazardType : Analysis.HazardType}
  {stageType : Analysis.StageType} {assessmentId : Spelled Orchestration.AssessmentId}
  {assessment : Orchestration.Assessment} {dataset : Dataset} {job : AcquisitionJob}

theorem mem_listByTenant {tenantId : TenantId} :
    job ∈ listByTenant db tenantId ↔ job ∈ db.acquisitionJobs.rows ∧ job.tenantId = tenantId := by
  rw [listByTenant, List.mem_insertionSort, List.mem_filter, decide_eq_true_eq]

/-- The job behind the latest dataset supplies the inputs. -/
theorem provideRawInputs_of_origin (hlinked : db.Linked)
    (ha : assessments.get assessmentId.id = some assessment)
    (hlatest : db.getLatest tie assessment.tenantId (datasetName hazardType stageType) = some dataset)
    (horigin : db.OriginatesFrom dataset.id job) (htenant : job.tenantId = assessment.tenantId) :
    provideRawInputs d assessments db tie hazardType stageType assessmentId =
      inputsOf d (datasetName hazardType stageType) job := by
  obtain ⟨hget, hid⟩ := horigin
  have hfind : (listByTenant db assessment.tenantId).find? (·.datasetId = some dataset.id) =
      some job := by
    cases hfound : (listByTenant db assessment.tenantId).find? (·.datasetId = some dataset.id) with
    | none =>
      have hmem := mem_listByTenant.mpr ⟨Lib.Table.mem_of_get hget, htenant⟩
      exact absurd (decide_eq_true hid) (List.find?_eq_none.mp hfound job hmem)
    | some found =>
      -- no other job names the dataset
      have hrow := (mem_listByTenant.mp (List.mem_of_find?_eq_some hfound)).1
      have hfoundid : found.datasetId = some dataset.id := by
        simpa using List.find?_some hfound
      have hsame := hlinked.once _ _ _ _ _ (Lib.Table.get_of_mem hrow) hget hfoundid hid
      have hrow := Lib.Table.get_of_mem hrow
      rw [hsame, hget] at hrow
      exact hrow.symm
  simp only [provideRawInputs, ha, hlatest, hfind]

/-- A latest dataset without a job supplies nothing. -/
theorem provideRawInputs_of_noJob (ha : assessments.get assessmentId.id = some assessment)
    (hlatest : db.getLatest tie assessment.tenantId (datasetName hazardType stageType) = some dataset)
    (horigin : db.HasNoJob dataset.id) :
    provideRawInputs d assessments db tie hazardType stageType assessmentId =
      .error (noJob (datasetName hazardType stageType) dataset) := by
  have hfind : (listByTenant db assessment.tenantId).find? (·.datasetId = some dataset.id) =
      none := by
    refine List.find?_eq_none.mpr fun job hmem hid => ?_
    exact horigin _ job (Lib.Table.get_of_mem (mem_listByTenant.mp hmem).1) (of_decide_eq_true hid)
  simp only [provideRawInputs, ha, hlatest, hfind]

end

/-! ### Uploads -/

/-- The step completes a local upload of the tenant under the name: JSON that reads as an object.
    The registered provider of local uploads returns what it is given. -/
structure CompletesUpload (d : Decoders) (tenantId : TenantId) (name : String)
    (fields : List (String × Json)) (db : DataAcquisition.Db) (t : Timestamp × Command) : Prop where
  upload : ∃ now w c id tie finished job,
    t = (now, .executeAcquisitionJob w c id tie finished) ∧
    (∀ reference content spec, w.fetch .localUpload reference content spec =
      .ok (DataAcquisition.localUploadFetch content)) ∧
    (∀ old, db.acquisitionJobs.get c.acquisitionJobId = some old → old.status ≠ .completed) ∧
    (db.step t).acquisitionJobs.get c.acquisitionJobId = some job ∧ job.status = .completed ∧
    job.tenantId = tenantId ∧ job.sourceReference = name ∧ job.provider = .localUpload ∧
    job.format = .json ∧ d.payload (job.rawContentBase64.getD "") = .ok (.obj fields)

/-- A local upload of JSON supplies neither features nor attributes. -/
theorem acquire_localUpload {w : DataAcquisition.World} {job : AcquisitionJob}
    {acquired : DataAcquisition.Acquired}
    (hfetch : ∀ reference content spec, w.fetch .localUpload reference content spec =
      .ok (DataAcquisition.localUploadFetch content))
    (hprovider : job.provider = .localUpload) (hformat : job.format = .json)
    (h : DataAcquisition.acquire w job = .ok acquired) :
    acquired.computedFeatures = [] ∧ acquired.shapefile = none ∧
      job.rawContentBase64.getD "" ≠ "" := by
  obtain ⟨area, content, -, hcontent, hfetched, hcheck, hshapefile, hextract⟩ :=
    DataAcquisition.acquire_ok.mp h
  unfold DataAcquisition.fetch at hfetched
  rw [hprovider, hfetch] at hfetched
  have hresult : DataAcquisition.localUploadFetch content = acquired.fetched :=
    Except.ok.inj hfetched
  cases content with
  | none =>
    -- without content the fetch fails, and the job with it
    rw [← hresult] at hcheck
    cases hcheck
  | some bytes =>
    refine ⟨?_, ?_, ?_⟩
    · unfold DataAcquisition.extract at hextract
      split at hextract
      · exact (Prod.mk.inj (Except.ok.inj hextract)).1.symm
      · exact (Prod.mk.inj (Except.ok.inj hextract)).1.symm
      · rw [← hresult] at hextract
        exact (Prod.mk.inj (Except.ok.inj hextract)).1.symm
    · unfold DataAcquisition.parseShapefile at hshapefile
      rw [if_pos (by simp [hformat])] at hshapefile
      exact (Except.ok.inj hshapefile).symm
    · intro hempty
      cases DataAcquisition.uploaded_ok.mp hcontent with
      | content hraw hne hdecode =>
        rw [hraw] at hempty
        exact hne hempty

section Runs

open DataAcquisition.Db (Writes)

variable {d : Decoders} {assessments : Lib.Table Orchestration.Assessment.id} {tie : ℕ}
  {hazardType : Analysis.HazardType} {stageType : Analysis.StageType}
  {assessmentId : Spelled Orchestration.AssessmentId} {assessment : Orchestration.Assessment}

theorem getD_eq_nil {α : Type} {b : Prop} [Decidable b] {xs : List α} (h : xs = []) :
    (if b then none else some xs).getD [] = [] := by
  split <;> simp [h]

/-- What a completed upload supplies is the object that was uploaded. -/
theorem inputsOf_upload {fields : List (String × Json)} {name : String} {w : DataAcquisition.World}
    {old job : AcquisitionJob} {acquired : DataAcquisition.Acquired} {id : DataAcquisition.DatasetId}
    {t t' : Timestamp}
    (hfetch : ∀ reference content spec, w.fetch .localUpload reference content spec =
      .ok (DataAcquisition.localUploadFetch content))
    (hacquire : DataAcquisition.acquire w (old.started t) = .ok acquired)
    (hjob : job = { (old.started t).ofCompletion w id acquired t' with aoiId := job.aoiId })
    (hprovider : job.provider = .localUpload) (hformat : job.format = .json)
    (hpayload : d.payload (job.rawContentBase64.getD "") = .ok (.obj fields)) :
    inputsOf d name job = .ok (fields.map fun (key, value) => (key, .json value)) := by
  have hupload : job.upload = (old.started t).upload := by
    rw [hjob]
    rfl
  obtain ⟨hfeatures, hshapefile, hraw⟩ := acquire_localUpload hfetch
    ((congrArg DataAcquisition.Upload.provider hupload).symm.trans hprovider)
    ((congrArg DataAcquisition.Upload.format hupload).symm.trans hformat) hacquire
  have hraw : job.rawContentBase64.getD "" ≠ "" := by
    rw [show job.rawContentBase64 = (old.started t).rawContentBase64 from
      congrArg DataAcquisition.Upload.rawContentBase64 hupload]
    exact hraw
  have hextracted : job.extractedFeatures.getD [] = [] := by
    rw [hjob]
    exact getD_eq_nil hfeatures
  have hattributes : job.shapefileAttributes.getD [] = [] := by
    rw [hjob]
    simp [AcquisitionJob.ofCompletion, hshapefile]
  simp only [inputsOf, hextracted, hattributes, if_neg hraw, hpayload]

variable (d assessments tie hazardType stageType assessmentId)

/-- What is provided after a sequence of commands. -/
def providedAfter (commands : List (Timestamp × Command)) :
    Except InputsError (List (String × Attribute)) :=
  provideRawInputs d assessments (commands.foldl DataAcquisition.Db.step .empty) tie hazardType
    stageType assessmentId

variable {d assessments tie hazardType stageType assessmentId}

/-- Nothing is written under the name from here on. -/
def Quiet (tenantId : TenantId) (name : String) (db : DataAcquisition.Db)
    (commands : List (Timestamp × Command)) : Prop :=
  Lib.AllSteps DataAcquisition.Db.step (fun db t => ¬ Writes tenantId name db t) db commands

variable {before after : List (Timestamp × Command)} {t : Timestamp × Command}

/-- The latest dataset after the last write under the name is there to the end of the run. -/
theorem latest_of_quiet {tenantId : TenantId} {name : String} {dataset : Dataset}
    (hquiet : Quiet tenantId name ((before.foldl DataAcquisition.Db.step .empty).step t) after)
    (hlatest : ((before.foldl DataAcquisition.Db.step .empty).step t).getLatest tie tenantId name =
      some dataset) :
    ((before ++ t :: after).foldl DataAcquisition.Db.step .empty).getLatest tie tenantId name =
      some dataset := by
  rw [List.foldl_append, List.foldl_cons, DataAcquisition.Db.getLatest_run hquiet, hlatest]

/-- The job whose execution wrote last supplies the inputs. -/
theorem providedAfter_execution (ha : assessments.get assessmentId.id = some assessment)
    (hquiet : Quiet assessment.tenantId (datasetName hazardType stageType)
      ((before.foldl DataAcquisition.Db.step .empty).step t) after)
    {job : AcquisitionJob} {dataset : Dataset}
    (hlatest : ((before.foldl DataAcquisition.Db.step .empty).step t).getLatest tie
      assessment.tenantId (datasetName hazardType stageType) = some dataset)
    (horigin : ((before.foldl DataAcquisition.Db.step .empty).step t).OriginatesFrom dataset.id job)
    (htenant : job.tenantId = assessment.tenantId) :
    providedAfter d assessments tie hazardType stageType assessmentId (before ++ t :: after) =
      inputsOf d (datasetName hazardType stageType) job := by
  have hlinked := (DataAcquisition.Db.linked_run before).step t
  refine provideRawInputs_of_origin (DataAcquisition.Db.linked_run _) ha
    (latest_of_quiet hquiet hlatest) ?_ htenant
  rw [List.foldl_append, List.foldl_cons]
  exact horigin.run hlinked after

/-- After a command that wrote without a job nothing is supplied. -/
theorem providedAfter_noJob (ha : assessments.get assessmentId.id = some assessment)
    (hquiet : Quiet assessment.tenantId (datasetName hazardType stageType)
      ((before.foldl DataAcquisition.Db.step .empty).step t) after) {dataset : Dataset}
    (hlatest : ((before.foldl DataAcquisition.Db.step .empty).step t).getLatest tie
      assessment.tenantId (datasetName hazardType stageType) = some dataset)
    (horigin : ((before.foldl DataAcquisition.Db.step .empty).step t).HasNoJob dataset.id) :
    providedAfter d assessments tie hazardType stageType assessmentId (before ++ t :: after) =
      .error (noJob (datasetName hazardType stageType) dataset) := by
  refine provideRawInputs_of_noJob ha (latest_of_quiet hquiet hlatest) ?_
  rw [List.foldl_append, List.foldl_cons]
  exact horigin.run (DataAcquisition.Db.isSome_of_getLatest hlatest) after

/-- The row stored for a job in the end: the job as it was requested, with what the pipeline acquired
    for it when a step executed it. -/
structure StoredJob (before after : List (Timestamp × Command)) (t : Timestamp × Command)
    (w : DataAcquisition.World) (c : DataAcquisition.ExecuteAcquisitionJob)
    (id : DataAcquisition.DatasetId) (job : AcquisitionJob) : Prop where
  stored : ((before ++ t :: after).foldl DataAcquisition.Db.step .empty).acquisitionJobs.get
    c.acquisitionJobId = some job
  requested : ∃ now request, (now, Command.scheduleAcquisitionJob request c.acquisitionJobId) ∈ before ∧
    job.upload = request.upload
  acquired : ∃ old acquired s s', (before.foldl DataAcquisition.Db.step .empty).acquisitionJobs.get
      c.acquisitionJobId = some old ∧
    DataAcquisition.acquire w (old.started s) = .ok acquired ∧
    job = { (old.started s).ofCompletion w id acquired s' with aoiId := job.aoiId }

/-- What is provided follows the last step that wrote under the name. -/
structure FollowsLastWrite (d : Decoders) (tenantId : TenantId) (name : String)
    (before after : List (Timestamp × Command)) (t : Timestamp × Command)
    (provided : Except InputsError (List (String × Attribute))) : Prop where
  /-- It completed an upload of a JSON object: that object. -/
  uploaded : ∀ fields,
    CompletesUpload d tenantId name fields (before.foldl DataAcquisition.Db.step .empty) t →
      provided = .ok (fields.map fun (key, value) => (key, .json value))
  /-- It completed some job: what the row of that job has to supply. -/
  executed : Writes tenantId name (before.foldl DataAcquisition.Db.step .empty) t →
    ∀ w c id tie finished, t.2 = .executeAcquisitionJob w c id tie finished →
      ∃ job, StoredJob before after t w c id job ∧ provided = inputsOf d name job
  /-- It revised the dataset: an error. -/
  revised : Writes tenantId name (before.foldl DataAcquisition.Db.step .empty) t →
    ∀ c id tie, t.2 = .reviseDataset c id tie → ∃ dataset, provided = .error (noJob name dataset)
  /-- It catalogued the dataset under a free name: an error. -/
  catalogued : Writes tenantId name (before.foldl DataAcquisition.Db.step .empty) t →
    ∀ c id, t.2 = .catalogDataset c id →
      (before.foldl DataAcquisition.Db.step .empty).getLatest 0 tenantId name = none →
        ∃ dataset, provided = .error (noJob name dataset)

/-- After any sequence of commands, what is provided follows the last of them that wrote under the
    name of the stage. -/
theorem inputs_follow_last_write (d : Decoders)
    (assessments : Lib.Table Orchestration.Assessment.id) (tie : ℕ)
    (hazardType : Analysis.HazardType) (stageType : Analysis.StageType)
    (assessmentId : Spelled Orchestration.AssessmentId) (assessment : Orchestration.Assessment)
    (before after : List (Timestamp × Command)) (t : Timestamp × Command)
    (ha : assessments.get assessmentId.id = some assessment)
    (hquiet : Quiet assessment.tenantId (datasetName hazardType stageType)
      ((before.foldl DataAcquisition.Db.step .empty).step t) after) :
    FollowsLastWrite d assessment.tenantId (datasetName hazardType stageType) before after t
      (providedAfter d assessments tie hazardType stageType assessmentId (before ++ t :: after)) := by
  obtain ⟨now, command⟩ := t
  have hlinked := DataAcquisition.Db.linked_run before
  refine ⟨?_, ?_, ?_, ?_⟩
  · rintro fields ⟨now, w, c, id, tie', finished, job, heq, hfetch, hopen, hget, hcompleted, htenant,
      hname, hprovider, hformat, hpayload⟩
    cases heq
    have hwrites := DataAcquisition.Db.writes_of_completion hopen hget hcompleted
    rw [htenant, hname] at hwrites
    obtain ⟨dataset, old, row, acquired, s, s', hlatest, horigin, hold, hupload, htenant', hname',
      hacquire, hrow⟩ := DataAcquisition.Db.origin_of_execution hwrites
    -- the row of the completed job is the one that the dataset comes from
    obtain rfl : row = job := by
      have hid : row.id = c.acquisitionJobId := by
        rw [← Lib.Table.key_of_get hold, hrow]
        rfl
      exact Option.some.inj ((hid ▸ horigin.1).symm.trans hget)
    rw [providedAfter_execution ha hquiet (hlatest tie) horigin htenant]
    exact inputsOf_upload hfetch hacquire hrow hprovider hformat hpayload
  · rintro hwrites w c id tie' finished rfl
    obtain ⟨dataset, old, row, acquired, s, s', hlatest, horigin, hold, hupload, htenant, hname,
      hacquire, hrow⟩ := DataAcquisition.Db.origin_of_execution hwrites
    obtain ⟨asked, request, hmem, hrequest⟩ :=
      DataAcquisition.Db.upload_of_schedule before _ old hold
    have hid : row.id = c.acquisitionJobId := by
      rw [← Lib.Table.key_of_get hold, hrow]
      rfl
    refine ⟨row, ⟨?_, ⟨asked, request, hmem, hupload.symm.trans hrequest⟩,
      ⟨old, acquired, s, s', hold, hacquire, hrow⟩⟩,
      providedAfter_execution ha hquiet (hlatest tie) horigin htenant⟩
    rw [← hid, List.foldl_append, List.foldl_cons]
    exact (horigin.run (hlinked.step _) after).1
  · rintro hwrites c id tie' rfl
    obtain ⟨dataset, hlatest, horigin⟩ := DataAcquisition.Db.origin_of_revision hlinked hwrites
    exact ⟨dataset, providedAfter_noJob ha hquiet (hlatest tie) horigin⟩
  · rintro hwrites c id rfl hfree
    obtain ⟨dataset, hlatest, horigin⟩ :=
      DataAcquisition.Db.origin_of_cataloguing hlinked hwrites hfree
    exact ⟨dataset, providedAfter_noJob ha hquiet (hlatest tie) horigin⟩

end Runs

/-! ### An upload that is revised -/

/-- The readers, as they are on `eyJhIjoxfQ==`. -/
def floodDecoders : Decoders where
  b64decode := fun _ => .ok [0x7B, 0x22, 0x61, 0x22, 0x3A, 0x31, 0x7D]
  decodeUtf8 := fun _ => .ok "\x7b\"a\":1\x7d"
  jsonLoads := fun _ => .ok (.obj [("a", .int 1)])

def floodWorld : DataAcquisition.World :=
  { DataAcquisition.uploadWorld with
    b64decode := fun _ => .ok [0x7B, 0x22, 0x61, 0x22, 0x3A, 0x31, 0x7D] }

def floodUpload : DataAcquisition.ScheduleAcquisitionJob where
  tenantId := ⟨1⟩
  provider := .localUpload
  sourceReference := "FLOOD:HAZARD"
  format := .json
  datasetSourceId := ⟨10⟩
  declaredCrs := "EPSG:4326"
  rawContentBase64 := some "eyJhIjoxfQ=="

/-- The flood assessment of the tenant. -/
def floodAssessments : Lib.Table Orchestration.Assessment.id :=
  Lib.Table.empty.put {
    id := ⟨7⟩, tenantId := ⟨1⟩, name := "Basin", hazardType := .flood, status := .running
    createdBy := ⟨2⟩, createdAt := 0, updatedAt := 0 }

def floodScheduled : List (Timestamp × Command) := [
  (0, .registerDatasetSource ⟨none, "Uploads", .userUpload, "", "admin"⟩ ⟨10⟩),
  (1, .scheduleAcquisitionJob floodUpload ⟨20⟩)]

def floodExecuted : Timestamp × Command :=
  (2, .executeAcquisitionJob floodWorld ⟨⟨1⟩, ⟨20⟩⟩ ⟨30⟩ 0 3)

/-- The dataset gets another description. -/
def floodRevised : Timestamp × Command :=
  (4, .reviseDataset { DataAcquisition.rainfall with
    datasetName := "FLOOD:HAZARD", description := "units documented" } ⟨31⟩ 0)

theorem floodExecuted_completes : CompletesUpload floodDecoders ⟨1⟩ "FLOOD:HAZARD" [("a", .int 1)]
    (floodScheduled.foldl DataAcquisition.Db.step .empty) floodExecuted := by
  have hold : ((floodScheduled.foldl DataAcquisition.Db.step .empty).acquisitionJobs.get
      ⟨20⟩).all (fun old => old.status ≠ .completed) = true := by decide +kernel
  have hnew : (((floodScheduled.foldl DataAcquisition.Db.step .empty).step
      floodExecuted).acquisitionJobs.get ⟨20⟩).any (fun job => job.status = .completed ∧
        job.tenantId = ⟨1⟩ ∧ job.sourceReference = "FLOOD:HAZARD" ∧ job.provider = .localUpload ∧
          job.format = .json) = true := by decide +kernel
  obtain ⟨job, hget, hjob⟩ := (Option.any_eq_true _ _).mp hnew
  obtain ⟨hcompleted, htenant, hname, hprovider, hformat⟩ := of_decide_eq_true hjob
  refine ⟨2, floodWorld, _, _, _, _, job, rfl, fun _ _ _ => rfl, ?_, hget, hcompleted, htenant,
    hname, hprovider, hformat, rfl⟩
  intro old hget
  simpa using (Option.all_eq_true _ _).mp hold old hget

/-- The uploaded object, while another upload waits. -/
theorem inputs_follow_last_write_flood : providedAfter floodDecoders floodAssessments 0 .flood .hazard
    ⟨"7", ⟨7⟩⟩ (floodScheduled ++ floodExecuted :: [(4, .scheduleAcquisitionJob floodUpload ⟨21⟩)]) =
      .ok [("a", .json (.int 1))] := by
  have ha : (floodAssessments.get ⟨7⟩).any (fun a => a.tenantId = ⟨1⟩) = true := by decide +kernel
  obtain ⟨a, ha, htenant⟩ := (Option.any_eq_true _ _).mp ha
  have htenant : a.tenantId = ⟨1⟩ := of_decide_eq_true htenant
  refine (inputs_follow_last_write floodDecoders floodAssessments 0 .flood .hazard ⟨"7", ⟨7⟩⟩ a
    floodScheduled _ floodExecuted ha ?_).uploaded _ (htenant ▸ floodExecuted_completes)
  rw [htenant]
  refine ⟨not_not.mpr ?_, trivial⟩
  decide +kernel

/-- An upload is provided no longer once its dataset has been revised by a command. -/
theorem revised_upload_lost : ¬ ∀ (d : Decoders)
    (assessments : Lib.Table Orchestration.Assessment.id) (tie : ℕ)
    (hazardType : Analysis.HazardType) (stageType : Analysis.StageType)
    (assessmentId : Spelled Orchestration.AssessmentId) (assessment : Orchestration.Assessment)
    (before after : List (Timestamp × Command)) (t : Timestamp × Command)
    (fields : List (String × Json)), assessments.get assessmentId.id = some assessment →
    CompletesUpload d assessment.tenantId (datasetName hazardType stageType) fields
      (before.foldl DataAcquisition.Db.step .empty) t →
    Lib.AllSteps DataAcquisition.Db.step (fun db u => ∀ fields', ¬ CompletesUpload d
      assessment.tenantId (datasetName hazardType stageType) fields' db u)
      ((before.foldl DataAcquisition.Db.step .empty).step t) after →
    providedAfter d assessments tie hazardType stageType assessmentId (before ++ t :: after) =
      .ok (fields.map fun (key, value) => (key, .json value)) := by
  intro h
  have ha : (floodAssessments.get ⟨7⟩).any (fun a => a.tenantId = ⟨1⟩) = true := by decide +kernel
  obtain ⟨a, ha, htenant⟩ := (Option.any_eq_true _ _).mp ha
  have htenant : a.tenantId = ⟨1⟩ := of_decide_eq_true htenant
  have hprovided := h floodDecoders floodAssessments 0 .flood .hazard ⟨"7", ⟨7⟩⟩ a floodScheduled
    [floodRevised] floodExecuted _ ha (htenant ▸ floodExecuted_completes) ⟨?_, trivial⟩
  · have hlost : (providedAfter floodDecoders floodAssessments 0 .flood .hazard ⟨"7", ⟨7⟩⟩
        (floodScheduled ++ floodExecuted :: [floodRevised])).toOption.isSome = false := by
      decide +kernel
    rw [hprovided] at hlost
    cases hlost
  · rintro fields' ⟨now, w, c, id, tie, finished, job, heq, -⟩
    cases heq

end GeoRisk.Api
