import GeoRisk.DataAcquisition.VersionChain

/-! Where a dataset comes from. A completed job names the dataset it wrote, and no other job ever does;
    a dataset that was catalogued or revised by a command has no job:

        job ──datasetId──▶ dataset ◀── latest of (tenant, name)

    So the latest dataset of a name and the job behind it stay what they are until something is
    written under the name again. -/

namespace GeoRisk.DataAcquisition

namespace Db

variable {db db' : Db} {d previous : Dataset} {tenantId : TenantId} {name : String}

/-! ### One write -/

/-- `d` is written under a fresh identifier: over the latest dataset of its name, if there is one. -/
inductive Wrote (db db' : Db) (d : Dataset) : Prop
  | first (tie : ℕ) (h : db'.datasets = db.datasets.put d)
      (hlatest : db.getLatest tie d.tenantId d.metadata.name = none)
  | next (previous : Dataset) (tie : ℕ)
      (h : db'.datasets = (db.datasets.put previous.markSuperseded).put d)
      (hversion : d.version = previous.version + 1)
      (hlatest : db.getLatest tie d.tenantId d.metadata.name = some previous)

/-- A row that is newer than every other catalogued row of its name is the latest one. -/
theorem getLatest_of_newest (hd : d ∈ db.versions tenantId name) (hstatus : d.status = .catalogued)
    (hnewest : ∀ r ∈ db.versions tenantId name, r.status = .catalogued → r ≠ d →
      r.version < d.version) (tie : ℕ) : db.getLatest tie tenantId name = some d := by
  unfold getLatest
  set catalogued := (db.versions tenantId name).filter fun d => d.status = .catalogued
    with hcatalogued
  have hmem : d ∈ catalogued := List.mem_filter.mpr ⟨hd, by simpa using hstatus⟩
  have hle : ∀ r ∈ catalogued, r ≠ d → r.version < d.version := by
    intro r hr hne
    obtain ⟨hr, hlive⟩ := List.mem_filter.mp hr
    exact hnewest r hr (by simpa using hlive) hne
  set highest := catalogued.filter fun d => ∀ d' ∈ catalogued, d'.version ≤ d.version with hhighest
  have honly : ∀ r ∈ highest, r = d := by
    intro r hr
    obtain ⟨hr, hmax⟩ := List.mem_filter.mp hr
    by_contra hne
    exact absurd (hle r hr hne) (not_lt.mpr (of_decide_eq_true hmax d hmem))
  have hd : d ∈ highest := by
    refine List.mem_filter.mpr ⟨hmem, decide_eq_true fun r hr => ?_⟩
    by_cases hne : r = d
    · rw [hne]
    · exact (hle r hr hne).le
  have hlt : tie % highest.length < highest.length := Nat.mod_lt _ (List.length_pos_of_mem hd)
  rw [List.getElem?_eq_getElem hlt]
  exact congrArg some (honly _ (List.getElem_mem hlt))

/-- The latest dataset has the greatest version of all that are catalogued. -/
theorem le_of_getLatest {tie : ℕ} (h : db.getLatest tie tenantId name = some previous) :
    ∀ r ∈ db.versions tenantId name, r.status = .catalogued → r.version ≤ previous.version := by
  intro r hr hstatus
  have hmem := List.mem_of_getElem? h
  have hmax := of_decide_eq_true (List.mem_filter.mp hmem).2
  exact hmax r (List.mem_filter.mpr ⟨hr, by simpa using hstatus⟩)

/-- No latest dataset: nothing is catalogued under the name. -/
theorem not_catalogued_of_getLatest {tie : ℕ} (h : db.getLatest tie tenantId name = none) :
    ∀ r ∈ db.versions tenantId name, r.status ≠ .catalogued := by
  intro r hr hstatus
  set catalogued := (db.versions tenantId name).filter fun d => d.status = .catalogued
    with hcatalogued
  have hmem : r ∈ catalogued := List.mem_filter.mpr ⟨hr, by simpa using hstatus⟩
  -- one of the catalogued rows has the greatest version, so there is a row to choose
  obtain ⟨top, htop, hmax⟩ := catalogued.toFinset.exists_max_image Dataset.version
    ⟨r, List.mem_toFinset.mpr hmem⟩
  set highest := catalogued.filter fun d => ∀ d' ∈ catalogued, d'.version ≤ d.version with hhighest
  have htop : top ∈ highest := List.mem_filter.mpr
    ⟨List.mem_toFinset.mp htop, decide_eq_true fun r hr => hmax r (List.mem_toFinset.mpr hr)⟩
  have hlt : tie % highest.length < highest.length := Nat.mod_lt _ (List.length_pos_of_mem htop)
  cases h.symm.trans (List.getElem?_eq_getElem hlt)

/-- The rows under a key, after a write. -/
theorem Wrote.versions (h : db.Wrote db' d) (hfresh : db.datasets.get d.id = none)
    (tenantId : TenantId) (name : String) : ∃ f : Dataset → Dataset,
      (∀ r, (f r).status = .catalogued → r.status = .catalogued ∧ (f r).version = r.version) ∧
      (¬ (d.tenantId = tenantId ∧ d.metadata.name = name) →
        ∀ r ∈ db.versions tenantId name, f r = r) ∧
      db'.versions tenantId name = (db.versions tenantId name).map f ++
        if d.tenantId = tenantId ∧ d.metadata.name = name then [d] else [] := by
  cases h with
  | first tie h hlatest =>
    refine ⟨id, fun r hr => ⟨hr, rfl⟩, fun _ _ _ => rfl, ?_⟩
    rw [versions_put h hfresh, List.map_id]
    split <;> simp
  | next previous tie h hversion hlatest =>
    obtain ⟨hrow, htenant, hname⟩ := mem_versions.mp (mem_of_getLatest hlatest)
    set mid : Db := { db with datasets := db.datasets.put previous.markSuperseded } with hmid
    have hne : d.id ≠ previous.markSuperseded.id := by
      intro heq
      rw [heq, Dataset.markSuperseded_id, Lib.Table.get_of_mem hrow] at hfresh
      cases hfresh
    have hmidfresh : mid.datasets.get d.id = none := by
      rw [hmid, Lib.Table.get_put_of_ne _ hne, hfresh]
    refine ⟨supersede previous, ?_, ?_, ?_⟩
    · intro r hr
      unfold supersede at hr ⊢
      split at hr
      · cases hr
      · next hrp => exact ⟨hr, by rw [if_neg hrp]⟩
    · intro hkey r hr
      refine if_neg fun hrp => hkey ?_
      obtain ⟨-, rfl, rfl⟩ := mem_versions.mp hr
      rw [hrp]
      exact ⟨htenant.symm, hname.symm⟩
    · have hput := @versions_put mid db' d h hmidfresh tenantId name
      rw [hput, versions_supersede rfl hrow]
      split <;> simp

/-- What is written is the latest of its name. -/
theorem Wrote.getLatest (h : db.Wrote db' d) (hfresh : db.datasets.get d.id = none)
    (hstatus : d.status = .catalogued) (tie : ℕ) :
    db'.getLatest tie d.tenantId d.metadata.name = some d := by
  obtain ⟨f, hf, -, hversions⟩ := h.versions hfresh d.tenantId d.metadata.name
  rw [if_pos ⟨rfl, rfl⟩] at hversions
  refine getLatest_of_newest (by simp [hversions]) hstatus ?_ tie
  intro r hr hlive hne
  rw [hversions, List.mem_append, List.mem_singleton, List.mem_map] at hr
  obtain ⟨old, hold, rfl⟩ := hr.resolve_right hne
  obtain ⟨hlive, hsame⟩ := hf old hlive
  rw [hsame]
  cases h with
  | first tie h hlatest => exact absurd hlive (not_catalogued_of_getLatest hlatest old hold)
  | next previous tie h hversion hlatest =>
    rw [hversion]
    exact Nat.lt_succ_of_le (le_of_getLatest hlatest old hold hlive)

/-- Under other names nothing changes. -/
theorem Wrote.versions_of_ne (h : db.Wrote db' d) (hfresh : db.datasets.get d.id = none)
    (hne : ¬ (d.tenantId = tenantId ∧ d.metadata.name = name)) :
    db'.versions tenantId name = db.versions tenantId name := by
  obtain ⟨f, -, hf, hversions⟩ := h.versions hfresh tenantId name
  rw [hversions, if_neg hne, List.append_nil, List.map_congr_left (hf hne), List.map_id']

/-- What is there stays there, and what is written is there too. -/
theorem Wrote.isSome_get (h : db.Wrote db' d) {id : DatasetId}
    (hid : id = d.id ∨ (db.datasets.get id).isSome) : (db'.datasets.get id).isSome := by
  have hput : ∀ table : Lib.Table Dataset.id, (id = d.id ∨ (table.get id).isSome) →
      ((table.put d).get id).isSome := by
    rintro table (rfl | hsome)
    · rw [Lib.Table.get_put_self]
      rfl
    · exact Lib.Table.isSome_get_put _ _ hsome
  cases h with
  | first tie h hlatest =>
    rw [h]
    exact hput _ hid
  | next previous tie h hversion hlatest =>
    rw [h]
    exact hput _ (hid.imp_right (Lib.Table.isSome_get_put _ _))

end Db

/-! ### What the commands write -/

/-- What a request asks to acquire. No command changes it. -/
structure Upload where
  tenantId : TenantId
  provider : DataProvider
  sourceReference : String
  format : AcquisitionFormat
  rawContentBase64 : Option String
  deriving DecidableEq

def ScheduleAcquisitionJob.upload (c : ScheduleAcquisitionJob) : Upload :=
  ⟨c.tenantId, c.provider, c.sourceReference, c.format, c.rawContentBase64⟩

def AcquisitionJob.upload (job : AcquisitionJob) : Upload :=
  ⟨job.tenantId, job.provider, job.sourceReference, job.format, job.rawContentBase64⟩

/-- The row of a scheduled job is replaced. -/
structure JobMoved (db db' : Db) (old row : AcquisitionJob) : Prop where
  found : db.acquisitionJobs.get old.id = some old
  scheduled : old.status = .scheduled
  upload : row.upload = old.upload
  id : row.id = old.id
  get : ∀ id, db'.acquisitionJobs.get id =
    if id = old.id then some row else db.acquisitionJobs.get id

/-- What an execution does to the datasets and the jobs. -/
inductive ExecutionEffect (w : World) (c : ExecuteAcquisitionJob) (id : DatasetId)
    (db db' : Db) : Prop
  | idle (h : db' = db)
  | unfinished (old row : AcquisitionJob) (hmoved : JobMoved db db' old row)
      (hopen : row.status ≠ .completed) (hdataset : row.datasetId = old.datasetId)
      (hkept : db'.datasets = db.datasets)
  | completed (old row : AcquisitionJob) (d : Dataset) (acquired : Acquired) (t t' : Timestamp)
      (hmoved : JobMoved db db' old row) (hid : old.id = c.acquisitionJobId)
      (hacquire : acquire w (old.started t) = .ok acquired)
      (hrow : row = { (old.started t).ofCompletion w id acquired t' with aoiId := row.aoiId })
      (hwrote : db.Wrote db' d) (hd : d.id = id) (hstatus : d.status = .catalogued)
      (htenant : d.tenantId = old.tenantId) (hname : d.metadata.name = old.sourceReference)

section Handlers

variable {db db' : Db} {now : Timestamp} {d : Dataset} {id : DatasetId} {tie : ℕ}

theorem Db.Wrote.congr {db₁ db₂ : Db} (h : db₁.Wrote db₂ d) (h₁ : db₁.datasets = db.datasets)
    (h₂ : db'.datasets = db₂.datasets) : db.Wrote db' d := by
  cases h with
  | first tie h hlatest =>
    rw [h₁] at h
    rw [Db.getLatest_congr h₁] at hlatest
    exact .first tie (h₂.trans h) hlatest
  | next previous tie h hversion hlatest =>
    rw [h₁] at h
    rw [Db.getLatest_congr h₁] at hlatest
    exact .next previous tie (h₂.trans h) hversion hlatest

theorem reviseDataset_wrote {c : ReviseDataset}
    (h : reviseDataset c id tie now db = .ok (db', d)) :
    db.Wrote db' d ∧ d.id = id ∧ d.status = .catalogued ∧ d.tenantId = c.tenantId ∧
      d.metadata.name = c.datasetName := by
  unfold reviseDataset at h
  split at h
  · cases h
  · next previous hlatest =>
    obtain ⟨metadata, hmetadata, h⟩ := Lib.bind_ok.mp h
    obtain ⟨-, -, h⟩ := Lib.bind_ok.mp h
    cases h
    obtain ⟨-, htenant, -⟩ := Db.mem_versions.mp (Db.mem_of_getLatest hlatest)
    refine ⟨.next previous tie rfl rfl ?_, rfl, rfl, htenant, metadata_name hmetadata⟩
    rw [← htenant, ← metadata_name hmetadata] at hlatest
    exact hlatest

theorem catalogAcquired_wrote {job : AcquisitionJob} {metadata : DatasetMetadata}
    (hname : metadata.name = job.sourceReference)
    (h : catalogAcquired job metadata id tie now db = .ok (db', d)) :
    db.Wrote db' d ∧ d.id = id ∧ d.status = .catalogued ∧ d.tenantId = job.tenantId ∧
      d.metadata.name = job.sourceReference := by
  unfold catalogAcquired at h
  rw [← hname] at h ⊢
  split at h
  · next hlatest =>
    obtain ⟨-, -, h⟩ := Lib.bind_ok.mp h
    cases h
    exact ⟨.first tie rfl hlatest, rfl, rfl, rfl, rfl⟩
  · next previous hlatest =>
    obtain ⟨-, -, h⟩ := Lib.bind_ok.mp h
    cases h
    obtain ⟨-, htenant, -⟩ := Db.mem_versions.mp (Db.mem_of_getLatest hlatest)
    refine ⟨.next previous tie rfl rfl ?_, rfl, rfl, htenant, rfl⟩
    rw [← htenant] at hlatest
    exact hlatest

theorem stored_same {job row : AcquisitionJob} (h : job.stored = .ok row) :
    row.id = job.id ∧ row.upload = job.upload ∧ row.status = job.status ∧
      row.datasetId = job.datasetId := by
  rw [stored_ok h]
  exact ⟨rfl, rfl, rfl, rfl⟩

/-- The job is started, and its row moves once more if the execution goes on to an end. -/
theorem executeAcquisitionJob_written {w : World} {c : ExecuteAcquisitionJob}
    {finished : Timestamp} :
    ExecutionEffect w c id db (executeAcquisitionJob w c id tie now finished db).1 := by
  unfold executeAcquisitionJob
  split
  · exact .idle rfl
  · next db₁ job hstart =>
    obtain ⟨old, hget, htenant, hstatus, rfl, started, outbox, hstored, -, rfl⟩ :=
      startJob_ok hstart
    have hid := Lib.Table.key_of_get hget
    obtain ⟨hstarted, hupload, hrunning, hdataset⟩ := stored_same hstored
    change started.id = old.id at hstarted
    rw [← hid] at hget
    split
    · refine .unfinished old started ⟨hget, hstatus, hupload, hstarted, fun i => ?_⟩ ?_ hdataset rfl
      · rw [← hstarted]
        exact Lib.Table.get_put _ _ _
      · simp [hrunning, AcquisitionJob.started]
    · next db₂ done hfinish =>
      -- the second row replaces the first
      have hput : ∀ row : AcquisitionJob, row.id = old.id → ∀ i,
          ((db.acquisitionJobs.put started).put row).get i =
            if i = old.id then some row else db.acquisitionJobs.get i := by
        intro row hrow i
        rw [Lib.Table.get_put, Lib.Table.get_put, hrow, hstarted]
        split <;> rfl
      rcases finishJob_ok.mp hfinish with ⟨error, -, hfail⟩ | ⟨acquired, hcompletes⟩
      · obtain ⟨-, rfl, row, outbox, hstored, -, rfl⟩ := failJob_ok hfail
        obtain ⟨hrow, hupload, hfailed, hdataset⟩ := stored_same hstored
        refine .unfinished old row ⟨hget, hstatus, hupload, hrow, hput row hrow⟩ ?_ hdataset rfl
        simp [hfailed, AcquisitionJob.ofFailure]
      · obtain ⟨hacquire, metadata, db₃, d, event, hmetadata, hcatalog, hcomplete, hsave⟩ :=
          hcompletes
        obtain ⟨-, rfl, -⟩ := complete_ok.mp hcomplete
        obtain ⟨hwrote, hd, hlive, htenant, hname⟩ :=
          catalogAcquired_wrote (DatasetMetadata.name_of_make hmetadata) hcatalog
        obtain ⟨datasets, outbox, rfl⟩ := catalogAcquired_ok hcatalog
        obtain ⟨row, outbox, hstored, -, rfl⟩ := saveJob_writes hsave
        obtain ⟨hrow, hupload, -, -⟩ := stored_same hstored
        exact .completed old row d acquired now finished
          ⟨hget, hstatus, hupload, hrow, hput row hrow⟩ hid hacquire (hd ▸ stored_ok hstored)
          (hwrote.congr rfl rfl) hd hlive htenant hname

/-- What a step does to the datasets and the jobs. -/
inductive StepEffect (db db' : Db) : Command → Prop
  | other {command : Command} (hjobs : db'.acquisitionJobs = db.acquisitionJobs)
      (hkept : db'.datasets = db.datasets) : StepEffect db db' command
  | scheduled {c : ScheduleAcquisitionJob} {id : AcquisitionJobId} (row : AcquisitionJob)
      (hnew : db.acquisitionJobs.get id = none) (hupload : row.upload = c.upload)
      (hdataset : row.datasetId = none)
      (hget : ∀ i, db'.acquisitionJobs.get i =
        if i = id then some row else db.acquisitionJobs.get i)
      (hkept : db'.datasets = db.datasets) : StepEffect db db' (.scheduleAcquisitionJob c id)
  | catalogued {c : CatalogDataset} {id : DatasetId} (d : Dataset)
      (hjobs : db'.acquisitionJobs = db.acquisitionJobs)
      (h : db'.datasets = db.datasets.put d) (hfresh : db.datasets.get d.id = none)
      (hstatus : d.status = .catalogued) (htenant : d.tenantId = c.tenantId)
      (hname : d.metadata.name = c.name) : StepEffect db db' (.catalogDataset c id)
  | revised {c : ReviseDataset} {id : DatasetId} {tie : ℕ} (d : Dataset)
      (hjobs : db'.acquisitionJobs = db.acquisitionJobs) (hwrote : db.Wrote db' d)
      (hfresh : db.datasets.get d.id = none) (hstatus : d.status = .catalogued)
      (htenant : d.tenantId = c.tenantId) (hname : d.metadata.name = c.datasetName) :
      StepEffect db db' (.reviseDataset c id tie)
  | executed {w : World} {c : ExecuteAcquisitionJob} {id : DatasetId} {tie : ℕ}
      {finished : Timestamp} (hfresh : db.datasets.get id = none)
      (h : ExecutionEffect w c id db db') :
      StepEffect db db' (.executeAcquisitionJob w c id tie finished)

theorem schedule_row {c : ScheduleAcquisitionJob} {id : AcquisitionJobId} {job : AcquisitionJob}
    {event : AcquisitionJobScheduled} (h : AcquisitionJob.schedule id c now = .ok (job, event)) :
    job.id = id ∧ job.upload = c.upload ∧ job.datasetId = none := by
  unfold AcquisitionJob.schedule at h
  split_ifs at h
  cases h
  exact ⟨rfl, rfl, rfl⟩

theorem step_written (now : Timestamp) (command : Command) :
    StepEffect db (db.step (now, command)) command := by
  have hidle : StepEffect db db command := .other rfl rfl
  cases command with
  | registerDatasetSource c id =>
    refine Db.of_drawn (P := fun db' => StepEffect db db' _) hidle fun _ db' _ h => ?_
    obtain ⟨outbox, rfl⟩ := registerDatasetSource_ok h
    exact .other rfl rfl
  | catalogDataset c id =>
    refine Db.of_drawn (P := fun db' => StepEffect db db' _) hidle fun hfresh db' d h => ?_
    obtain ⟨source, -, h⟩ := Lib.bind_ok.mp h
    obtain ⟨metadata, hmetadata, h⟩ := Lib.bind_ok.mp h
    obtain ⟨-, -, h⟩ := Lib.bind_ok.mp h
    cases h
    exact .catalogued _ rfl rfl hfresh rfl rfl (metadata_name hmetadata)
  | reviseDataset c id tie =>
    refine Db.of_drawn (P := fun db' => StepEffect db db' _) hidle fun hfresh db' d h => ?_
    obtain ⟨hwrote, hd, hstatus, htenant, hname⟩ := reviseDataset_wrote h
    have hjobs : db'.acquisitionJobs = db.acquisitionJobs := by
      obtain ⟨datasets, outbox, rfl⟩ := reviseDataset_ok h
      rfl
    exact .revised d hjobs hwrote (hd ▸ hfresh) hstatus htenant hname
  | registerPredictorVariable c id =>
    refine Db.of_drawn (P := fun db' => StepEffect db db' _) hidle fun _ db' _ h => ?_
    obtain ⟨-, -, outbox, rfl⟩ := registerPredictorVariable_ok h
    exact .other rfl rfl
  | createVariableSelection c id =>
    refine Db.of_drawn (P := fun db' => StepEffect db db' _) hidle fun _ db' _ h => ?_
    obtain ⟨-, -, -, outbox, rfl⟩ := createVariableSelection_ok h
    exact .other rfl rfl
  | confirmVariableSelection c =>
    refine Db.of_commit (P := fun db' => StepEffect db db' _) hidle fun db' _ h => ?_
    obtain ⟨-, -, -, -, outbox, rfl⟩ := confirmVariableSelection_ok h
    exact .other rfl rfl
  | scheduleAcquisitionJob c id =>
    refine Db.of_drawn (P := fun db' => StepEffect db db' _) hidle fun hnew db' job h => ?_
    obtain ⟨⟨event, hschedule⟩, row, outbox, hstored, -, rfl⟩ := scheduleAcquisitionJob_ok h
    obtain ⟨hid, hupload, hdataset⟩ := schedule_row hschedule
    obtain ⟨hid', hupload', -, hdataset'⟩ := stored_same hstored
    refine .scheduled row hnew (hupload'.trans hupload) (hdataset'.trans hdataset) (fun i => ?_) rfl
    rw [← hid, ← hid']
    exact Lib.Table.get_put _ _ _
  | executeAcquisitionJob w c id tie finished =>
    simp only [Db.step]
    split
    · exact hidle
    · next hfresh =>
      exact .executed (Option.not_isSome_iff_eq_none.mp hfresh) executeAcquisitionJob_written

end Handlers

/-! ### Jobs and their datasets -/

namespace Db

/-- The job that wrote a dataset. -/
def OriginatesFrom (db : Db) (id : DatasetId) (job : AcquisitionJob) : Prop :=
  db.acquisitionJobs.get job.id = some job ∧ job.datasetId = some id

/-- No job wrote the dataset. -/
def HasNoJob (db : Db) (id : DatasetId) : Prop :=
  ∀ i job, db.acquisitionJobs.get i = some job → job.datasetId ≠ some id

/-- A job names a dataset only when it is completed, the dataset is there, and no other job names
    it. -/
structure Linked (db : Db) : Prop where
  present : ∀ i job, db.acquisitionJobs.get i = some job → ∀ id, job.datasetId = some id →
    job.status = .completed ∧ (db.datasets.get id).isSome
  once : ∀ i j job job' id, db.acquisitionJobs.get i = some job →
    db.acquisitionJobs.get j = some job' → job.datasetId = some id → job'.datasetId = some id →
      i = j

variable {db db' : Db} {command : Command} {id : DatasetId} {job : AcquisitionJob} {d : Dataset}
  {tenantId : TenantId} {name : String}

theorem linked_empty : Db.empty.Linked where
  present i job h := by cases h
  once i j job job' id h := by cases h

/-- One row is written; if it names a dataset, then one that is new. -/
theorem Linked.of_row (h : db.Linked) {k : AcquisitionJobId} {row : AcquisitionJob}
    (hget : ∀ i, db'.acquisitionJobs.get i = if i = k then some row else db.acquisitionJobs.get i)
    (hthere : ∀ id, (db.datasets.get id).isSome → (db'.datasets.get id).isSome)
    (hrow : ∀ id, row.datasetId = some id → row.status = .completed ∧
      db.datasets.get id = none ∧ (db'.datasets.get id).isSome) : db'.Linked where
  present i job hi id hid := by
    rw [hget] at hi
    split at hi
    · cases hi
      exact ⟨(hrow id hid).1, (hrow id hid).2.2⟩
    · obtain ⟨hstatus, hold⟩ := h.present i job hi id hid
      exact ⟨hstatus, hthere id hold⟩
  once := by
    -- a dataset that is new is named by no row that was there
    have hnew : ∀ j job id, db.acquisitionJobs.get j = some job → job.datasetId = some id →
        row.datasetId ≠ some id := by
      intro j job id hj hid hrowid
      have hold := (h.present j job hj id hid).2
      rw [(hrow id hrowid).2.1] at hold
      cases hold
    intro i j job job' id hi hj hid hid'
    rw [hget] at hi hj
    split at hi <;> split at hj
    · next hik hjk => rw [hik, hjk]
    · cases hi
      exact absurd hid (hnew j job' id hj hid')
    · cases hj
      exact absurd hid' (hnew i job id hi hid)
    · exact h.once i j job job' id hi hj hid hid'

theorem Linked.of_kept (h : db.Linked) (hjobs : db'.acquisitionJobs = db.acquisitionJobs)
    (hthere : ∀ id, (db.datasets.get id).isSome → (db'.datasets.get id).isSome) : db'.Linked where
  present i job hi id hid := by
    rw [hjobs] at hi
    obtain ⟨hstatus, hold⟩ := h.present i job hi id hid
    exact ⟨hstatus, hthere id hold⟩
  once := by
    rw [hjobs]
    exact h.once

/-- No step removes a dataset. -/
theorem isSome_of_effect (h : StepEffect db db' command) :
    ∀ id, (db.datasets.get id).isSome → (db'.datasets.get id).isSome := by
  intro id hid
  cases h with
  | other hjobs hkept => exact hkept ▸ hid
  | scheduled row hnew hupload hdataset hget hkept => exact hkept ▸ hid
  | catalogued d hjobs h hfresh hstatus htenant hname =>
    rw [h]
    exact Lib.Table.isSome_get_put _ _ hid
  | revised d hjobs hwrote hfresh hstatus htenant hname => exact hwrote.isSome_get (Or.inr hid)
  | executed hfresh h =>
    cases h with
    | idle h => exact h ▸ hid
    | unfinished old row hmoved hopen hdataset hkept => exact hkept ▸ hid
    | completed old row d acquired t t' hmoved hjob hacquire hrow hwrote hd hstatus htenant hname =>
      exact hwrote.isSome_get (Or.inr hid)

theorem Linked.not_scheduled (h : db.Linked) (hget : db.acquisitionJobs.get job.id = some job)
    (hstatus : job.status = .scheduled) : job.datasetId = none := by
  cases hid : job.datasetId with
  | none => rfl
  | some id =>
    rw [(h.present _ job hget id hid).1] at hstatus
    cases hstatus

/-- Step lemma. -/
theorem Linked.step (h : db.Linked) (t : Timestamp × Command) : (db.step t).Linked := by
  obtain ⟨now, command⟩ := t
  have heffect : StepEffect db (db.step (now, command)) command := step_written now command
  have hthere := isSome_of_effect heffect
  cases heffect with
  | other hjobs hkept => exact h.of_kept hjobs hthere
  | catalogued d hjobs _ _ _ _ _ => exact h.of_kept hjobs hthere
  | revised d hjobs _ _ _ _ _ => exact h.of_kept hjobs hthere
  | scheduled row hnew hupload hdataset hget hkept =>
    refine h.of_row hget hthere fun id hid => ?_
    rw [hdataset] at hid
    cases hid
  | executed hfresh heffect =>
    cases heffect with
    | idle hsame =>
      rw [hsame]
      exact h
    | unfinished old row hmoved hopen hdataset hkept =>
      refine h.of_row hmoved.get hthere fun id hid => ?_
      rw [hdataset, h.not_scheduled hmoved.found hmoved.scheduled] at hid
      cases hid
    | completed old row d acquired t t' hmoved hjob hacquire hrow hwrote hd hstatus htenant hname =>
      refine h.of_row hmoved.get hthere fun id hid => ?_
      rw [hrow] at hid ⊢
      cases hid
      exact ⟨rfl, hfresh, hwrote.isSome_get (Or.inl hd.symm)⟩

/-- Run lemma. -/
theorem linked_run (commands : List (Timestamp × Command)) :
    (commands.foldl Db.step Db.empty).Linked :=
  Lib.inv_foldl (P := Linked) (fun _ t h => h.step t) commands linked_empty

/-- The row of a completed job stays as it is. -/
theorem OriginatesFrom.step (h : db.OriginatesFrom id job) (hlinked : db.Linked)
    (t : Timestamp × Command) : (db.step t).OriginatesFrom id job := by
  obtain ⟨hget, hid⟩ := h
  refine ⟨?_, hid⟩
  have hcompleted := (hlinked.present _ job hget id hid).1
  have hmoved : ∀ old row, JobMoved db (db.step t) old row →
      (db.step t).acquisitionJobs.get job.id = some job := by
    intro old row hmoved
    rw [hmoved.get, if_neg, hget]
    intro heq
    rw [heq, hmoved.found] at hget
    cases hget
    cases hcompleted.symm.trans hmoved.scheduled
  obtain ⟨now, command⟩ := t
  have heffect : StepEffect db (db.step (now, command)) command := step_written now command
  cases heffect with
  | other hjobs hkept => rw [hjobs, hget]
  | catalogued d hjobs _ _ _ _ _ => rw [hjobs, hget]
  | revised d hjobs _ _ _ _ _ => rw [hjobs, hget]
  | scheduled row hnew hupload hdataset hrows hkept =>
    rw [hrows, if_neg, hget]
    intro heq
    rw [heq, hnew] at hget
    cases hget
  | executed hfresh heffect =>
    cases heffect with
    | idle hsame => rw [hsame, hget]
    | unfinished old row hrow _ _ _ => exact hmoved old row hrow
    | completed old row d acquired t t' hrow _ _ _ _ _ _ _ _ => exact hmoved old row hrow

/-- A dataset without a job stays without one. -/
theorem HasNoJob.step (h : db.HasNoJob id) (hthere : (db.datasets.get id).isSome)
    (t : Timestamp × Command) : (db.step t).HasNoJob id := by
  have hof : ∀ k row, (∀ i, (db.step t).acquisitionJobs.get i =
      if i = k then some row else db.acquisitionJobs.get i) → row.datasetId ≠ some id →
        (db.step t).HasNoJob id := by
    intro k row hget hrow i job hi
    rw [hget] at hi
    split at hi
    · cases hi
      exact hrow
    · exact h i job hi
  have hkept : (db.step t).acquisitionJobs = db.acquisitionJobs → (db.step t).HasNoJob id := by
    intro hjobs i job hi
    exact h i job (hjobs ▸ hi)
  obtain ⟨now, command⟩ := t
  have heffect : StepEffect db (db.step (now, command)) command := step_written now command
  cases heffect with
  | other hjobs _ => exact hkept hjobs
  | catalogued d hjobs _ _ _ _ _ => exact hkept hjobs
  | revised d hjobs _ _ _ _ _ => exact hkept hjobs
  | scheduled row hnew hupload hdataset hget _ =>
    refine hof _ row hget ?_
    rw [hdataset]
    exact (Option.some_ne_none id).symm
  | executed hfresh heffect =>
    cases heffect with
    | idle hsame => exact hkept (by rw [hsame])
    | unfinished old row hmoved _ hdataset _ =>
      refine hof _ row hmoved.get ?_
      rw [hdataset]
      exact h _ old hmoved.found
    | completed old row d acquired t t' hmoved hjob hacquire hrow hwrote hd hstatus htenant hname =>
      refine hof _ row hmoved.get fun hid => ?_
      rw [hrow] at hid
      cases hid
      rw [hfresh] at hthere
      cases hthere

theorem HasNoJob.of_fresh (hlinked : db.Linked) (hfresh : db.datasets.get id = none)
    (hjobs : db'.acquisitionJobs = db.acquisitionJobs) : db'.HasNoJob id := by
  intro i job hi hid
  rw [hjobs] at hi
  have hthere := (hlinked.present i job hi id hid).2
  rw [hfresh] at hthere
  cases hthere

/-! ### The last write under a name -/

/-- The command writes a dataset under the name. -/
def Writes (tenantId : TenantId) (name : String) (db : Db) (t : Timestamp × Command) : Prop :=
  (db.step t).versions tenantId name ≠ db.versions tenantId name

/-- What is written changes the rows of its own name only. -/
theorem Wrote.key_of_versions (h : db.Wrote db' d) (hfresh : db.datasets.get d.id = none)
    (hne : db'.versions tenantId name ≠ db.versions tenantId name) :
    d.tenantId = tenantId ∧ d.metadata.name = name := by
  by_contra hkey
  exact hne (h.versions_of_ne hfresh hkey)

/-- The dataset that an execution writes comes from its job. -/
theorem origin_of_execution {now finished : Timestamp} {w : World}
    {c : ExecuteAcquisitionJob} {tie : ℕ}
    (hwrites : Writes tenantId name db (now, .executeAcquisitionJob w c id tie finished)) :
    ∃ (d : Dataset) (old job : AcquisitionJob) (acquired : Acquired) (t t' : Timestamp),
      (∀ tie', (db.step (now, .executeAcquisitionJob w c id tie finished)).getLatest tie' tenantId
        name = some d) ∧
      (db.step (now, .executeAcquisitionJob w c id tie finished)).OriginatesFrom d.id job ∧
      db.acquisitionJobs.get c.acquisitionJobId = some old ∧ old.upload = job.upload ∧
      job.tenantId = tenantId ∧ job.sourceReference = name ∧
      acquire w (old.started t) = .ok acquired ∧
      job = { (old.started t).ofCompletion w id acquired t' with aoiId := job.aoiId } := by
  have heffect := @step_written db now (.executeAcquisitionJob w c id tie finished)
  unfold Writes at hwrites
  generalize db.step (now, .executeAcquisitionJob w c id tie finished) = db' at *
  cases heffect with
  | other hjobs hkept => exact absurd (versions_congr hkept tenantId name) hwrites
  | executed hfresh heffect =>
    cases heffect with
    | idle hsame => exact absurd (by rw [hsame]) hwrites
    | unfinished old row hmoved hopen hdataset hkept =>
      exact absurd (versions_congr hkept tenantId name) hwrites
    | completed old row d acquired t t' hmoved hjob hacquire hrow hwrote hd hstatus htenant hname =>
      obtain ⟨rfl, rfl⟩ := hwrote.key_of_versions (hd ▸ hfresh) hwrites
      have hget : db'.acquisitionJobs.get row.id = some row := by
        rw [hmoved.get, if_pos hmoved.id]
      have hid : row.datasetId = some id := by
        rw [hrow]
        rfl
      refine ⟨d, old, row, acquired, t, t', hwrote.getLatest (hd ▸ hfresh) hstatus,
        ⟨hget, hd ▸ hid⟩, hjob ▸ hmoved.found, hmoved.upload.symm, ?_, ?_, hacquire, hrow⟩
      · exact (congrArg Upload.tenantId hmoved.upload).trans htenant.symm
      · exact (congrArg Upload.sourceReference hmoved.upload).trans hname.symm

/-- A step that completes a job writes the dataset of that name. -/
theorem writes_of_completion {now finished : Timestamp} {w : World} {c : ExecuteAcquisitionJob}
    {tie : ℕ} (hopen : ∀ old, db.acquisitionJobs.get c.acquisitionJobId = some old →
      old.status ≠ .completed)
    (hget : (db.step (now, .executeAcquisitionJob w c id tie finished)).acquisitionJobs.get
      c.acquisitionJobId = some job)
    (hcompleted : job.status = .completed) :
    Writes job.tenantId job.sourceReference db
      (now, .executeAcquisitionJob w c id tie finished) := by
  have heffect := @step_written db now (.executeAcquisitionJob w c id tie finished)
  unfold Writes
  generalize db.step (now, .executeAcquisitionJob w c id tie finished) = db' at *
  have hkept : db.acquisitionJobs.get c.acquisitionJobId ≠ some job := fun h =>
    hopen job h hcompleted
  have hmoved : ∀ old row, JobMoved db db' old row →
      c.acquisitionJobId = old.id ∧ row = job := by
    intro old row hmoved
    rw [hmoved.get] at hget
    split at hget
    · next heq => exact ⟨heq, Option.some.inj hget⟩
    · exact absurd hget hkept
  cases heffect with
  | other hjobs _ => exact absurd (hjobs ▸ hget) hkept
  | executed hfresh heffect =>
    cases heffect with
    | idle hsame => exact absurd (hsame ▸ hget) hkept
    | unfinished old row hrow hrunning _ _ =>
      obtain ⟨-, rfl⟩ := hmoved old row hrow
      exact absurd hcompleted hrunning
    | completed old row d acquired t t' hrow hjob hacquire heq hwrote hd hstatus htenant hname =>
      obtain ⟨-, rfl⟩ := hmoved old row hrow
      have hkey : d.tenantId = row.tenantId ∧ d.metadata.name = row.sourceReference :=
        ⟨htenant.trans (congrArg Upload.tenantId hrow.upload).symm,
          hname.trans (congrArg Upload.sourceReference hrow.upload).symm⟩
      obtain ⟨f, -, -, hversions⟩ := hwrote.versions (hd ▸ hfresh) row.tenantId row.sourceReference
      rw [if_pos hkey] at hversions
      intro hsame
      have hlength := congrArg List.length (hversions.symm.trans hsame)
      simp at hlength

/-- A revision comes from no job. -/
theorem origin_of_revision (hlinked : db.Linked) {now : Timestamp} {c : ReviseDataset} {tie : ℕ}
    (hwrites : Writes tenantId name db (now, .reviseDataset c id tie)) :
    ∃ d : Dataset, (∀ tie', (db.step (now, .reviseDataset c id tie)).getLatest tie' tenantId name =
        some d) ∧
      (db.step (now, .reviseDataset c id tie)).HasNoJob d.id := by
  have heffect := @step_written db now (.reviseDataset c id tie)
  unfold Writes at hwrites
  generalize db.step (now, .reviseDataset c id tie) = db' at *
  cases heffect with
  | other hjobs hkept => exact absurd (versions_congr hkept tenantId name) hwrites
  | revised d hjobs hwrote hfresh hstatus htenant hname =>
    obtain ⟨rfl, rfl⟩ := hwrote.key_of_versions hfresh hwrites
    exact ⟨d, hwrote.getLatest hfresh hstatus, .of_fresh hlinked hfresh hjobs⟩

/-- Nor does a dataset that a command catalogs under a free name. -/
theorem origin_of_cataloguing (hlinked : db.Linked) {now : Timestamp} {c : CatalogDataset}
    (hwrites : Writes tenantId name db (now, .catalogDataset c id))
    (hfree : db.getLatest 0 tenantId name = none) :
    ∃ d : Dataset, (∀ tie', (db.step (now, .catalogDataset c id)).getLatest tie' tenantId name =
        some d) ∧
      (db.step (now, .catalogDataset c id)).HasNoJob d.id := by
  have heffect := @step_written db now (.catalogDataset c id)
  unfold Writes at hwrites
  generalize db.step (now, .catalogDataset c id) = db' at *
  cases heffect with
  | other hjobs hkept => exact absurd (versions_congr hkept tenantId name) hwrites
  | catalogued d hjobs hput hfresh hstatus htenant hname =>
    have hkey : d.tenantId = tenantId ∧ d.metadata.name = name := by
      by_contra hkey
      rw [versions_put hput hfresh, if_neg hkey] at hwrites
      exact hwrites rfl
    obtain ⟨rfl, rfl⟩ := hkey
    have hwrote : db.Wrote db' d := .first 0 hput hfree
    exact ⟨d, hwrote.getLatest hfresh hstatus, .of_fresh hlinked hfresh hjobs⟩

/-- While nothing is written under the name, its latest dataset stays the latest. -/
theorem getLatest_run {after : List (Timestamp × Command)}
    (hquiet : Lib.AllSteps Db.step (fun db t => ¬ Writes tenantId name db t) db after) (tie : ℕ) :
    (after.foldl Db.step db).getLatest tie tenantId name = db.getLatest tie tenantId name := by
  induction after generalizing db with
  | nil => rfl
  | cons t after ih =>
    obtain ⟨hsame, hrest⟩ := hquiet
    rw [List.foldl_cons, ih hrest, getLatest, getLatest, not_not.mp hsame]

theorem OriginatesFrom.run (h : db.OriginatesFrom id job) (hlinked : db.Linked)
    (after : List (Timestamp × Command)) : (after.foldl Db.step db).OriginatesFrom id job := by
  induction after generalizing db with
  | nil => exact h
  | cons t after ih => exact ih (h.step hlinked t) (hlinked.step t)

theorem HasNoJob.run (h : db.HasNoJob id) (hthere : (db.datasets.get id).isSome)
    (after : List (Timestamp × Command)) : (after.foldl Db.step db).HasNoJob id := by
  induction after generalizing db with
  | nil => exact h
  | cons t after ih =>
    obtain ⟨now, command⟩ := t
    exact ih (h.step hthere _) (isSome_of_effect (step_written now command) id hthere)

theorem isSome_of_getLatest {tie : ℕ} (h : db.getLatest tie tenantId name = some d) :
    (db.datasets.get d.id).isSome := by
  rw [Lib.Table.get_of_mem (mem_versions.mp (mem_of_getLatest h)).1]
  rfl

/-- What was asked of a job is what its request said. -/
theorem upload_of_schedule (commands : List (Timestamp × Command)) :
    ∀ i job, (commands.foldl Db.step Db.empty).acquisitionJobs.get i = some job →
      ∃ t c, (t, Command.scheduleAcquisitionJob c i) ∈ commands ∧ job.upload = c.upload := by
  induction commands using List.reverseRecOn with
  | nil =>
    intro i job hi
    cases hi
  | append_singleton commands t ih =>
    obtain ⟨now, command⟩ := t
    rw [List.foldl_concat]
    have heffect := @step_written (commands.foldl Db.step Db.empty) now command
    generalize (commands.foldl Db.step Db.empty).step (now, command) = db' at *
    intro i job hi
    have hold : ∀ job', (commands.foldl Db.step Db.empty).acquisitionJobs.get i = some job' →
        job.upload = job'.upload → ∃ t c, (t, Command.scheduleAcquisitionJob c i) ∈
          commands ++ [(now, command)] ∧ job.upload = c.upload := by
      intro job' hget hsame
      obtain ⟨t, c, hmem, hupload⟩ := ih i job' hget
      exact ⟨t, c, List.mem_append_left _ hmem, hsame.trans hupload⟩
    have hmoved : ∀ old row, JobMoved (commands.foldl Db.step Db.empty) db' old row →
        ∃ t c, (t, Command.scheduleAcquisitionJob c i) ∈ commands ++ [(now, command)] ∧
          job.upload = c.upload := by
      intro old row hmoved
      rw [hmoved.get] at hi
      split at hi
      · next heq =>
        cases hi
        exact hold old (heq ▸ hmoved.found) hmoved.upload
      · exact hold job hi rfl
    cases heffect with
    | other hjobs _ => exact hold job (hjobs ▸ hi) rfl
    | catalogued d hjobs _ _ _ _ _ => exact hold job (hjobs ▸ hi) rfl
    | revised d hjobs _ _ _ _ _ => exact hold job (hjobs ▸ hi) rfl
    | @scheduled c id row hnew hupload hdataset hget hkept =>
      rw [hget] at hi
      split at hi
      · next heq =>
        cases hi
        exact ⟨now, c, by simp [heq], hupload⟩
      · exact hold job hi rfl
    | executed hfresh heffect =>
      cases heffect with
      | idle hsame => exact hold job (hsame ▸ hi) rfl
      | unfinished old row hrow _ _ _ => exact hmoved old row hrow
      | completed old row d acquired t t' hrow _ _ _ _ _ _ _ _ => exact hmoved old row hrow

end Db

end GeoRisk.DataAcquisition
