import Mathlib
import GeoRisk.DataAcquisition.Writes

/-! Executions of acquisition jobs side by side. A request is a chain of transactions with the long
    fetch in between; a query sees what is committed by then, and the rows that a transaction saves
    are overwritten when it commits, whatever has become of them:

        loading ─▶ starting ═▶ fetching ─▶ cataloguing ─▶ completing ═▶ ended
           │           │          ├──────▶ failing ═════════════════▶ ended
           └───────────┴──────────┴───────────────────────────────────▶ ended      (═▶ commits)

    A request that nothing comes in between does what `executeAcquisitionJob` does. -/

namespace GeoRisk.DataAcquisition

/-! ### Requests and their phases -/

/-- A request to execute a job: what its collaborators answer, what is drawn for it, and when its two
    transactions take place. -/
structure Request where
  world : World
  command : ExecuteAcquisitionJob
  datasetId : DatasetId
  tie : ℕ
  started : Timestamp
  finished : Timestamp

/-- What a request has come to, with the job as it holds it. -/
inductive Phase where
  | loading
  | starting (job : AcquisitionJob) (event : AcquisitionJobStarted)
  | fetching (job : AcquisitionJob)
  | failing (job : AcquisitionJob) (error : String)
  | cataloguing (job : AcquisitionJob) (acquired : Acquired) (metadata : DatasetMetadata)
  | completing (job : AcquisitionJob) (acquired : Acquired) (metadata : DatasetMetadata)
      (latest : Option Dataset)
  | ended (result : Except AcquisitionError AcquisitionJob)

/-- What a request does to a job that others can notice. -/
inductive Deed where
  | start | fetch | catalogue
  deriving DecidableEq

/-- The tables, what each request has come to, and what it has done. -/
structure Executions (ι : Type) where
  db : Db
  phases : ι → Phase
  deeds : ι → List (Deed × AcquisitionJobId)

/-- The job that is loaded and started, to be saved. -/
def loadToStart (c : ExecuteAcquisitionJob) (now : Timestamp) (db : Db) :
    Except AcquisitionError (AcquisitionJob × AcquisitionJobStarted) :=
  match db.acquisitionJobs.get c.acquisitionJobId with
  | none => .error ⟨.acquisitionJobNotFound, s!"AcquisitionJob {c.acquisitionJobId} not found"⟩
  | some job =>
    if job.tenantId ≠ c.tenantId then
      .error ⟨.acquisitionJobNotFound, s!"AcquisitionJob {c.acquisitionJobId} not found"⟩
    else job.start now

/-- The fetch of the provider is called when the area is known and the upload decoded. -/
def asksProvider (w : World) (job : AcquisitionJob) : Bool :=
  (readArea w job).isOk && (uploaded w job).isOk

/-- The dataset of a completed job over the version that was found to be the latest. -/
def catalogOver (job : AcquisitionJob) (metadata : DatasetMetadata) (id : DatasetId)
    (latest : Option Dataset) (now : Timestamp) (db : Db) : Except AcquisitionError (Db × Dataset) :=
  match latest with
  | none => do
    let (dataset, event) :=
      Dataset.catalog id job.tenantId job.datasetSourceId metadata ∅ job.requestedBy now
    flushed dataset.fits
    let db := { db with datasets := db.datasets.put dataset }
    return (db.append "Dataset" (toString dataset.id) (.datasetCatalogued event)
      (some job.tenantId) now, dataset)
  | some previous => do
    let (dataset, event) := previous.revise id metadata previous.readiness
      s!"Re-uploaded via AcquisitionJob {job.id}" job.requestedBy now
    flushed dataset.fits
    let db := { db with datasets := (db.datasets.put previous.markSuperseded).put dataset }
    return (db.append "Dataset" (toString dataset.id) (.datasetRevised event)
      (some job.tenantId) now, dataset)

/-- The commit of a completed job and of its dataset. -/
def completeOver (q : Request) (job : AcquisitionJob) (acquired : Acquired)
    (metadata : DatasetMetadata) (latest : Option Dataset) (db : Db) :
    Except AcquisitionError (Db × AcquisitionJob) := do
  let (db, dataset) ← catalogOver job metadata q.datasetId latest q.finished db
  let (job, event) ← job.complete q.world dataset.id acquired q.finished
  return (← saveJob db job (.acquisitionJobCompleted event) q.finished, job)

/-- Where the pipeline takes a started job. -/
def afterFetch (q : Request) (job : AcquisitionJob) : Phase :=
  match acquire q.world job with
  | .error (.failed error) => .failing job error
  | .error (.raised error) => .ended (.error error)
  | .ok acquired =>
    match metadataForCompletedJob q.world job acquired.shapefile q.finished with
    | .error error => .ended (.error error)
    | .ok metadata => .cataloguing job acquired metadata

namespace Executions

variable {ι : Type}

/-- Every request is about to begin. -/
def start (db : Db) : Executions ι := ⟨db, fun _ => .loading, fun _ => []⟩

variable [DecidableEq ι]

def move (s : Executions ι) (i : ι) (db : Db) (phase : Phase)
    (new : List (Deed × AcquisitionJobId)) : Executions ι where
  db := db
  phases := Function.update s.phases i phase
  deeds := Function.update s.deeds i (s.deeds i ++ new)

/-- One step of one request. An exception rolls its transaction back. -/
def step (requests : ι → Request) (s : Executions ι) (i : ι) : Executions ι :=
  match s.phases i with
  | .loading =>
    match loadToStart (requests i).command (requests i).started s.db with
    | .error e => s.move i s.db (.ended (.error e)) []
    | .ok (job, event) => s.move i s.db (.starting job event) []
  | .starting job event =>
    match saveJob s.db job (.acquisitionJobStarted event) (requests i).started with
    | .error e => s.move i s.db (.ended (.error e)) []
    | .ok db => s.move i db (.fetching job) [(.start, job.id)]
  | .fetching job =>
    s.move i s.db (afterFetch (requests i) job)
      (if asksProvider (requests i).world job then [(.fetch, job.id)] else [])
  | .failing job error =>
    match failJob job error (requests i).finished s.db with
    | .error e => s.move i s.db (.ended (.error e)) []
    | .ok (db, done) => s.move i db (.ended (.ok done)) []
  | .cataloguing job acquired metadata =>
    s.move i s.db (.completing job acquired metadata
      (s.db.getLatest (requests i).tie job.tenantId job.sourceReference)) []
  | .completing job acquired metadata latest =>
    match completeOver (requests i) job acquired metadata latest s.db with
    | .error e => s.move i s.db (.ended (.error e)) []
    | .ok (db, done) => s.move i db (.ended (.ok done)) [(.catalogue, job.id)]
  | .ended _ => s

@[simp] theorem move_db (s : Executions ι) (i : ι) (db : Db) (phase : Phase)
    (new : List (Deed × AcquisitionJobId)) : (s.move i db phase new).db = db := rfl

@[simp] theorem move_phases_self (s : Executions ι) (i : ι) (db : Db) (phase : Phase)
    (new : List (Deed × AcquisitionJobId)) : (s.move i db phase new).phases i = phase :=
  Function.update_self ..

@[simp] theorem move_deeds_self (s : Executions ι) (i : ι) (db : Db) (phase : Phase)
    (new : List (Deed × AcquisitionJobId)) :
    (s.move i db phase new).deeds i = s.deeds i ++ new :=
  Function.update_self ..

theorem move_phases_of_ne (s : Executions ι) {i j : ι} (h : j ≠ i) (db : Db) (phase : Phase)
    (new : List (Deed × AcquisitionJobId)) : (s.move i db phase new).phases j = s.phases j :=
  Function.update_of_ne h ..

theorem move_deeds_of_ne (s : Executions ι) {i j : ι} (h : j ≠ i) (db : Db) (phase : Phase)
    (new : List (Deed × AcquisitionJobId)) : (s.move i db phase new).deeds j = s.deeds j :=
  Function.update_of_ne h ..

end Executions

/-! ### A request alone -/

theorem startJob_eq (c : ExecuteAcquisitionJob) (now : Timestamp) (db : Db) :
    startJob c now db = (loadToStart c now db >>= fun p =>
      saveJob db p.1 (.acquisitionJobStarted p.2) now >>= fun db => pure (db, p.1)) := by
  unfold startJob loadToStart
  cases db.acquisitionJobs.get c.acquisitionJobId with
  | none => rfl
  | some job =>
    dsimp only
    split <;> rfl

theorem catalogAcquired_eq (job : AcquisitionJob) (metadata : DatasetMetadata) (id : DatasetId)
    (tie : ℕ) (now : Timestamp) (db : Db) : catalogAcquired job metadata id tie now db =
      catalogOver job metadata id (db.getLatest tie job.tenantId job.sourceReference) now db := by
  unfold catalogAcquired catalogOver
  cases db.getLatest tie job.tenantId job.sourceReference <;> rfl

/-- The pipeline leads to an end, a failure or a dataset, and `finishJob` goes the same way. -/
theorem afterFetch_cases (q : Request) (job : AcquisitionJob) :
    (∃ e, afterFetch q job = .ended (.error e) ∧
      ∀ db, finishJob q.world job q.datasetId q.tie q.finished db = .error e) ∨
    (∃ error, afterFetch q job = .failing job error ∧
      ∀ db, finishJob q.world job q.datasetId q.tie q.finished db =
        failJob job error q.finished db) ∨
    ∃ acquired metadata, acquire q.world job = .ok acquired ∧
      afterFetch q job = .cataloguing job acquired metadata ∧
      ∀ db, finishJob q.world job q.datasetId q.tie q.finished db = completeOver q job acquired
        metadata (db.getLatest q.tie job.tenantId job.sourceReference) db := by
  unfold finishJob afterFetch completeOver
  cases acquire q.world job with
  | error stop =>
    cases stop with
    | failed error => exact Or.inr (Or.inl ⟨error, rfl, fun _ => rfl⟩)
    | raised error => exact Or.inl ⟨error, rfl, fun _ => rfl⟩
  | ok acquired =>
    dsimp only
    cases hmetadata : metadataForCompletedJob q.world job acquired.shapefile q.finished with
    | error e => exact Or.inl ⟨e, rfl, fun _ => by rfl⟩
    | ok metadata =>
      refine Or.inr (Or.inr ⟨acquired, metadata, rfl, rfl, fun db => ?_⟩)
      simp only [catalogAcquired_eq]
      rfl

/-- What a transaction leaves and returns: an exception undoes it. -/
def outcome {α : Type} (db : Db) : Except AcquisitionError (Db × α) → Db × Except AcquisitionError α
  | .error e => (db, .error e)
  | .ok (db, a) => (db, .ok a)

namespace Executions

variable {ι : Type} [DecidableEq ι] (requests : ι → Request)

/-- Taking `n` steps at once, the request comes to its end, and this is what it leaves and returns. -/
def EndsIn (n : ℕ) (s : Executions ι) (i : ι) (r : Db × Except AcquisitionError AcquisitionJob) :
    Prop :=
  ((List.replicate n i).foldl (step requests) s).db = r.1 ∧
    ((List.replicate n i).foldl (step requests) s).phases i = .ended r.2

variable {requests} {s : Executions ι} {i : ι} {n : ℕ}
  {r : Db × Except AcquisitionError AcquisitionJob}

theorem EndsIn.of_ended {result : Except AcquisitionError AcquisitionJob}
    (h : s.phases i = .ended result) : EndsIn requests n s i (s.db, result) := by
  have hstep : step requests s i = s := by simp only [step, h]
  induction n with
  | zero => exact ⟨rfl, h⟩
  | succ n ih =>
    rw [EndsIn, List.replicate_succ, List.foldl_cons, hstep]
    exact ih

theorem EndsIn.of_step (h : EndsIn requests n (step requests s i) i r) :
    EndsIn requests (n + 1) s i r := by
  rw [EndsIn, List.replicate_succ, List.foldl_cons]
  exact h

/-- A step to the end. -/
theorem EndsIn.of_move {result : Except AcquisitionError AcquisitionJob} {db : Db}
    (h : ∃ new, step requests s i = s.move i db (.ended result) new) :
    EndsIn requests (n + 1) s i (db, result) := by
  obtain ⟨new, h⟩ := h
  refine EndsIn.of_step ?_
  rw [h]
  exact EndsIn.of_ended (move_phases_self ..)

theorem endsIn_of_failing {job : AcquisitionJob} {error : String}
    (h : s.phases i = .failing job error) : EndsIn requests (n + 1) s i
      (outcome s.db (failJob job error (requests i).finished s.db)) := by
  cases hfail : failJob job error (requests i).finished s.db with
  | error e => exact EndsIn.of_move ⟨_, by simp only [step, h, hfail]; rfl⟩
  | ok r => exact EndsIn.of_move ⟨_, by simp only [step, h, hfail]; rfl⟩

theorem endsIn_of_cataloguing {job : AcquisitionJob} {acquired : Acquired}
    {metadata : DatasetMetadata} (h : s.phases i = .cataloguing job acquired metadata) :
    EndsIn requests (n + 2) s i (outcome s.db (completeOver (requests i) job acquired metadata
      (s.db.getLatest (requests i).tie job.tenantId job.sourceReference) s.db)) := by
  refine EndsIn.of_step ?_
  generalize hlatest : s.db.getLatest (requests i).tie job.tenantId job.sourceReference = latest
  have hstep : step requests s i =
      s.move i s.db (.completing job acquired metadata latest) [] := by
    simp only [step, h, hlatest]
  rw [hstep]
  have hphase := move_phases_self s i s.db (.completing job acquired metadata latest) []
  cases hcomplete : completeOver (requests i) job acquired metadata latest s.db with
  | error e => exact EndsIn.of_move ⟨_, by simp only [step, hphase, move_db, hcomplete]; rfl⟩
  | ok r => exact EndsIn.of_move ⟨_, by simp only [step, hphase, move_db, hcomplete]; rfl⟩

/-- A request that has committed its start does, alone, what `finishJob` does. -/
theorem endsIn_of_fetching {job : AcquisitionJob} (h : s.phases i = .fetching job) :
    EndsIn requests 3 s i (outcome s.db (finishJob (requests i).world job (requests i).datasetId
      (requests i).tie (requests i).finished s.db)) := by
  generalize hnew : (if asksProvider (requests i).world job then [(Deed.fetch, job.id)] else []) = new
  have hstep : step requests s i = s.move i s.db (afterFetch (requests i) job) new := by
    simp only [step, h, hnew]
  have hphase := move_phases_self s i s.db (afterFetch (requests i) job) new
  rcases afterFetch_cases (requests i) job with ⟨e, hafter, hfinish⟩ | ⟨error, hafter, hfinish⟩ |
    ⟨acquired, metadata, -, hafter, hfinish⟩
  · rw [hfinish]
    exact EndsIn.of_move ⟨_, hstep.trans (by rw [hafter])⟩
  · rw [hfinish]
    refine EndsIn.of_step ?_
    rw [hstep]
    exact endsIn_of_failing (hphase.trans hafter)
  · rw [hfinish]
    refine EndsIn.of_step ?_
    rw [hstep]
    exact endsIn_of_cataloguing (hphase.trans hafter)

/-- A request does, alone, what `executeAcquisitionJob` does. -/
theorem endsIn_of_loading (h : s.phases i = .loading) :
    EndsIn requests 5 s i (executeAcquisitionJob (requests i).world (requests i).command
      (requests i).datasetId (requests i).tie (requests i).started (requests i).finished s.db) := by
  unfold executeAcquisitionJob
  rw [startJob_eq]
  cases hload : loadToStart (requests i).command (requests i).started s.db with
  | error e => exact EndsIn.of_move ⟨_, by simp only [step, h, hload]; rfl⟩
  | ok p =>
    obtain ⟨job, event⟩ := p
    have hstep : step requests s i = s.move i s.db (.starting job event) [] := by
      simp only [step, h, hload]
    refine EndsIn.of_step ?_
    rw [hstep]
    have hphase := move_phases_self s i s.db (.starting job event) []
    cases hsave : saveJob s.db job (.acquisitionJobStarted event) (requests i).started with
    | error e =>
      have hends : EndsIn requests 4 (s.move i s.db (.starting job event) []) i
          (s.db, .error e) := EndsIn.of_move ⟨_, by simp only [step, hphase, move_db, hsave]; rfl⟩
      simpa [bind, Except.bind, hsave] using hends
    | ok db =>
      have hmove : step requests (s.move i s.db (.starting job event) []) i =
          (s.move i s.db (.starting job event) []).move i db (.fetching job) [(.start, job.id)] := by
        simp only [step, hphase, move_db, hsave]
      refine EndsIn.of_step ?_
      rw [hmove]
      have hfetching : EndsIn requests 3 _ i (outcome db (finishJob (requests i).world job
          (requests i).datasetId (requests i).tie (requests i).finished db)) :=
        endsIn_of_fetching (move_phases_self (s.move i s.db (.starting job event) []) i db
          (.fetching job) [(.start, job.id)])
      have hsaved : (saveJob s.db job (.acquisitionJobStarted event) (requests i).started >>= fun db =>
          pure (db, job)) = .ok (db, job) := by
        rw [hsave]
        rfl
      have hstarted : (Except.ok (job, event) >>= fun p =>
          saveJob s.db p.1 (.acquisitionJobStarted p.2) (requests i).started >>= fun db =>
            pure (db, p.1)) = .ok (db, job) := hsaved
      rw [hstarted]
      dsimp only
      cases hfinish : finishJob (requests i).world job (requests i).datasetId (requests i).tie
          (requests i).finished db with
      | error e =>
        rw [hfinish] at hfetching
        exact hfetching
      | ok r =>
        rw [hfinish] at hfetching
        exact hfetching

end Executions

end GeoRisk.DataAcquisition
