import Mathlib
import GeoRisk.Lib.Runs
import GeoRisk.DataAcquisition.Executions
import GeoRisk.DataAcquisition.FeatureAccounting

/-! Is a job executed at most once? `start` refuses a job that is not `SCHEDULED`, but looks at the job
    it has loaded; the row is overwritten without being asked again. Two requests that load the job
    before either commits both start it, fetch for it and catalogue a dataset of it:

        load SCHEDULED ───────────────────▶ commit RUNNING ─▶ fetch ─▶ ⋯
                    load SCHEDULED ─▶ commit RUNNING ─▶ fetch ─▶ ⋯

    Over any interleaving it is fetched for and catalogued once, and its end is final, as long as no
    request is let in on its way to the provider behind another one, and none commits over a job
    that has ended otherwise. -/

namespace GeoRisk.DataAcquisition

section Statement

variable {ι : Type} (requests : ι → Request) (id : AcquisitionJobId)

/-- The provider is asked for the job at most once, and at most one dataset is catalogued of it: by no
    two requests, and by none twice. -/
def ExecutedOnce (s : Executions ι) : Prop :=
  ∀ deed, deed ≠ .start →
    (∀ i j, (deed, id) ∈ s.deeds i → (deed, id) ∈ s.deeds j → i = j) ∧
      ∀ i, (s.deeds i).count (deed, id) ≤ 1

/-- A request has asked the provider for the job; or it has started it, its area is known and its
    upload decoded, so that it asks next. -/
def AtProvider (s : Executions ι) (i : ι) : Prop :=
  (.fetch, id) ∈ s.deeds i ∨
    ∃ job, s.phases i = .fetching job ∧ job.id = id ∧ asksProvider (requests i).world job = true

/-- What a commit finds: a start, a job that has not ended, and, if it is on its way to the provider,
    no other request there; an end, no other end. -/
structure InTurn (s : Executions ι) (i : ι) : Prop where
  start : ∀ job event db row, s.phases i = .starting job event → job.id = id →
    saveJob s.db job (.acquisitionJobStarted event) (requests i).started = .ok db →
    s.db.acquisitionJobs.get id = some row → row.status ≠ .completed ∧ row.status ≠ .failed
  alone : ∀ job event db, s.phases i = .starting job event → job.id = id →
    saveJob s.db job (.acquisitionJobStarted event) (requests i).started = .ok db →
    asksProvider (requests i).world job = true → ∀ j, ¬ AtProvider requests id s j
  fail : ∀ job error db done row, s.phases i = .failing job error → job.id = id →
    failJob job error (requests i).finished s.db = .ok (db, done) →
    s.db.acquisitionJobs.get id = some row → row.status ≠ .completed
  complete : ∀ job acquired metadata latest db done row,
    s.phases i = .completing job acquired metadata latest → job.id = id →
    completeOver (requests i) job acquired metadata latest s.db = .ok (db, done) →
    s.db.acquisitionJobs.get id = some row → row.status ≠ .failed

end Statement

/-! ### What a request has done by now -/

/-- The job that a request has started and not ended. -/
def Phase.engaged : Phase → Option AcquisitionJob
  | .fetching job | .failing job _ | .cataloguing job _ _ | .completing job _ _ _ => some job
  | .loading | .starting _ _ | .ended _ => none

/-- What a request in this phase may have done. -/
def Phase.careers : Phase → List (List Deed)
  | .loading | .starting _ _ => [[]]
  | .fetching _ => [[.start]]
  | .failing _ _ => [[.start], [.start, .fetch]]
  | .cataloguing _ _ _ | .completing _ _ _ _ => [[.start, .fetch]]
  | .ended _ => [[], [.start], [.start, .fetch], [.start, .fetch, .catalogue]]

/-- It has done so to one job, the one it is engaged with. -/
def Phase.Did (phase : Phase) (deeds : List (Deed × AcquisitionJobId)) : Prop :=
  ∃ id, ∃ career ∈ phase.careers, deeds = career.map (·, id) ∧
    ∀ job, phase.engaged = some job → job.id = id

section Did

variable {phase : Phase} {deeds : List (Deed × AcquisitionJobId)} {deed : Deed}
  {id : AcquisitionJobId}

theorem Phase.careers_nodup {career : List Deed} (h : career ∈ phase.careers) : career.Nodup := by
  cases phase <;> simp only [Phase.careers, List.mem_cons, List.not_mem_nil, or_false] at h <;>
    rcases h with rfl | rfl | rfl | rfl <;> decide

/-- Nothing is catalogued that is not fetched. -/
theorem Phase.fetch_mem_career {career : List Deed} (h : career ∈ phase.careers)
    (hdeed : deed ∈ career) (hne : deed ≠ .start) : .fetch ∈ career := by
  cases phase <;> simp only [Phase.careers, List.mem_cons, List.not_mem_nil, or_false] at h <;>
    rcases h with rfl | rfl | rfl | rfl <;> simp [hne] at hdeed ⊢

theorem Phase.Did.count_le (h : phase.Did deeds) : deeds.count (deed, id) ≤ 1 := by
  obtain ⟨id', career, hcareer, rfl, -⟩ := h
  refine List.nodup_iff_count_le_one.mp ?_ _
  exact (Phase.careers_nodup hcareer).map fun _ _ heq => congrArg Prod.fst heq

theorem Phase.Did.fetch_mem (h : phase.Did deeds) (hdeed : (deed, id) ∈ deeds)
    (hne : deed ≠ .start) : (.fetch, id) ∈ deeds := by
  obtain ⟨id', career, hcareer, rfl, -⟩ := h
  obtain ⟨deed', hmem, heq⟩ := List.mem_map.mp hdeed
  cases heq
  exact List.mem_map.mpr ⟨.fetch, Phase.fetch_mem_career hcareer hmem hne, rfl⟩

end Did

/-! ### What a step does -/

theorem loadToStart_running {c : ExecuteAcquisitionJob} {now : Timestamp} {db : Db}
    {job : AcquisitionJob} {event : AcquisitionJobStarted}
    (h : loadToStart c now db = .ok (job, event)) : job.status = .running := by
  unfold loadToStart at h
  split at h
  · cases h
  · split at h
    · cases h
    · unfold AcquisitionJob.start at h
      split at h
      · cases h
      · cases h
        rfl

theorem asksProvider_of_acquire {w : World} {job : AcquisitionJob} {acquired : Acquired}
    (h : acquire w job = .ok acquired) : asksProvider w job = true := by
  obtain ⟨area, content, harea, hcontent, -⟩ := acquire_ok.mp h
  rw [asksProvider, harea, hcontent]
  rfl

/-- The row of a saved job replaces the one under its identifier. -/
theorem saveJob_row {db db' : Db} {job : AcquisitionJob} {event : AcquisitionEvent} {now : Timestamp}
    (h : saveJob db job event now = .ok db') :
    ∃ row, db'.acquisitionJobs = db.acquisitionJobs.put row ∧ row.id = job.id ∧
      row.status = job.status := by
  obtain ⟨row, outbox, hrow, -, rfl⟩ := saveJob_writes h
  exact ⟨row, rfl, by rw [stored_ok hrow], by rw [stored_ok hrow]⟩

theorem failJob_row {db db' : Db} {job done : AcquisitionJob} {error : String} {now : Timestamp}
    (h : failJob job error now db = .ok (db', done)) :
    ∃ row, db'.acquisitionJobs = db.acquisitionJobs.put row ∧ row.id = job.id ∧
      row.status = .failed := by
  obtain ⟨-, rfl, row, outbox, hrow, -, rfl⟩ := failJob_ok h
  exact ⟨row, rfl, by rw [stored_ok hrow]; rfl, by rw [stored_ok hrow]; rfl⟩

theorem catalogOver_jobs {job : AcquisitionJob} {metadata : DatasetMetadata} {id : DatasetId}
    {latest : Option Dataset} {now : Timestamp} {db db' : Db} {dataset : Dataset}
    (h : catalogOver job metadata id latest now db = .ok (db', dataset)) :
    db'.acquisitionJobs = db.acquisitionJobs := by
  unfold catalogOver at h
  split at h
  · obtain ⟨-, -, h⟩ := Lib.bind_ok.mp h
    cases h
    rfl
  · obtain ⟨-, -, h⟩ := Lib.bind_ok.mp h
    cases h
    rfl

theorem completeOver_row {q : Request} {db db' : Db} {job done : AcquisitionJob}
    {acquired : Acquired} {metadata : DatasetMetadata} {latest : Option Dataset}
    (h : completeOver q job acquired metadata latest db = .ok (db', done)) :
    ∃ row, db'.acquisitionJobs = db.acquisitionJobs.put row ∧ row.id = job.id ∧
      row.status = .completed := by
  obtain ⟨⟨db₁, dataset⟩, hcatalog, h⟩ := Lib.bind_ok.mp h
  obtain ⟨⟨completed, event⟩, hcomplete, h⟩ := Lib.bind_ok.mp h
  obtain ⟨db₂, hsave, h⟩ := Lib.bind_ok.mp h
  cases h
  obtain ⟨row, hrow, hid, hstatus⟩ := saveJob_row hsave
  obtain ⟨-, rfl, -⟩ := complete_ok.mp hcomplete
  exact ⟨row, by rw [hrow, catalogOver_jobs hcatalog], hid, hstatus⟩

section Step

variable {ι : Type} [DecidableEq ι] {requests : ι → Request} {s : Executions ι} {i : ι}

/-- The transitions of a request: it goes on without a commit, starts its job, or ends it. -/
inductive Transition (requests : ι → Request) (s : Executions ι) (i : ι) : Executions ι → Prop
  | quiet {phase : Phase} {new : List (Deed × AcquisitionJobId)}
      (hdid : (s.phases i).Did (s.deeds i) → phase.Did (s.deeds i ++ new))
      (hasks : ∀ id, (Deed.fetch, id) ∈ new ↔ ∃ job, s.phases i = .fetching job ∧ job.id = id ∧
        asksProvider (requests i).world job = true)
      (hfetching : ∀ job, phase ≠ .fetching job)
      (hstarting : ∀ job event, phase = .starting job event → job.status = .running) :
      Transition requests s i (s.move i s.db phase new)
  | start {job : AcquisitionJob} {event : AcquisitionJobStarted} {db : Db} {row : AcquisitionJob}
      (hphase : s.phases i = .starting job event)
      (hsave : saveJob s.db job (.acquisitionJobStarted event) (requests i).started = .ok db)
      (hjobs : db.acquisitionJobs = s.db.acquisitionJobs.put row) (hid : row.id = job.id)
      (hstatus : row.status = job.status) :
      Transition requests s i (s.move i db (.fetching job) [(.start, job.id)])
  | fail {job row done : AcquisitionJob} {error : String} {db : Db}
      (hphase : s.phases i = .failing job error)
      (hfail : failJob job error (requests i).finished s.db = .ok (db, done))
      (hjobs : db.acquisitionJobs = s.db.acquisitionJobs.put row) (hid : row.id = job.id)
      (hstatus : row.status = .failed) :
      Transition requests s i (s.move i db (.ended (.ok done)) [])
  | complete {job row done : AcquisitionJob} {acquired : Acquired} {metadata : DatasetMetadata}
      {latest : Option Dataset} {db : Db}
      (hphase : s.phases i = .completing job acquired metadata latest)
      (hcomplete : completeOver (requests i) job acquired metadata latest s.db = .ok (db, done))
      (hjobs : db.acquisitionJobs = s.db.acquisitionJobs.put row) (hid : row.id = job.id)
      (hstatus : row.status = .completed) :
      Transition requests s i (s.move i db (.ended (.ok done)) [(.catalogue, job.id)])

/-- A request that raises ends where it is. -/
theorem Phase.Did.ended {phase : Phase} {deeds : List (Deed × AcquisitionJobId)}
    {result : Except AcquisitionError AcquisitionJob} (h : phase.Did deeds) :
    (Phase.ended result).Did deeds := by
  obtain ⟨id, career, hcareer, rfl, -⟩ := h
  refine ⟨id, career, ?_, rfl, fun job hjob => nomatch hjob⟩
  cases phase <;> simp only [Phase.careers, List.mem_cons, List.not_mem_nil, or_false] at hcareer ⊢ <;>
    tauto

theorem Phase.Did.starting {job : AcquisitionJob} {event : AcquisitionJobStarted}
    {deeds : List (Deed × AcquisitionJobId)} (h : (Phase.starting job event).Did deeds) :
    deeds = [] := by
  obtain ⟨id, career, hcareer, rfl, -⟩ := h
  rw [List.mem_singleton.mp hcareer]
  rfl

theorem Phase.Did.fetching {job : AcquisitionJob} {deeds : List (Deed × AcquisitionJobId)}
    (h : (Phase.fetching job).Did deeds) : deeds = [(.start, job.id)] := by
  obtain ⟨id, career, hcareer, rfl, hid⟩ := h
  rw [List.mem_singleton.mp hcareer, hid job rfl]
  rfl

theorem Phase.Did.completing {job : AcquisitionJob} {acquired : Acquired}
    {metadata : DatasetMetadata} {latest : Option Dataset}
    {deeds : List (Deed × AcquisitionJobId)}
    (h : (Phase.completing job acquired metadata latest).Did deeds) :
    deeds = [(.start, job.id), (.fetch, job.id)] := by
  obtain ⟨id, career, hcareer, rfl, hid⟩ := h
  rw [List.mem_singleton.mp hcareer, hid job rfl]
  rfl

/-- The phase to which the pipeline leads has what was started, and fetched. -/
theorem did_afterFetch (q : Request) (job : AcquisitionJob) :
    (afterFetch q job).Did ([(.start, job.id)] ++
      if asksProvider q.world job then [(.fetch, job.id)] else []) := by
  have hengaged : ∀ job', (afterFetch q job).engaged = some job' → job'.id = job.id := by
    rcases afterFetch_cases q job with ⟨e, hphase, -⟩ | ⟨error, hphase, -⟩ |
      ⟨acquired, metadata, -, hphase, -⟩ <;> rw [hphase] <;> rintro job' hjob <;> cases hjob <;> rfl
  refine ⟨job.id, if asksProvider q.world job then [.start, .fetch] else [.start], ?_, ?_, hengaged⟩
  · rcases afterFetch_cases q job with ⟨e, hphase, -⟩ | ⟨error, hphase, -⟩ |
      ⟨acquired, metadata, hacquire, hphase, -⟩
    · rw [hphase]
      split <;> simp [Phase.careers]
    · rw [hphase]
      split <;> simp [Phase.careers]
    · rw [hphase, asksProvider_of_acquire hacquire]
      exact List.mem_singleton_self _
  · split <;> rfl

/-- What is no fetch adds no deed and leads to no fetch. -/
theorem transition_of_loading {phase : Phase} (h : ∀ job, s.phases i ≠ .fetching job)
    (hdid : (s.phases i).Did (s.deeds i) → phase.Did (s.deeds i))
    (hfetching : ∀ job, phase ≠ .fetching job)
    (hstarting : ∀ job event, phase = .starting job event → job.status = .running) :
    Transition requests s i (s.move i s.db phase []) := by
  refine .quiet (by rwa [List.append_nil]) (fun id => ?_) hfetching hstarting
  refine iff_of_false List.not_mem_nil ?_
  rintro ⟨job, hphase, -⟩
  exact h job hphase

theorem transition_ended {result : Except AcquisitionError AcquisitionJob}
    (h : ∀ job, s.phases i ≠ .fetching job) :
    Transition requests s i (s.move i s.db (.ended result) []) :=
  transition_of_loading h Phase.Did.ended (by simp) (by simp)

theorem step_transition (requests : ι → Request) (s : Executions ι) (i : ι) :
    Transition requests s i (s.step requests i) := by
  cases hphase : s.phases i with
  | loading =>
    have hno : ∀ job, s.phases i ≠ .fetching job := by simp [hphase]
    cases hload : loadToStart (requests i).command (requests i).started s.db with
    | error e =>
      simp only [Executions.step, hphase, hload]
      exact transition_ended hno
    | ok p =>
      obtain ⟨job, event⟩ := p
      simp only [Executions.step, hphase, hload]
      refine transition_of_loading hno (fun h => ?_) (by simp) ?_
      · rw [hphase] at h
        obtain ⟨id, career, hcareer, hdeeds, -⟩ := h
        exact ⟨id, career, hcareer, hdeeds, fun job hjob => by cases hjob⟩
      · rintro job' event' h
        cases h
        exact loadToStart_running hload
  | starting job event =>
    cases hsave : saveJob s.db job (.acquisitionJobStarted event) (requests i).started with
    | error e =>
      simp only [Executions.step, hphase, hsave]
      exact transition_ended (by simp [hphase])
    | ok db =>
      simp only [Executions.step, hphase, hsave]
      obtain ⟨row, hjobs, hid, hstatus⟩ := saveJob_row hsave
      exact .start hphase hsave hjobs hid hstatus
  | fetching job =>
    simp only [Executions.step, hphase]
    refine .quiet (fun h => ?_) (fun id => ?_) (fun job' h => ?_) (fun job' event h => ?_)
    · rw [hphase] at h
      rw [h.fetching]
      exact did_afterFetch (requests i) job
    · rw [hphase]
      split
      · next hasks =>
        rw [List.mem_singleton, Prod.mk.injEq]
        exact ⟨fun h => ⟨job, rfl, h.2.symm, hasks⟩, by rintro ⟨_, h, rfl, -⟩; cases h; exact ⟨rfl, rfl⟩⟩
      · next hasks =>
        refine iff_of_false List.not_mem_nil ?_
        rintro ⟨_, h, -, hasks'⟩
        cases h
        exact hasks hasks'
    · rcases afterFetch_cases (requests i) job with ⟨e, hafter, -⟩ | ⟨error, hafter, -⟩ |
        ⟨acquired, metadata, -, hafter, -⟩ <;> rw [hafter] at h <;> cases h
    · rcases afterFetch_cases (requests i) job with ⟨e, hafter, -⟩ | ⟨error, hafter, -⟩ |
        ⟨acquired, metadata, -, hafter, -⟩ <;> rw [hafter] at h <;> cases h
  | failing job error =>
    cases hfail : failJob job error (requests i).finished s.db with
    | error e =>
      simp only [Executions.step, hphase, hfail]
      exact transition_ended (by simp [hphase])
    | ok r =>
      obtain ⟨db, done⟩ := r
      simp only [Executions.step, hphase, hfail]
      obtain ⟨row, hjobs, hid, hstatus⟩ := failJob_row hfail
      exact .fail hphase hfail hjobs hid hstatus
  | cataloguing job acquired metadata =>
    simp only [Executions.step, hphase]
    refine transition_of_loading (by simp [hphase]) (fun h => ?_) (by simp) (by simp)
    rw [hphase] at h
    exact h
  | completing job acquired metadata latest =>
    cases hcomplete : completeOver (requests i) job acquired metadata latest s.db with
    | error e =>
      simp only [Executions.step, hphase, hcomplete]
      exact transition_ended (by simp [hphase])
    | ok r =>
      obtain ⟨db, done⟩ := r
      simp only [Executions.step, hphase, hcomplete]
      obtain ⟨row, hjobs, hid, hstatus⟩ := completeOver_row hcomplete
      exact .complete hphase hcomplete hjobs hid hstatus
  | ended result =>
    have hidle : s.step requests i = s.move i s.db (s.phases i) [] := by
      simp only [Executions.step, hphase, Executions.move, List.append_nil]
      rw [← hphase, Function.update_eq_self, Function.update_eq_self]
    rw [hidle]
    exact transition_of_loading (by simp [hphase]) id (by simp [hphase]) (by simp [hphase])

/-! ### What holds in every interleaving -/

variable {id : AcquisitionJobId}

/-- Every request has done what its phase says, and one that is about to start has a running job. -/
structure Executing (s : Executions ι) : Prop where
  did : ∀ i, (s.phases i).Did (s.deeds i)
  starting : ∀ i job event, s.phases i = .starting job event → job.status = .running

theorem Executing.move {db : Db} {phase : Phase} {new : List (Deed × AcquisitionJobId)}
    (h : Executing s) (hdid : phase.Did (s.deeds i ++ new))
    (hstarting : ∀ job event, phase = .starting job event → job.status = .running) :
    Executing (s.move i db phase new) := by
  constructor
  · intro j
    rcases eq_or_ne j i with rfl | hne
    · rw [Executions.move_phases_self, Executions.move_deeds_self]
      exact hdid
    · rw [s.move_phases_of_ne hne, s.move_deeds_of_ne hne]
      exact h.did j
  · intro j job event hj
    rcases eq_or_ne j i with rfl | hne
    · rw [Executions.move_phases_self] at hj
      exact hstarting job event hj
    · rw [s.move_phases_of_ne hne] at hj
      exact h.starting j job event hj

theorem Executing.step (h : Executing s) : Executing (s.step requests i) := by
  have hdid := h.did i
  have htransition := step_transition requests s i
  generalize s.step requests i = s' at htransition ⊢
  cases htransition with
  | quiet hnext _ _ hstarting => exact h.move (hnext hdid) hstarting
  | @start job event _ _ hphase =>
    rw [hphase] at hdid
    refine h.move ?_ (by simp)
    rw [hdid.starting]
    exact ⟨job.id, [.start], List.mem_singleton_self _, rfl, fun job' hjob => by cases hjob; rfl⟩
  | fail hphase =>
    refine h.move ?_ (by simp)
    rw [List.append_nil]
    exact hdid.ended
  | @complete job _ _ _ _ _ _ hphase =>
    rw [hphase] at hdid
    refine h.move ?_ (by simp)
    rw [hdid.completing]
    exact ⟨job.id, [.start, .fetch, .catalogue], by simp [Phase.careers], rfl,
      fun job' hjob => by cases hjob⟩

/-! ### Who gets to the provider -/

section Provider

variable {j : ι}

/-- A step of another request changes nothing about it. -/
theorem atProvider_step_of_ne (hne : j ≠ i) :
    AtProvider requests id (s.step requests i) j ↔ AtProvider requests id s j := by
  have hsame : (s.step requests i).phases j = s.phases j ∧
      (s.step requests i).deeds j = s.deeds j := by
    have htransition := step_transition requests s i
    generalize s.step requests i = s' at htransition ⊢
    cases htransition <;> exact ⟨s.move_phases_of_ne hne _ _ _, s.move_deeds_of_ne hne _ _ _⟩
  rw [AtProvider, AtProvider, hsame.1, hsame.2]

/-- Who was at the provider still is. -/
theorem AtProvider.step (h : AtProvider requests id s j) :
    AtProvider requests id (s.step requests i) j := by
  rcases eq_or_ne j i with rfl | hne
  · have htransition := step_transition requests s j
    generalize s.step requests j = s' at htransition ⊢
    refine .inl ?_
    cases htransition with
    | quiet _ hasks =>
      rw [Executions.move_deeds_self, List.mem_append, hasks]
      exact h
    | start hphase | fail hphase | complete hphase =>
      rcases h with h | ⟨job, hjob, -⟩
      · rw [Executions.move_deeds_self]
        exact List.mem_append_left _ h
      · rw [hphase] at hjob
        cases hjob
  · exact (atProvider_step_of_ne hne).mpr h

/-- Only a start that is on the way there comes to it. -/
theorem atProvider_of_step (h : AtProvider requests id (s.step requests i) j) :
    AtProvider requests id s j ∨ j = i ∧ ∃ job event db, s.phases i = .starting job event ∧
      job.id = id ∧ saveJob s.db job (.acquisitionJobStarted event) (requests i).started = .ok db ∧
      asksProvider (requests i).world job = true := by
  rcases eq_or_ne j i with rfl | hne
  · have htransition := step_transition requests s j
    generalize s.step requests j = s' at htransition h
    unfold AtProvider at h
    cases htransition with
    | quiet _ hasks hfetching =>
      rw [Executions.move_deeds_self, Executions.move_phases_self, List.mem_append, hasks] at h
      rcases h with h | ⟨job, hjob, -⟩
      · exact .inl h
      · exact absurd hjob (hfetching job)
    | @start job event db row hphase hsave =>
      rw [Executions.move_deeds_self, Executions.move_phases_self, List.mem_append] at h
      rcases h with (h | h) | ⟨job', hjob, hid, hasks⟩
      · exact .inl (.inl h)
      · simp at h
      · cases hjob
        exact .inr ⟨rfl, job, event, db, hphase, hid, hsave, hasks⟩
    | fail | complete =>
      rw [Executions.move_deeds_self, Executions.move_phases_self, List.mem_append] at h
      rcases h with (h | h) | ⟨job', hjob, -⟩
      · exact .inl (.inl h)
      · simp at h
      · cases hjob
  · exact .inl ((atProvider_step_of_ne hne).mp h)

end Provider

/-- At most one request is at the provider, or on the way there. -/
def OneAtProvider (requests : ι → Request) (id : AcquisitionJobId) (s : Executions ι) : Prop :=
  ∀ i j, AtProvider requests id s i → AtProvider requests id s j → i = j

/-- Step lemma: a step in turn lets nobody in behind another. -/
theorem OneAtProvider.step (h : OneAtProvider requests id s) (hok : InTurn requests id s i) :
    OneAtProvider requests id (s.step requests i) := by
  intro j k hj hk
  rcases atProvider_of_step hj with hj' | ⟨rfl, job, event, db, hphase, hid, hsave, hasks⟩
  · rcases atProvider_of_step hk with hk' | ⟨rfl, job, event, db, hphase, hid, hsave, hasks⟩
    · exact h j k hj' hk'
    · exact absurd hj' (hok.alone job event db hphase hid hsave hasks j)
  · rcases atProvider_of_step hk with hk' | ⟨rfl, -⟩
    · exact absurd hk' (hok.alone job event db hphase hid hsave hasks k)
    · rfl

omit [DecidableEq ι] in
theorem Executing.once (h : Executing s) (hone : OneAtProvider requests id s) : ExecutedOnce id s := by
  intro deed hne
  refine ⟨fun i j hi hj => ?_, fun i => (h.did i).count_le⟩
  exact hone i j (.inl ((h.did i).fetch_mem hi hne)) (.inl ((h.did j).fetch_mem hj hne))

/-! ### The job that has ended -/

end Step

/-! ### Runs -/

section Run

variable {ι : Type} [DecidableEq ι] {requests : ι → Request} {id : AcquisitionJobId}
  {s : Executions ι} {schedule : List ι}

theorem AtProvider.run {j : ι} (h : AtProvider requests id s j) (schedule : List ι) :
    AtProvider requests id (schedule.foldl (Executions.step requests) s) j :=
  Lib.inv_foldl (P := fun s => AtProvider requests id s j) (fun _ _ hj => hj.step) schedule h

end Run

end GeoRisk.DataAcquisition
