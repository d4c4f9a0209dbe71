import Mathlib
import GeoRisk.Lib.Results
import GeoRisk.Lib.Runs
import GeoRisk.Lib.Versions
import GeoRisk.DataAcquisition.Writes

/-! The versions of a dataset. Three handlers write them: `ReviseDatasetHandler` and, for a name that is
    taken, `ExecuteAcquisitionJobHandler` add the next version to the latest one;
    `CatalogDatasetHandler` writes a first version without looking whether the name is taken:

                         name free            name taken
        catalog          1                    1 again
        execute          1                    n ─▶ n+1
        revise           not found            n ─▶ n+1

    So the rows under a name are a version chain for as long as no accepted `CatalogDataset` command
    names a dataset that is there. -/

namespace GeoRisk.DataAcquisition

/-- How datasets say that they are versions of one another. -/
def datasetVersioned : Lib.Versioned Dataset where
  version d := d.version
  live d := d.status = .catalogued
  retired d := d.status = .superseded
  follows d d' := ∃ entry, d'.provenance = d.provenance ++ [entry] ∧
    entry.sourceReference = some (toString d.id)

/-- The datasets are the versions `1..n` under one name. -/
structure VersionChain (datasets : List Dataset) : Prop where
  current : ∃ d ∈ datasets, d.status = .catalogued ∧ d.version = datasets.length ∧
    ∀ d' ∈ datasets, d' ≠ d → d'.status = .superseded
  versions : (datasets.map fun d => d.version).Perm (List.range' 1 datasets.length)
  provenance : ∀ d ∈ datasets, ∀ d' ∈ datasets, d'.version = d.version + 1 →
    ∃ entry, d'.provenance = d.provenance ++ [entry] ∧
      entry.sourceReference = some (toString d.id)

theorem versionChain_iff {datasets : List Dataset} (hne : datasets ≠ []) :
    VersionChain datasets ↔ Lib.VersionChain datasetVersioned datasets := by
  constructor
  · rintro ⟨⟨d, hd, hlive, hversion, hrest⟩, hversions, hprovenance⟩
    refine ⟨hversions, ?_, ?_, hprovenance⟩
    · intro r hr hv
      rw [Lib.eq_of_version (V := datasetVersioned) hversions hr hd (hv.trans hversion.symm)]
      exact hlive
    · intro r hr hv
      exact hrest r hr fun heq => hv (heq ▸ hversion)
  · intro h
    obtain ⟨d, hd, hversion, hlive⟩ := h.exists_newest hne
    refine ⟨⟨d, hd, hlive, hversion, fun d' hd' hne' => h.retired d' hd' fun hv => hne' ?_⟩,
      h.versions, h.linked⟩
    exact Lib.eq_of_version h.versions hd' hd (hv.trans hversion.symm)

namespace Db

/-- Under each name a tenant has given to a dataset there is a version chain. -/
def Chained (db : Db) : Prop :=
  ∀ tenantId name, db.versions tenantId name ≠ [] → VersionChain (db.versions tenantId name)

theorem chained_iff {db : Db} : db.Chained ↔
    ∀ tenantId name, Lib.VersionChain datasetVersioned (db.versions tenantId name) := by
  refine forall₂_congr fun tenantId name => ?_
  by_cases hne : db.versions tenantId name = []
  · simp only [hne, ne_eq, not_true_eq_false, false_imp_iff, true_iff]
    exact Lib.VersionChain.nil
  · exact (imp_iff_right hne).trans (versionChain_iff hne)

variable {db db' : Db} {tenantId : TenantId} {name : String} {d previous : Dataset}

/-! ### The latest version -/

theorem mem_versions : d ∈ db.versions tenantId name ↔
    d ∈ db.datasets.rows ∧ d.tenantId = tenantId ∧ d.metadata.name = name := by
  simp only [versions, List.mem_filter, decide_eq_true_eq]

/-- In a chain `get_latest` finds the newest version, whichever row the database prefers. -/
theorem getLatest_spec (h : Lib.VersionChain datasetVersioned (db.versions tenantId name))
    (tie : ℕ) :
    (db.versions tenantId name = [] ∧ db.getLatest tie tenantId name = none) ∨
    ∃ d ∈ db.versions tenantId name, d.version = (db.versions tenantId name).length ∧
      db.getLatest tie tenantId name = some d := by
  by_cases hne : db.versions tenantId name = []
  · exact Or.inl ⟨hne, by simp [getLatest, hne]⟩
  right
  have hexcl : ∀ r, datasetVersioned.live r → ¬ datasetVersioned.retired r := by
    intro r hlive hretired
    exact nomatch hlive.symm.trans hretired
  obtain ⟨d, hd, hversion, hlive⟩ := h.exists_newest hne
  -- all rows with the highest version are newest
  unfold getLatest
  set catalogued := (db.versions tenantId name).filter fun d => d.status = .catalogued
    with hcatalogued
  have hnewest : ∀ r ∈ catalogued, r.version = (db.versions tenantId name).length := by
    intro r hr
    obtain ⟨hr, hstatus⟩ := List.mem_filter.mp hr
    exact h.version_of_live hexcl hr (show r.status = .catalogued by simpa using hstatus)
  have hmem : d ∈ catalogued :=
    List.mem_filter.mpr ⟨hd, by simpa using (show d.status = .catalogued from hlive)⟩
  set highest := catalogued.filter fun d => ∀ d' ∈ catalogued, d'.version ≤ d.version with hhighest
  have hpos : 0 < highest.length := by
    refine List.length_pos_of_mem (a := d) (List.mem_filter.mpr ⟨hmem, decide_eq_true ?_⟩)
    intro d' hd'
    rw [hnewest d' hd', hnewest d hmem]
  have hlt : tie % highest.length < highest.length := Nat.mod_lt _ hpos
  have hget : highest[tie % highest.length] ∈ catalogued :=
    List.mem_of_mem_filter (List.getElem_mem hlt)
  exact ⟨_, List.mem_of_mem_filter hget, hnewest _ hget, List.getElem?_eq_getElem hlt⟩

/-! ### What the commands write -/

/-- What a command does to the datasets: nothing, or it adds a first version under a free name or
    the next one after the latest. -/
inductive DatasetEffect (db db' : Db) : Prop where
  | kept (h : db'.datasets = db.datasets)
  | first (d : Dataset) (tie : ℕ) (h : db'.datasets = db.datasets.put d)
      (hfresh : db.datasets.get d.id = none) (hversion : d.version = 1)
      (hstatus : d.status = .catalogued)
      (hlatest : db.getLatest tie d.tenantId d.metadata.name = none)
  | next (previous d : Dataset) (tie : ℕ)
      (h : db'.datasets = (db.datasets.put previous.markSuperseded).put d)
      (hfresh : db.datasets.get d.id = none) (hversion : d.version = previous.version + 1)
      (hstatus : d.status = .catalogued)
      (hfollows : datasetVersioned.follows previous d)
      (hlatest : db.getLatest tie d.tenantId d.metadata.name = some previous)

theorem versions_congr (h : db'.datasets = db.datasets) (tenantId : TenantId) (name : String) :
    db'.versions tenantId name = db.versions tenantId name := by
  rw [versions, versions, h]

theorem versions_put (h : db'.datasets = db.datasets.put d) (hfresh : db.datasets.get d.id = none)
    (tenantId : TenantId) (name : String) :
    db'.versions tenantId name =
      if d.tenantId = tenantId ∧ d.metadata.name = name then db.versions tenantId name ++ [d]
      else db.versions tenantId name := by
  rw [versions, versions, h, Lib.Table.put_rows_of_fresh hfresh, List.filter_append]
  split <;> rename_i hd <;> simp [hd]

/-- A first version under a free name starts a chain. -/
theorem Chained.first (hdb : db.Chained) (h : db'.datasets = db.datasets.put d)
    (hfresh : db.datasets.get d.id = none) (hversion : d.version = 1)
    (hstatus : d.status = .catalogued) (hfree : db.versions d.tenantId d.metadata.name = []) :
    db'.Chained := by
  rw [chained_iff] at hdb ⊢
  intro tenantId name
  rw [versions_put h hfresh]
  split
  · next hd =>
    obtain ⟨rfl, rfl⟩ := hd
    rw [hfree]
    exact Lib.VersionChain.singleton hversion hstatus
  · exact hdb tenantId name

/-- A first version under a name that is taken breaks the chain. -/
theorem not_chained_first (hdb : db.Chained) (h : db'.datasets = db.datasets.put d)
    (hfresh : db.datasets.get d.id = none) (hversion : d.version = 1)
    (htaken : db.versions d.tenantId d.metadata.name ≠ []) : ¬ db'.Chained := by
  intro hdb'
  have hrows := versions_put h hfresh d.tenantId d.metadata.name
  rw [if_pos ⟨rfl, rfl⟩] at hrows
  have hchain := (chained_iff.mp hdb') d.tenantId d.metadata.name
  rw [hrows] at hchain
  -- version 1 is there twice
  have hold := (chained_iff.mp hdb) d.tenantId d.metadata.name
  have hpos : 0 < (db.versions d.tenantId d.metadata.name).length := List.length_pos_of_ne_nil htaken
  have hone : 1 ∈ (db.versions d.tenantId d.metadata.name).map datasetVersioned.version :=
    hold.versions.symm.subset (List.mem_range'_1.mpr (by omega))
  have hnodup := hchain.versions.symm.nodup List.nodup_range'
  rw [List.map_append, List.nodup_append] at hnodup
  exact hnodup.2.2 1 hone 1 (by simp [datasetVersioned, hversion]) rfl

/-- What `mark_superseded` and `save` do to the rows. -/
def supersede (previous d : Dataset) : Dataset := if d = previous then d.markSuperseded else d

@[simp] theorem supersede_version : (supersede previous d).version = d.version := by
  unfold supersede
  split <;> rfl

@[simp] theorem supersede_provenance : (supersede previous d).provenance = d.provenance := by
  unfold supersede
  split <;> rfl

@[simp] theorem supersede_id : (supersede previous d).id = d.id := by
  unfold supersede
  split <;> rfl

theorem versions_supersede (h : db'.datasets = db.datasets.put previous.markSuperseded)
    (hprevious : previous ∈ db.datasets.rows) (tenantId : TenantId) (name : String) :
    db'.versions tenantId name = (db.versions tenantId name).map (supersede previous) := by
  have hget : db.datasets.get previous.markSuperseded.id = some previous :=
    Lib.Table.get_of_mem hprevious
  have hrows : db'.datasets.rows = db.datasets.rows.map (supersede previous) := by
    rw [h, Lib.Table.put_rows_of_get hget]
    refine List.map_congr_left fun r hr => ?_
    by_cases hid : r.id = previous.id
    · have hr' := Lib.Table.get_of_mem hr
      rw [hid] at hr'
      obtain rfl : previous = r := Option.some.inj (hget.symm.trans hr')
      simp [supersede]
    · have hne : r ≠ previous := fun heq => hid (heq ▸ rfl)
      simp [supersede, hid, hne]
  have hsame : ∀ r, (supersede previous r).tenantId = r.tenantId ∧
      (supersede previous r).metadata = r.metadata := by
    intro r
    unfold supersede
    split <;> exact ⟨rfl, rfl⟩
  rw [versions, hrows, List.filter_map, versions]
  congr 1
  refine List.filter_congr fun r _ => ?_
  simp only [Function.comp, (hsame r).1, (hsame r).2]

/-- The next version after the latest extends the chain. -/
theorem Chained.next (hdb : db.Chained) {tie : ℕ}
    (h : db'.datasets = (db.datasets.put previous.markSuperseded).put d)
    (hfresh : db.datasets.get d.id = none) (hversion : d.version = previous.version + 1)
    (hstatus : d.status = .catalogued) (hfollows : datasetVersioned.follows previous d)
    (hlatest : db.getLatest tie d.tenantId d.metadata.name = some previous) : db'.Chained := by
  rw [chained_iff] at hdb ⊢
  -- the latest version is the newest of the rows
  have hchain := hdb d.tenantId d.metadata.name
  obtain ⟨hprevious, hnewest⟩ : previous ∈ db.versions d.tenantId d.metadata.name ∧
      previous.version = (db.versions d.tenantId d.metadata.name).length := by
    rcases getLatest_spec hchain tie with ⟨-, hnone⟩ | ⟨newest, hmem, hv, hsome⟩
    · exact nomatch hlatest.symm.trans hnone
    · obtain rfl : previous = newest := Option.some.inj (hlatest.symm.trans hsome)
      exact ⟨hmem, hv⟩
  obtain ⟨hrow, htenant, hname⟩ := mem_versions.mp hprevious
  set mid : Db := { db with datasets := db.datasets.put previous.markSuperseded } with hmid
  have hmidfresh : mid.datasets.get d.id = none := by
    have hne : d.id ≠ previous.markSuperseded.id := by
      intro heq
      rw [heq, Dataset.markSuperseded_id] at hfresh
      exact nomatch hfresh.symm.trans (Lib.Table.get_of_mem hrow)
    rw [hmid, Lib.Table.get_put_of_ne _ hne, hfresh]
  intro tenantId name
  have hmiddle : mid.versions tenantId name = (db.versions tenantId name).map (supersede previous) :=
    versions_supersede rfl hrow tenantId name
  have hversions : db'.versions tenantId name =
      if d.tenantId = tenantId ∧ d.metadata.name = name then mid.versions tenantId name ++ [d]
      else mid.versions tenantId name := versions_put h hmidfresh tenantId name
  rw [hversions, hmiddle]
  split
  · next hd =>
    obtain ⟨rfl, rfl⟩ := hd
    refine hchain.extend _ (fun r _ => supersede_version) ?_ ?_ (by rw [← hnewest]; exact hversion)
      hstatus ?_
    · intro r hr
      by_cases hrp : r = previous
      · simp [datasetVersioned, supersede, hrp, Dataset.markSuperseded]
      · have hv : r.version ≠ (db.versions d.tenantId d.metadata.name).length := fun hv =>
          hrp (Lib.eq_of_version hchain.versions hr hprevious (hv.trans hnewest.symm))
        simpa [supersede, hrp] using hchain.retired r hr hv
    · intro r _ r' _ hrr'
      simpa [datasetVersioned] using hrr'
    · intro r hr hv
      obtain rfl := Lib.eq_of_version hchain.versions hr hprevious (hv.trans hnewest.symm)
      simpa [datasetVersioned] using hfollows
  · next hd =>
    have hid : ∀ r ∈ db.versions tenantId name, supersede previous r = r := by
      intro r hr
      refine if_neg fun hrp => hd ?_
      obtain ⟨-, rfl, rfl⟩ := mem_versions.mp hr
      rw [hrp]
      exact ⟨htenant.symm, hname.symm⟩
    rw [List.map_congr_left hid, List.map_id']
    exact hdb tenantId name

theorem Chained.of_effect (hdb : db.Chained) (h : DatasetEffect db db') : db'.Chained := by
  cases h with
  | kept h =>
    intro tenantId name
    rw [versions_congr h]
    exact hdb tenantId name
  | first d tie h hfresh hversion hstatus hlatest =>
    refine hdb.first h hfresh hversion hstatus ?_
    rcases getLatest_spec ((chained_iff.mp hdb) _ _) tie with ⟨hfree, -⟩ | ⟨d', -, -, hsome⟩
    · exact hfree
    · exact nomatch hlatest.symm.trans hsome
  | next previous d tie h hfresh hversion hstatus hfollows hlatest =>
    exact hdb.next h hfresh hversion hstatus hfollows hlatest

/-! ### What the handlers do -/

theorem getLatest_congr (h : db'.datasets = db.datasets) (tie : ℕ) (tenantId : TenantId)
    (name : String) : db'.getLatest tie tenantId name = db.getLatest tie tenantId name := by
  rw [getLatest, getLatest, versions_congr h]

/-- Between two changes of other tables. -/
theorem DatasetEffect.congr {db₁ db₂ : Db} (h : DatasetEffect db₁ db₂)
    (h₁ : db₁.datasets = db.datasets) (h₂ : db'.datasets = db₂.datasets) : DatasetEffect db db' := by
  cases h with
  | kept h => exact .kept (h₂.trans (h.trans h₁))
  | first d tie h hfresh hversion hstatus hlatest =>
    rw [h₁] at h hfresh
    rw [getLatest_congr h₁] at hlatest
    exact .first d tie (h₂.trans h) hfresh hversion hstatus hlatest
  | next previous d tie h hfresh hversion hstatus hfollows hlatest =>
    rw [h₁] at h hfresh
    rw [getLatest_congr h₁] at hlatest
    exact .next previous d tie (h₂.trans h) hfresh hversion hstatus hfollows hlatest

end Db

variable {db db' : Db} {now : Timestamp}

theorem metadata_name {c : DescribedDataset} {name : String} {metadata : DatasetMetadata}
    (h : metadataFromCommand c name = .ok metadata) : metadata.name = name := by
  obtain ⟨temporalCoverage, -, h⟩ := Lib.bind_ok.mp h
  exact DatasetMetadata.name_of_make h

/-- The latest version of a name is a row under it. -/
theorem Db.mem_of_getLatest {tie : ℕ} {tenantId : TenantId} {name : String} {previous : Dataset}
    (h : db.getLatest tie tenantId name = some previous) :
    previous ∈ db.versions tenantId name := by
  have hmem := List.mem_of_getElem? h
  exact List.mem_of_mem_filter (List.mem_of_mem_filter hmem)

theorem reviseDataset_effect {c : ReviseDataset} {id : DatasetId} {tie : ℕ} {d : Dataset}
    (hfresh : db.datasets.get id = none) (h : reviseDataset c id tie now db = .ok (db', d)) :
    db.DatasetEffect db' := by
  unfold reviseDataset at h
  split at h
  · cases h
  · next previous hlatest =>
    obtain ⟨metadata, hmetadata, h⟩ := Lib.bind_ok.mp h
    obtain ⟨-, -, h⟩ := Lib.bind_ok.mp h
    cases h
    obtain ⟨-, htenant, -⟩ := Db.mem_versions.mp (Db.mem_of_getLatest hlatest)
    refine .next previous _ tie rfl hfresh rfl rfl ⟨_, rfl, rfl⟩ ?_
    rw [← htenant, ← metadata_name hmetadata] at hlatest
    exact hlatest

theorem catalogAcquired_effect {job : AcquisitionJob} {metadata : DatasetMetadata} {id : DatasetId}
    {tie : ℕ} {d : Dataset} (hname : metadata.name = job.sourceReference)
    (hfresh : db.datasets.get id = none)
    (h : catalogAcquired job metadata id tie now db = .ok (db', d)) : db.DatasetEffect db' := by
  unfold catalogAcquired at h
  rw [← hname] at h
  split at h
  · next hlatest =>
    obtain ⟨-, -, h⟩ := Lib.bind_ok.mp h
    cases h
    exact .first _ tie rfl hfresh rfl rfl hlatest
  · next previous hlatest =>
    obtain ⟨-, -, h⟩ := Lib.bind_ok.mp h
    cases h
    obtain ⟨-, htenant, -⟩ := Db.mem_versions.mp (Db.mem_of_getLatest hlatest)
    refine .next previous _ tie rfl hfresh rfl rfl ⟨_, rfl, rfl⟩ ?_
    rw [← htenant] at hlatest
    exact hlatest

theorem finishJob_effect {w : World} {job job' : AcquisitionJob} {id : DatasetId} {tie : ℕ}
    (hfresh : db.datasets.get id = none)
    (h : finishJob w job id tie now db = .ok (db', job')) : db.DatasetEffect db' := by
  rcases finishJob_ok.mp h with
    ⟨error, -, hfail⟩ | ⟨acquired, -, metadata, db₁, dataset, event, hmetadata, hcatalog, -, hsave⟩
  · obtain ⟨-, -, -, outbox, -, -, rfl⟩ := failJob_ok hfail
    exact .kept rfl
  · have hname := DatasetMetadata.name_of_make hmetadata
    obtain ⟨-, outbox, -, -, rfl⟩ := saveJob_writes hsave
    exact (catalogAcquired_effect hname hfresh hcatalog).congr rfl rfl

theorem executeAcquisitionJob_effect {w : World} {c : ExecuteAcquisitionJob} {id : DatasetId}
    {tie : ℕ} {finished : Timestamp} (hfresh : db.datasets.get id = none) :
    db.DatasetEffect (executeAcquisitionJob w c id tie now finished db).1 := by
  unfold executeAcquisitionJob
  split
  · exact .kept rfl
  · next db₁ job hstart =>
    have hkept : db₁.datasets = db.datasets := by
      obtain ⟨-, -, -, -, -, -, outbox, -, -, rfl⟩ := startJob_ok hstart
      rfl
    split
    · exact .kept hkept
    · next db₂ job' hfinish =>
      rw [← hkept] at hfresh
      exact (finishJob_effect hfresh hfinish).congr hkept rfl

/-- Every command but `CatalogDataset`. -/
theorem step_effect {command : Command} (hcommand : ∀ c id, command ≠ .catalogDataset c id) :
    db.DatasetEffect (db.step (now, command)) := by
  have hkept : db.DatasetEffect db := .kept rfl
  cases command with
  | registerDatasetSource c id =>
    refine Db.of_drawn hkept fun _ db' _ h => .kept ?_
    obtain ⟨outbox, rfl⟩ := registerDatasetSource_ok h
    rfl
  | catalogDataset c id => exact absurd rfl (hcommand c id)
  | reviseDataset c id tie =>
    exact Db.of_drawn hkept fun hfresh db' _ h => reviseDataset_effect hfresh h
  | registerPredictorVariable c id =>
    refine Db.of_drawn hkept fun _ db' _ h => .kept ?_
    obtain ⟨-, -, outbox, rfl⟩ := registerPredictorVariable_ok h
    rfl
  | createVariableSelection c id =>
    refine Db.of_drawn hkept fun _ db' _ h => .kept ?_
    obtain ⟨-, -, -, outbox, rfl⟩ := createVariableSelection_ok h
    rfl
  | confirmVariableSelection c =>
    refine Db.of_commit hkept fun db' _ h => .kept ?_
    obtain ⟨-, -, -, -, outbox, rfl⟩ := confirmVariableSelection_ok h
    rfl
  | scheduleAcquisitionJob c id =>
    refine Db.of_drawn hkept fun _ db' _ h => .kept ?_
    obtain ⟨-, -, outbox, -, -, rfl⟩ := scheduleAcquisitionJob_ok h
    rfl
  | executeAcquisitionJob w c id tie finished =>
    simp only [Db.step]
    split
    · exact hkept
    · next hfresh =>
      exact executeAcquisitionJob_effect (Option.not_isSome_iff_eq_none.mp hfresh)

/-! ### Cataloguing -/

/-- The texts of the row it catalogs fit their columns. -/
def CatalogDataset.fits (c : CatalogDataset) : Bool :=
  DataAcquisition.fits 200 c.name && DataAcquisition.fits 200 c.source &&
    DataAcquisition.fits 30 c.crs && DataAcquisition.fits 500 c.spatialCoverage &&
    DataAcquisition.fits 200 (c.modelUsed.getD "") && DataAcquisition.fits 200 c.issuedBy

/-- The command passes every check: the tenant sees the source, and the metadata are valid. -/
structure CatalogDataset.Accepted (c : CatalogDataset) (id : DatasetId) (db : Db) : Prop where
  fresh : db.datasets.get id = none
  source : ∃ source, db.datasetSources.get c.datasetSourceId = some source ∧
    (source.tenantId = none ∨ source.tenantId = some c.tenantId)
  ordered : c.temporalCoverageStart ≤ c.temporalCoverageEnd
  named : isBlank c.name = false
  referenced : isBlank c.crs = false
  fits : c.fits = true

theorem assertDatasetSourceVisibleToTenant_ok {source : DatasetSource} {tenantId : TenantId}
    {u : Unit} : assertDatasetSourceVisibleToTenant source tenantId = .ok u ↔
      source.tenantId = none ∨ source.tenantId = some tenantId := by
  unfold assertDatasetSourceVisibleToTenant
  split
  · next hhidden =>
    obtain ⟨hnone, hsome⟩ := hhidden
    simp [hnone, hsome]
  · next hvisible =>
    rw [not_and_or, not_not, not_not] at hvisible
    simp [hvisible]

theorem loadDatasetSource_ok {id : DatasetSourceId} {tenantId : TenantId} {source : DatasetSource} :
    loadDatasetSource db id tenantId = .ok source ↔
      db.datasetSources.get id = some source ∧
        (source.tenantId = none ∨ source.tenantId = some tenantId) := by
  unfold loadDatasetSource
  cases db.datasetSources.get id with
  | none => simp
  | some found =>
    simp only [Lib.bind_ok, assertDatasetSourceVisibleToTenant_ok, Option.some.injEq]
    constructor
    · rintro ⟨-, hvisible, hsource⟩
      cases hsource
      exact ⟨rfl, hvisible⟩
    · rintro ⟨rfl, hvisible⟩
      exact ⟨(), hvisible, rfl⟩

theorem DateRange.make_ok {start stop : Timestamp} {range : DateRange} :
    DateRange.make start stop = .ok range ↔ ∃ h : start ≤ stop, range = ⟨start, stop, h⟩ := by
  unfold DateRange.make
  split
  · next h => simp [h, eq_comm]
  · next h => simp [h]

theorem metadataFromCommand_ok {c : DescribedDataset} {name : String} {metadata : DatasetMetadata} :
    metadataFromCommand c name = .ok metadata ↔
      ∃ (hordered : c.temporalCoverageStart ≤ c.temporalCoverageEnd)
        (hname : isBlank name = false) (hcrs : isBlank c.crs = false),
        metadata = { c with
          name, temporalCoverage := ⟨c.temporalCoverageStart, c.temporalCoverageEnd, hordered⟩
          name_not_blank := hname, crs_not_blank := hcrs } := by
  simp only [metadataFromCommand, Lib.bind_ok, DateRange.make_ok, DatasetMetadata.make_ok]
  constructor
  · rintro ⟨_, ⟨hordered, rfl⟩, hname, hcrs, rfl⟩
    exact ⟨hordered, hname, hcrs, rfl⟩
  · rintro ⟨hordered, hname, hcrs, rfl⟩
    exact ⟨_, ⟨hordered, rfl⟩, hname, hcrs, rfl⟩

/-- The columns say no more of the row than `CatalogDataset.fits` says of the command. -/
theorem catalog_fits {c : CatalogDataset} {id : DatasetId} {metadata : DatasetMetadata}
    {readiness : Finset DatasetReadinessTag}
    (h : metadataFromCommand c.toDescribedDataset c.name = .ok metadata) :
    (Dataset.catalog id c.tenantId c.datasetSourceId metadata readiness c.issuedBy now).1.fits =
      c.fits := by
  obtain ⟨hordered, hname, hcrs, rfl⟩ := metadataFromCommand_ok.mp h
  cases hby : DataAcquisition.fits 200 c.issuedBy with
  | false => simp [Dataset.catalog, Dataset.fits, CatalogDataset.fits, hby]
  | true =>
    have hactor := storable_of_fits hby
    have haction : storable "CATALOGUED" = true := by decide
    have htext : storable "Initial cataloguing of " = true := by decide
    simp [Dataset.catalog, Dataset.fits, CatalogDataset.fits, ProvenanceEntry.storable, hby, hactor,
      haction, htext]

/-- A `CatalogDataset` command writes a first version if it is accepted, and else nothing. -/
theorem step_catalogDataset {c : CatalogDataset} {id : DatasetId} :
    (¬ c.Accepted id db ∧ db.step (now, .catalogDataset c id) = db) ∨
    c.Accepted id db ∧ ∃ d, (db.step (now, .catalogDataset c id)).datasets = db.datasets.put d ∧
      db.datasets.get d.id = none ∧ d.version = 1 ∧ d.status = .catalogued ∧
      d.tenantId = c.tenantId ∧ d.metadata.name = c.name := by
  by_cases hfresh : db.datasets.get id = none
  case neg =>
    refine Or.inl ⟨fun h => hfresh h.fresh, ?_⟩
    exact if_pos (Option.isSome_iff_ne_none.mpr hfresh)
  have hstep : db.step (now, .catalogDataset c id) = db.commit (catalogDataset c id now db) :=
    if_neg (by simp [hfresh])
  rw [hstep]
  cases hr : catalogDataset c id now db with
  | ok r =>
    obtain ⟨db', d⟩ := r
    obtain ⟨source, hsource, h⟩ := Lib.bind_ok.mp hr
    obtain ⟨metadata, hmetadata, h⟩ := Lib.bind_ok.mp h
    obtain ⟨u, hfits, h⟩ := Lib.bind_ok.mp h
    cases h
    refine Or.inr ⟨?_, _, rfl, hfresh, rfl, rfl, rfl, metadata_name hmetadata⟩
    obtain ⟨hordered, hname, hcrs, -⟩ := metadataFromCommand_ok.mp hmetadata
    have hfits : c.fits = true := (catalog_fits hmetadata).symm.trans (flushed_ok.mp hfits)
    exact ⟨hfresh, ⟨source, loadDatasetSource_ok.mp hsource⟩, hordered, hname, hcrs, hfits⟩
  | error e =>
    refine Or.inl ⟨?_, rfl⟩
    rintro ⟨-, ⟨source, hsource⟩, hordered, hname, hcrs, hfits⟩
    have hmetadata := metadataFromCommand_ok.mpr ⟨hordered, hname, hcrs, rfl⟩
    rw [← @catalog_fits now _ id _ _ hmetadata] at hfits
    have hok : ∃ r, catalogDataset c id now db = .ok r := by
      refine Lib.exists_bind_ok.mpr ⟨source, loadDatasetSource_ok.mpr hsource, ?_⟩
      refine Lib.exists_bind_ok.mpr ⟨_, hmetadata, ?_⟩
      exact Lib.exists_bind_ok.mpr ⟨(), flushed_ok.mpr hfits, _, rfl⟩
    obtain ⟨r, hok⟩ := hok
    cases hr.symm.trans hok

/-! ### Runs -/

/-- A `CatalogDataset` command that is accepted names no dataset that is there. -/
def Db.FirstUse (db : Db) : Timestamp × Command → Prop
  | (_, .catalogDataset c id) => c.Accepted id db → db.versions c.tenantId c.name = []
  | _ => True

theorem step_chained_iff {t : Timestamp × Command} (hdb : db.Chained) :
    (db.step t).Chained ↔ db.FirstUse t := by
  obtain ⟨now, command⟩ := t
  by_cases hcatalog : ∃ c id, command = .catalogDataset c id
  · obtain ⟨c, id, rfl⟩ := hcatalog
    rcases @step_catalogDataset db now c id with
      ⟨hrejected, hstep⟩ | ⟨haccepted, d, hstep, hfresh, hversion, hstatus, htenant, hname⟩
    · rw [hstep]
      exact iff_of_true hdb fun haccepted => absurd haccepted hrejected
    · constructor
      · intro hdb' _
        by_contra htaken
        rw [← htenant, ← hname] at htaken
        exact Db.not_chained_first hdb hstep hfresh hversion htaken hdb'
      · intro hfirst
        have hfree := hfirst haccepted
        rw [← htenant, ← hname] at hfree
        exact hdb.first hstep hfresh hversion hstatus hfree
  · have hother : ∀ c id, command ≠ .catalogDataset c id := fun c id heq => hcatalog ⟨c, id, heq⟩
    have hfirst : db.FirstUse (now, command) := by
      cases command with
      | catalogDataset c id => exact absurd rfl (hother c id)
      | _ => trivial
    exact iff_of_true (hdb.of_effect (step_effect hother)) hfirst

/-- Throughout a run of commands the versions under every name are a chain, iff no `CatalogDataset`
    command is accepted for a name that is taken. -/
theorem chained_iff_first_use (hdb : db.Chained) (commands : List (Timestamp × Command)) :
    Lib.AllStates Db.step Db.Chained db commands ↔
      Lib.AllSteps Db.step Db.FirstUse db commands :=
  Lib.allStates_iff_allSteps (J := fun _ => True) (fun _ _ _ h => step_chained_iff h)
    (fun _ _ _ _ _ => trivial) trivial hdb

/-! ### One name, catalogued twice -/

/-- A request that calls a dataset `rainfall`. -/
def rainfall : CatalogDataset where
  tenantId := ⟨1⟩
  datasetSourceId := ⟨10⟩
  name := "rainfall"
  datasetType := .raster
  source := "CHIRPS v2"
  provider := .chirps
  acquisitionDate := 0
  crs := "EPSG:4326"
  spatialCoverage := "national"
  temporalCoverageStart := 0
  temporalCoverageEnd := 1
  processingMethod := .raw

def openSource : Timestamp × Command :=
  (0, .registerDatasetSource ⟨none, "CHIRPS", .chirps, "", "admin"⟩ ⟨10⟩)

/-- Catalogued once, then revised. -/
def revisedRainfall : List (Timestamp × Command) :=
  [openSource, (1, .catalogDataset rainfall ⟨20⟩),
    (2, .reviseDataset { rainfall with datasetName := "rainfall", description := "gaps filled" }
      ⟨21⟩ 0)]

theorem chained_iff_first_use_sample :
    Lib.AllStates Db.step Db.Chained Db.empty revisedRainfall := by
  refine (chained_iff_first_use ?_ revisedRainfall).mpr ⟨trivial, fun _ => rfl, trivial, trivial⟩
  intro tenantId name hne
  exact absurd rfl hne

/-- The second dataset of the name is a first version too. -/
theorem catalogued_twice : ¬ ∀ commands, Lib.AllStates Db.step Db.Chained Db.empty commands := by
  intro h
  have hlast := (h [openSource, (1, .catalogDataset rainfall ⟨20⟩),
    (2, .catalogDataset rainfall ⟨21⟩)]).last
  have hversions := (hlast ⟨1⟩ "rainfall" (by decide)).versions
  revert hversions
  decide

end GeoRisk.DataAcquisition
