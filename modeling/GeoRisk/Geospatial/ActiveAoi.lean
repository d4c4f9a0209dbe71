import Mathlib
import GeoRisk.Geospatial.AreaOfInterest
import GeoRisk.Lib.Runs
import GeoRisk.Lib.Versions

/-! The active area of an assessment over any interleaving of the command. A request that commits over
    the areas it has read adds the next version and retires the one before. A request that commits
    over others adds a version that is there already, and an active area beside the newest:

        active? none ───────────────────▶ insert version 1
               active? none ──▶ insert version 1                     two active areas           -/

namespace GeoRisk.Geospatial

/-- Areas as versions of one document. -/
def aoiVersions : Lib.Versioned AreaOfInterest where
  version := (·.version)
  live a := a.status = .active
  retired a := a.status = .superseded
  follows _ _ := True

/-- The areas of an assessment are the versions 1, …, n, of which n alone is active, and the query
    for the active one answers. -/
structure OneActive (k : AoiKey) (db : Db) : Prop where
  versions : ((db.areas k).map (·.version)).Perm (List.range' 1 (db.areas k).length)
  active_iff : ∀ a ∈ db.areas k, a.status = .active ↔ a.version = (db.areas k).length
  unique : db.areas k ≠ [] → ∃! a, a ∈ db.areas k ∧ a.status = .active
  readable : ∃ existing, db.getActiveForAssessment k = .ok existing ∧
    (existing = none ↔ db.areas k = [])

variable {k : AoiKey} {db db' : Db} {existing : Option AreaOfInterest} {aoi p : AreaOfInterest}
  {event : GeospatialEvent} {now : Timestamp}

theorem AreaOfInterest.superseded_of_not_active {a : AreaOfInterest} (h : a.status ≠ .active) :
    a.status = .superseded := by
  cases hs : a.status with
  | active => exact absurd hs h
  | superseded => rfl

theorem OneActive.chain (h : OneActive k db) : Lib.VersionChain aoiVersions (db.areas k) where
  versions := h.versions
  live a ha hv := (h.active_iff a ha).mpr hv
  retired a ha hv := AreaOfInterest.superseded_of_not_active fun hs => hv ((h.active_iff a ha).mp hs)
  linked _ _ _ _ _ := trivial

theorem oneActive_of_chain (h : Lib.VersionChain aoiVersions (db.areas k)) : OneActive k db := by
  have hexcl : ∀ a : AreaOfInterest, aoiVersions.live a → ¬ aoiVersions.retired a := by
    intro a hl hr
    exact absurd ((show a.status = .active from hl).symm.trans hr) (by decide)
  have hiff : ∀ a ∈ db.areas k, a.status = .active ↔ a.version = (db.areas k).length :=
    fun a ha => ⟨h.version_of_live hexcl ha, h.live a ha⟩
  by_cases hne : db.areas k = []
  · exact ⟨h.versions, hiff, fun hn => absurd hne hn, none, by
      simp [Db.getActiveForAssessment, hne], by simp [hne]⟩
  · obtain ⟨a, ha, hv, hlive⟩ := h.exists_newest hne
    have hunique : ∀ b ∈ db.areas k, b.status = .active → b = a := fun b hb hs =>
      Lib.eq_of_version h.versions hb ha (((hiff b hb).mp hs).trans hv.symm)
    have hnodup : (db.areas k).Nodup :=
      (List.Nodup.of_map _ db.aois.nodup).filter _
    -- the active areas are the newest one alone
    have hfilter : (db.areas k).filter (·.status = .active) = [a] := by
      refine List.perm_singleton.mp ((List.perm_ext_iff_of_nodup (hnodup.filter _)
        (List.nodup_singleton a)).mpr fun b => ?_)
      rw [List.mem_filter, List.mem_singleton, decide_eq_true_eq]
      exact ⟨fun hb => hunique b hb.1 hb.2, by rintro rfl; exact ⟨ha, hlive⟩⟩
    refine ⟨h.versions, hiff, fun _ => ⟨a, ⟨ha, hlive⟩, fun b hb => hunique b hb.1 hb.2⟩, some a, ?_,
      by simp [hne]⟩
    simp [Db.getActiveForAssessment, hfilter]

/-- The version drawn over good areas is the one after the newest. -/
theorem OneActive.versionAfter (h : OneActive k db) (hread : db.getActiveForAssessment k = .ok existing) :
    versionAfter existing = (db.areas k).length + 1 := by
  obtain ⟨existing', hread', hnone⟩ := h.readable
  obtain rfl : existing' = existing := by rw [hread'] at hread; cases hread; rfl
  cases existing' with
  | none => rw [hnone.mp rfl]; rfl
  | some p =>
    obtain ⟨hp, hk, hs⟩ := getActive_mem hread
    have hmem : p ∈ db.areas k := List.mem_filter.mpr ⟨hp, by simpa using hk⟩
    rw [Geospatial.versionAfter, Option.elim_some, (h.active_iff p hmem).mp hs]

/-! ### What a commit does to the areas of an assessment -/

/-- An area once `previous` has been superseded. -/
def retire (previous : Option AreaOfInterest) (a : AreaOfInterest) : AreaOfInterest :=
  if previous.map (·.id) = some a.id then a.markSuperseded else a

@[simp] theorem retire_none (a : AreaOfInterest) : retire none a = a := rfl

@[simp] theorem retire_version (a : AreaOfInterest) : (retire existing a).version = a.version := by
  unfold retire; split <;> rfl

@[simp] theorem retire_key (a : AreaOfInterest) : (retire existing a).key = a.key := by
  unfold retire; split <;> rfl

@[simp] theorem retire_id (a : AreaOfInterest) : (retire existing a).id = a.id := by
  unfold retire; split <;> rfl

@[simp] theorem toRow_key (a : AreaOfInterest) : a.toRow.key = a.key := rfl
@[simp] theorem toRow_version (a : AreaOfInterest) : a.toRow.version = a.version := rfl
@[simp] theorem toRow_status (a : AreaOfInterest) : a.toRow.status = a.status := rfl

theorem supersede_rows (h : db.supersede p = some db') :
    db'.aois.rows = db.aois.rows.map (retire (some p)) := by
  obtain ⟨current, hcurrent, rfl⟩ := Option.map_eq_some_iff.mp h
  have hid := Lib.Table.key_of_get hcurrent
  have hget : db.aois.get current.markSuperseded.id = some current := by
    rw [show current.markSuperseded.id = p.id from hid]; exact hcurrent
  change (db.aois.put current.markSuperseded).rows = _
  rw [Lib.Table.put_rows_of_get hget]
  refine List.map_congr_left fun a ha => ?_
  by_cases hak : a.id = p.id
  · have hac : a = current := List.inj_on_of_nodup_map db.aois.nodup ha (Lib.Table.mem_of_get hcurrent)
      (hak.trans hid.symm)
    have : a.id = current.markSuperseded.id := by rw [hac]; rfl
    rw [if_pos this, retire, if_pos (by simp [hak]), hac]
  · have : a.id ≠ current.markSuperseded.id := fun he => hak (he.trans hid)
    rw [if_neg this, retire, if_neg (by simpa using Ne.symm hak)]

theorem insert_rows (h : db.insert aoi event now = some db') :
    db'.aois.rows = db.aois.rows ++ [aoi.toRow] := by
  unfold Db.insert at h
  split at h
  · cases h
  · next hok =>
    cases h
    rw [Bool.or_eq_true, not_or] at hok
    exact Lib.Table.put_rows_of_fresh (r := aoi.toRow) (Option.not_isSome_iff_eq_none.mp hok.1)

/-- A commit retires what the request has read as active, and appends the new area. -/
theorem save_rows (h : db.save existing aoi event now = some db') :
    db'.aois.rows = db.aois.rows.map (retire existing) ++ [aoi.toRow] := by
  cases existing with
  | none =>
    rw [insert_rows (h : db.insert aoi event now = some db'), List.map_congr_left fun a _ => retire_none a,
      List.map_id']
  | some p =>
    obtain ⟨mid, hmid, hins⟩ := Option.bind_eq_some_iff.mp (h : (db.supersede p).bind _ = some db')
    rw [insert_rows hins, supersede_rows hmid]

theorem save_areas (h : db.save existing aoi event now = some db') (k : AoiKey) :
    db'.areas k = (db.areas k).map (retire existing) ++ if aoi.key = k then [aoi.toRow] else [] := by
  rw [Db.areas, save_rows h, List.filter_append, List.filter_map, Db.areas]
  congr 1
  · congr 1
    exact List.filter_congr fun a _ => by simp
  · by_cases hk : aoi.key = k <;> simp [hk]

/-- Every row that has been read is there, under its key. -/
abbrev RowsKept (db db' : Db) : Prop := Lib.Table.Kept (fun a b => b.key = a.key) db.aois db'.aois

theorem save_kept (h : db.save existing aoi event now = some db') : RowsKept db db' := by
  intro id a ha
  have hmem : retire existing a ∈ db'.aois.rows := by
    rw [save_rows h]
    exact List.mem_append_left _ (List.mem_map_of_mem (Lib.Table.mem_of_get ha))
  refine ⟨retire existing a, ?_, retire_key a⟩
  have hid : (retire existing a).id = id := by rw [retire_id, Lib.Table.key_of_get ha]
  rw [← hid]
  exact Lib.Table.get_of_mem hmem

/-- The areas of an assessment are as they were, or there are more of them. -/
structure Later (k : AoiKey) (db db' : Db) : Prop where
  kept : RowsKept db db'
  areas : db.areas k = db'.areas k ∨ (db.areas k).length < (db'.areas k).length

theorem Later.refl (k : AoiKey) (db : Db) : Later k db db :=
  ⟨fun _ r h => ⟨r, h, rfl⟩, .inl rfl⟩

theorem Later.trans {db₁ db₂ db₃ : Db} (h : Later k db₁ db₂) (h' : Later k db₂ db₃) :
    Later k db₁ db₃ := by
  refine ⟨h.kept.trans (fun hab hbc => hbc.trans hab) h'.kept, ?_⟩
  rcases h.areas with he | hl <;> rcases h'.areas with he' | hl'
  · exact .inl (he.trans he')
  · exact .inr (he ▸ hl')
  · exact .inr (he' ▸ hl)
  · exact .inr (hl.trans hl')

/-- A request about another assessment leaves the areas of this one alone. -/
theorem save_areas_other {read : Db} (hread : ∀ p, existing = some p → p ∈ read.aois.rows ∧ p.key ≠ k)
    (hkept : RowsKept read db) (hk : aoi.key ≠ k) (h : db.save existing aoi event now = some db') :
    db'.areas k = db.areas k := by
  rw [save_areas h, if_neg hk, List.append_nil]
  refine (List.map_congr_left fun a ha => ?_).trans (List.map_id _)
  obtain ⟨ha, hak⟩ := List.mem_filter.mp ha
  unfold retire
  split
  · next hid =>
    obtain ⟨p, rfl, hpid⟩ := Option.map_eq_some_iff.mp hid
    obtain ⟨hp, hpk⟩ := hread p rfl
    obtain ⟨b, hb, hbk⟩ := hkept p.id p (Lib.Table.get_of_mem hp)
    have hab : b = a := by
      have := @Lib.Table.get_of_mem _ _ _ AreaOfInterest.id _ _ ha
      rw [← hpid, hb] at this
      exact Option.some.inj this
    rw [hab] at hbk
    exact absurd (hbk.symm.trans (by simpa using hak)) hpk
  · rfl

/-- A commit over the areas that were read extends the chain. -/
theorem oneActive_save_fresh {read : Db} (hdb : OneActive k db) (hk : aoi.key = k)
    (hs : aoi.status = .active) (hread : read.getActiveForAssessment k = .ok existing)
    (hsame : read.areas k = db.areas k) (hv : aoi.version = versionAfter existing)
    (h : db.save existing aoi event now = some db') : OneActive k db' := by
  have hread' : db.getActiveForAssessment k = .ok existing := by
    unfold Db.getActiveForAssessment at hread ⊢
    rwa [hsame] at hread
  refine oneActive_of_chain ?_
  rw [save_areas h, if_pos hk]
  have hchain := hdb.chain
  refine hchain.extend _ (fun a _ => retire_version a) (fun a ha => ?_)
    (fun _ _ _ _ _ => trivial) (hv.trans (hdb.versionAfter hread')) hs (fun _ _ _ => trivial)
  by_cases hid : existing.map (·.id) = some a.id
  · rw [retire, if_pos hid]; rfl
  · rw [retire, if_neg hid]
    refine AreaOfInterest.superseded_of_not_active fun hact => hid ?_
    have ha' : a ∈ (db.areas k).filter (·.status = .active) :=
      List.mem_filter.mpr ⟨ha, by simpa using hact⟩
    rw [getActive_ok hread', Option.mem_toList] at ha'
    rw [ha']; rfl

/-- A commit over areas that have changed since adds a version that is there. -/
theorem not_oneActive_save_stale {read : Db} (hdb : OneActive k db) (hgood : OneActive k read)
    (hk : aoi.key = k) (hread : read.getActiveForAssessment k = .ok existing)
    (hmore : (read.areas k).length < (db.areas k).length) (hv : aoi.version = versionAfter existing)
    (h : db.save existing aoi event now = some db') : ¬ OneActive k db' := by
  intro hdb'
  have hnodup := hdb'.versions.symm.nodup List.nodup_range'
  have hversions : ((db.areas k).map (retire existing)).map (·.version) =
      (db.areas k).map (·.version) := by
    rw [List.map_map]
    exact List.map_congr_left fun a _ => retire_version a
  rw [save_areas h, if_pos hk, List.map_append, hversions] at hnodup
  rw [hgood.versionAfter hread] at hv
  have hmem : aoi.version ∈ (db.areas k).map (·.version) :=
    hdb.versions.symm.subset (List.mem_range'_1.mpr (by omega))
  exact List.disjoint_of_nodup_append hnodup hmem (by simp)

/-! ### Every interleaving -/

section Interleaving

variable {ι : Type} (math : Trig) (commands : ι → DefineOrReviseAoi) (ids : ι → AoiId)

abbrev AoiTrace (ι : Type) := Lib.Traced ι Db Timestamp (Except GeospatialError AreaOfInterest)

/-- Every request is about to begin. -/
def aoiStart (db : Db) : AoiTrace ι :=
  .start (fun i => defineOrReviseTxn math (commands i) (ids i)) db

/-- If the step commits a request about the assessment, no other has committed since the request
    looked for the active area. -/
def CommitsFresh (k : AoiKey) (s : AoiTrace ι) (t : ι × Timestamp) : Prop :=
  ∀ write result, s.world.sessions t.1 = .running (.commit write result) →
    write s.world.db ≠ none → (commands t.1).key = k →
      ∀ r ∈ s.reads t.1, r.2.areas k = s.world.db.areas k

/-- What good runs keep besides: whatever was read was good, and the areas have only grown since. -/
structure Watched (k : AoiKey) (s : AoiTrace ι) : Prop where
  ending : s.Ending (fun i reads write _ => Commits (commands i) (ids i) reads write)
    (fun _ _ => True)
  reads : s.Reads fun _ d => OneActive k d ∧ Later k d s.world.db

variable {math commands ids} {s : AoiTrace ι} [DecidableEq ι]

/-- A step leaves the areas alone, or commits what its request has read and drawn. -/
theorem Watched.step_cases (h : Watched commands ids k s) (t : ι × Timestamp) :
    ((¬ ∃ write result, s.world.sessions t.1 = .running (.commit write result) ∧
        write s.world.db ≠ none) ∧ (s.step t).world.db = s.world.db) ∨
    ∃ write result now read existing aoi event,
      s.world.sessions t.1 = .running (.commit write result) ∧ s.reads t.1 = [(now, read)] ∧
      read.getActiveForAssessment (commands t.1).key = .ok existing ∧
      aoi.key = (commands t.1).key ∧ aoi.status = .active ∧ aoi.version = versionAfter existing ∧
      write s.world.db = some (s.step t).world.db ∧
      s.world.db.save existing aoi event now = some (s.step t).world.db := by
  by_cases hcommit : ∃ write result, s.world.sessions t.1 = .running (.commit write result) ∧
      write s.world.db ≠ none
  · obtain ⟨write, result, hi, hwrite⟩ := hcommit
    obtain ⟨db', hdb'⟩ := Option.ne_none_iff_exists'.mp hwrite
    obtain ⟨now, read, existing, aoi, event, hreads, hread, -, hk, hs, hv, rfl⟩ :=
      (h.ending t.1 _ hi).reads
    have hnew : (s.step t).world.db = db' := by rw [s.step_of_commit hi hdb']
    rw [hnew]
    exact .inr ⟨_, result, now, read, existing, aoi, event, hi, hreads, hread, hk, hs, hv, hdb', hdb'⟩
  · exact .inl ⟨hcommit, (s.step_of_no_commit hcommit).1⟩

theorem Watched.later (h : Watched commands ids k s) (t : ι × Timestamp) :
    Later k s.world.db (s.step t).world.db := by
  rcases h.step_cases t with ⟨-, hsame⟩ |
    ⟨write, result, now, read, existing, aoi, event, hi, hreads, hread, hk, -, -, -, hsave⟩
  · rw [hsame]; exact Later.refl k _
  · refine ⟨save_kept hsave, ?_⟩
    by_cases hkey : (commands t.1).key = k
    · right
      rw [save_areas hsave, if_pos (hk.trans hkey)]
      simp
    · left
      have hold := h.reads t.1 (now, read) (by rw [hreads]; exact List.mem_singleton_self _)
      refine (save_areas_other (fun p hp => ?_) hold.2.kept (by rw [hk]; exact hkey) hsave).symm
      obtain ⟨hp, hpk, -⟩ := getActive_mem (hp ▸ hread)
      exact ⟨hp, by rw [hpk]; exact hkey⟩

theorem Watched.step (h : Watched commands ids k s) (hgood : OneActive k s.world.db)
    (t : ι × Timestamp) : Watched commands ids k (s.step t) := by
  have hlater := h.later t
  refine ⟨h.ending.step t, h.reads.step t (fun _ d hd => ⟨hd.1, hd.2.trans hlater⟩) fun _ => ?_⟩
  exact ⟨hgood, hlater⟩

/-- Step lemma: over good areas a step leads to good areas iff it commits over what it has read. -/
theorem Watched.oneActive_step_iff (h : Watched commands ids k s) (hgood : OneActive k s.world.db)
    (t : ι × Timestamp) : OneActive k (s.step t).world.db ↔ CommitsFresh commands k s t := by
  rcases h.step_cases t with ⟨hno, hsame⟩ |
    ⟨write, result, now, read, existing, aoi, event, hi, hreads, hread, hk, hs, hv, hwrite, hsave⟩
  · rw [hsame]
    exact iff_of_true hgood fun write result hi hwrite => absurd ⟨write, result, hi, hwrite⟩ hno
  · have hmem : (now, read) ∈ s.reads t.1 := by rw [hreads]; exact List.mem_singleton_self _
    obtain ⟨hgoodread, hlater⟩ := h.reads t.1 _ hmem
    by_cases hkey : (commands t.1).key = k
    · rw [hkey] at hread hk
      have hfresh : CommitsFresh commands k s t ↔ read.areas k = s.world.db.areas k := by
        constructor
        · intro hok
          exact hok write result hi (by rw [hwrite]; exact Option.some_ne_none _) hkey _ hmem
        · intro heq _ _ _ _ _ r hr
          rw [hreads, List.mem_singleton] at hr
          rw [hr]; exact heq
      rw [hfresh]
      constructor
      · intro hnew
        by_contra hne
        exact not_oneActive_save_stale hgood hgoodread hk hread (hlater.areas.resolve_left hne) hv
          hsave hnew
      · intro heq
        exact oneActive_save_fresh hgood hk hs hread heq hv hsave
    · -- a request about another assessment
      have hareas := (h.later t)
      have hother : (s.step t).world.db.areas k = s.world.db.areas k := by
        refine save_areas_other (fun p hp => ?_) hlater.kept (by rw [hk]; exact hkey) hsave
        obtain ⟨hp, hpk, -⟩ := getActive_mem (hp ▸ hread)
        exact ⟨hp, by rw [hpk]; exact hkey⟩
      refine iff_of_true ?_ fun _ _ _ _ hk' => absurd hk' hkey
      exact oneActive_of_chain (hother ▸ hgood.chain)

/-- Over any interleaving an assessment has one active area throughout, the newest of the versions
    1, …, n, iff no request about it commits over areas other than those it has read. -/
theorem oneActive_iff_fresh (math : Trig) (commands : ι → DefineOrReviseAoi) (ids : ι → AoiId)
    (k : AoiKey) {db : Db} (hdb : OneActive k db) (schedule : List (ι × Timestamp)) :
    Lib.AllStates Lib.Traced.step (fun s => OneActive k s.world.db) (aoiStart math commands ids db)
        schedule ↔
      Lib.AllSteps Lib.Traced.step (CommitsFresh commands k) (aoiStart math commands ids db)
        schedule := by
  refine Lib.allStates_iff_allSteps (J := Watched commands ids k)
    (fun s t hJ hP => hJ.oneActive_step_iff hP t) (fun s t hJ hP _ => hJ.step hP t) ?_ hdb
  refine ⟨Lib.Traced.ending_start db fun i => defineOrReviseTxn_ends math (commands i) (ids i), ?_⟩
  intro j r hr
  cases hr

end Interleaving

/-! ### Two first definitions -/

def triangle : GeoJson :=
  .polygon [[(.finite 0, .finite 0), (.finite 1, .finite 0), (.finite 0, .finite 1),
    (.finite 0, .finite 0)]]

/-- Two people draw the area of one assessment. -/
def drawn (_ : Bool) : DefineOrReviseAoi where
  tenantId := ⟨1⟩
  assessmentId := ⟨UUID.str 2, 2⟩
  source := "DRAWN"
  geojson := triangle
  name := "Basin"
  notes := ""
  issuedBy := "alice"

def drawnIds : Bool → AoiId
  | false => ⟨10⟩
  | true => ⟨11⟩

/-- Both look before either commits. -/
def drawnTogether : List (Bool × Timestamp) := [(false, 0), (true, 1), (false, 2), (true, 3)]

/-- Both define version 1. -/
theorem defined_twice : ¬ ∀ (math : Trig) (commands : Bool → DefineOrReviseAoi)
    (ids : Bool → AoiId) (k : AoiKey) (schedule : List (Bool × Timestamp)),
    Lib.AllStates Lib.Traced.step (fun s => OneActive k s.world.db)
      (aoiStart math commands ids .empty) schedule := by
  intro h
  have hlast := (h Trig.flat drawn drawnIds ⟨⟨1⟩, 2⟩ drawnTogether).last
  have hversions : ((drawnTogether.foldl Lib.Traced.step
      (aoiStart Trig.flat drawn drawnIds .empty)).world.db.areas ⟨⟨1⟩, 2⟩).map (·.version) = [1, 1] := by
    decide +kernel
  have hnodup := hlast.versions.symm.nodup List.nodup_range'
  rw [hversions] at hnodup
  exact absurd hnodup (by decide)

theorem oneActive_iff_fresh_drawn :
    Lib.AllStates Lib.Traced.step (fun s => OneActive ⟨⟨1⟩, 2⟩ s.world.db)
        (aoiStart Trig.flat drawn drawnIds .empty) drawnTogether ↔
      Lib.AllSteps Lib.Traced.step (CommitsFresh drawn ⟨⟨1⟩, 2⟩)
        (aoiStart Trig.flat drawn drawnIds .empty) drawnTogether :=
  oneActive_iff_fresh Trig.flat drawn drawnIds ⟨⟨1⟩, 2⟩ (oneActive_of_chain Lib.VersionChain.nil)
    drawnTogether

end GeoRisk.Geospatial
