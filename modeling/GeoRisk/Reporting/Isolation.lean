import Mathlib
import GeoRisk.Lib.Runs
import GeoRisk.Reporting.Handlers

/-! Do the report dashboards keep tenants apart? The subquery of `list_latest_by_tenant` is the
    tenant's own, but the rows joined with it are everybody's: a report of another tenant on the same
    assessment shows up when its version is the tenant's latest. As the versions of each tenant and
    assessment are 1, 2, 3 and so on, one of two tenants that generate reports on one assessment
    always sees a report of the other. -/

namespace GeoRisk.Reporting

/-- The tables after a history of requests. -/
def run (history : List Command) : Db := history.foldl Db.step .empty

/-- The identifier a command draws for a new report. -/
def Command.newId : Command → Option ReportId
  | .generateReport _ _ _ _ id _ => some id
  | .finalizeReport .. => none

/-- The identifiers drawn for new reports are all different. -/
def FreshIds (history : List Command) : Prop := (history.filterMap Command.newId).Nodup

instance (history : List Command) : Decidable (FreshIds history) :=
  inferInstanceAs (Decidable (List.Nodup _))

/-- The command generates a report of the tenant on the assessment. -/
def Command.Generates (tenantId : TenantId) (assessmentId : UUID) : Command → Bool
  | .generateReport tenantId' assessmentId' .. =>
    tenantId' = tenantId && assessmentId'.id = assessmentId
  | .finalizeReport .. => false

/-- What a tenant has done in a history. -/
def ofTenant (tenantId : TenantId) (history : List Command) : List Command :=
  history.filter (·.tenantId = tenantId)

/-- The dashboard of a tenant shows its own reports only, and the same ones as if no other tenant
    had done anything. -/
structure Isolated (history : List Command) (tenantId : TenantId) : Prop where
  own : ∀ r ∈ (run history).listLatestByTenant tenantId, r.tenantId = tenantId
  purged : (run history).listLatestByTenant tenantId =
    (run (ofTenant tenantId history)).listLatestByTenant tenantId

/-- No two tenants have generated reports on one assessment. -/
def Unshared (history : List Command) : Prop :=
  ∀ c ∈ history, ∀ c' ∈ history, ∀ tenantId tenantId' assessmentId,
    c.Generates tenantId assessmentId → c'.Generates tenantId' assessmentId → tenantId = tenantId'

/-! ### What a command does to the rows -/

section Step

variable {db : Db} {c : Command} {tenantId : TenantId} {assessmentId : UUID}

/-- What a report is filed under, which no command changes. -/
def Report.file (r : Report) : TenantId × UUID × ℕ := (r.tenantId, r.assessmentId.id, r.version)

/-- A command adds a row under the next version of its tenant and assessment, replaces a row of its
    tenant by one filed under the same, or does nothing. -/
inductive RowsStep (db : Db) : Command → Db → Prop where
  | generated {tenantId assessmentId issuedBy upstream id now db'} (row : Report)
      (hid : row.id = id)
      (hfile : row.file = (tenantId, assessmentId.id, db.nextVersion tenantId assessmentId.id))
      (hrows : db'.reports = db.reports.put row) :
      RowsStep db (.generateReport tenantId assessmentId issuedBy upstream id now) db'
  | finalized {tenantId reportId finalizedBy now db'} (old row : Report)
      (hold : db.reports.get reportId.id = some old) (hown : old.tenantId = tenantId)
      (hrows : db'.reports = db.reports.put row) (hid : row.id = old.id)
      (hfile : row.file = old.file) :
      RowsStep db (.finalizeReport tenantId reportId finalizedBy now) db'
  | refused {tenantId reportId finalizedBy now} :
      RowsStep db (.finalizeReport tenantId reportId finalizedBy now) db

theorem rowsStep (db : Db) (c : Command) : RowsStep db c (db.step c) := by
  cases c with
  | generateReport tenantId assessmentId issuedBy upstream id now =>
    simp only [Db.step, generateReport]
    cases gather assessmentId upstream with
    | ok sections => exact .generated _ rfl rfl rfl
    | error e => exact .generated _ rfl rfl rfl
  | finalizeReport tenantId reportId finalizedBy now =>
    simp only [Db.step, finalizeReport]
    cases hget : db.reports.get reportId.id with
    | none => exact .refused
    | some old =>
      by_cases hown : old.tenantId = tenantId
      · subst hown
        by_cases hdraft : old.status = .draft
        · simp only [ne_eq, not_true_eq_false, if_false, Report.finalize, hdraft, bind,
            Except.bind, pure, Except.pure]
          exact .finalized old _ hget rfl rfl rfl rfl
        · simp only [ne_eq, not_true_eq_false, if_false, Report.finalize, hdraft,
            not_false_eq_true, if_true, bind, Except.bind]
          exact .refused
      · simp only [hown, ne_eq, not_false_eq_true, if_true]
        exact .refused

/-- The command draws an identifier that is not in use. -/
def Db.Fresh (db : Db) (c : Command) : Prop := ∀ id, c.newId = some id → db.reports.get id = none

theorem allFresh : ∀ {history : List Command} {db : Db}, FreshIds history →
    (∀ id ∈ history.filterMap Command.newId, db.reports.get id = none) →
    Lib.AllSteps Db.step Db.Fresh db history
  | [], _, _, _ => trivial
  | c :: history, db, hids, hdb => by
    unfold FreshIds at hids
    rw [List.filterMap_cons] at hids hdb
    -- the rows of the next tables are under old identifiers or under the one just drawn
    have hkept : ∀ id, db.reports.get id = none → c.newId ≠ some id →
        (db.step c).reports.get id = none := by
      intro id hid hne
      have hstep := rowsStep db c
      generalize db.step c = db' at hstep
      cases hstep with
      | generated row hrow _ hrows =>
        rw [hrows, Lib.Table.get_put_of_ne _ (fun heq => hne (by rw [heq, hrow]; rfl))]
        exact hid
      | finalized old row hold _ hrows hrow _ =>
        rw [hrows, Lib.Table.get_put_of_ne]
        · exact hid
        · rintro rfl
          rw [hrow, Lib.Table.key_of_get hold, hold] at hid
          cases hid
      | refused => exact hid
    cases hc : c.newId with
    | none =>
      rw [hc] at hids hdb
      refine ⟨fun id hid => ?_, allFresh hids fun id hid => hkept id (hdb id hid) (by simp [hc])⟩
      rw [hc] at hid
      cases hid
    | some id₀ =>
      rw [hc] at hids hdb
      obtain ⟨hnot, hids⟩ := List.nodup_cons.mp hids
      refine ⟨fun id hid => ?_, allFresh hids fun id hid => ?_⟩
      · rw [hc] at hid
        cases hid
        exact hdb id₀ (List.mem_cons_self ..)
      · refine hkept id (hdb id (List.mem_cons_of_mem _ hid)) ?_
        rw [hc]
        rintro heq
        cases heq
        exact hnot hid

theorem fresh_run {history : List Command} (h : FreshIds history) :
    Lib.AllSteps Db.step Db.Fresh .empty history :=
  allFresh h fun _ _ => rfl

end Step

/-! ### Versions are dense -/

section Versions

variable {db db' : Db} {tenantId : TenantId} {assessmentId : UUID} {history : List Command}

/-- What the reports are filed under, in order. -/
def Db.files (db : Db) : List (TenantId × UUID × ℕ) := db.reports.rows.map Report.file

theorem versions_eq (db : Db) (tenantId : TenantId) (assessmentId : UUID) :
    db.versions tenantId assessmentId =
      (db.files.filter fun f => f.1 = tenantId ∧ f.2.1 = assessmentId).map (·.2.2) := by
  rw [Db.files, List.filter_map, List.map_map]
  rfl

theorem mem_versions {v : ℕ} : v ∈ db.versions tenantId assessmentId ↔
    ∃ r ∈ db.reports.rows, r.file = (tenantId, assessmentId, v) := by
  simp only [Db.versions, List.mem_map, List.mem_filter, decide_eq_true_eq, Report.file,
    Prod.mk.injEq, and_assoc]

/-- A command adds one version, or leaves the files as they are. -/
theorem files_step {c : Command} (hfresh : db.Fresh c) :
    (∃ tenantId assessmentId, (∀ T A, c.Generates T A ↔ T = tenantId ∧ A = assessmentId) ∧
      (db.step c).files = db.files ++ [(tenantId, assessmentId, db.nextVersion tenantId assessmentId)]) ∨
    ((∀ T A, ¬ c.Generates T A) ∧ (db.step c).files = db.files) := by
  have hstep := rowsStep db c
  generalize db.step c = db' at hstep
  cases hstep with
  | @generated tenantId assessmentId _ _ _ _ _ row hid hfile hrows =>
    refine Or.inl ⟨tenantId, assessmentId.id, fun T A => ?_, ?_⟩
    · simp only [Command.Generates, Bool.and_eq_true, decide_eq_true_eq]
      exact and_congr eq_comm eq_comm
    · rw [Db.files, hrows, Lib.Table.put_rows_of_fresh (hfresh _ (by rw [hid]; rfl)),
        List.map_append, List.map_singleton, hfile]
      rfl
  | finalized old row hold _ hrows hid hfile =>
    refine Or.inr ⟨fun T A => by simp [Command.Generates], ?_⟩
    have hget : db.reports.get row.id = some old := by
      rw [hid, Lib.Table.key_of_get hold, hold]
    rw [Db.files, hrows, Lib.Table.put_rows_of_get hget, List.map_map]
    refine List.map_congr_left fun r hr => ?_
    by_cases heq : r.id = row.id
    · have : r = old := List.inj_on_of_nodup_map db.reports.nodup hr (Lib.Table.mem_of_get hget)
        (heq.trans hid)
      rw [Function.comp, if_pos heq, hfile, this]
    · rw [Function.comp, if_neg heq]
  | refused => exact Or.inr ⟨fun T A => by simp [Command.Generates], rfl⟩

theorem max_range (n : ℕ) : ((List.range n).map (· + 1)).max?.getD 0 = n := by
  cases n with
  | zero => rfl
  | succ n =>
    have : ((List.range (n + 1)).map (· + 1)).max? = some (n + 1) := by
      rw [List.max?_eq_some_iff]
      simp
    rw [this, Option.getD_some]

/-- With `k` versions already there, a history that generates `m` more leaves `k + m`. -/
theorem versions_run (tenantId : TenantId) (assessmentId : UUID) :
    ∀ {history : List Command} {db : Db} {k : ℕ}, Lib.AllSteps Db.step Db.Fresh db history →
    db.versions tenantId assessmentId = (List.range k).map (· + 1) →
    (history.foldl Db.step db).versions tenantId assessmentId =
      (List.range (k + history.countP (Command.Generates tenantId assessmentId))).map (· + 1)
  | [], _, _, _, h => h
  | c :: history, db, k, hfresh, h => by
    have hnext : db.nextVersion tenantId assessmentId = k + 1 := by
      rw [Db.nextVersion, Db.maxVersion, h, max_range]
    rw [List.foldl_cons, List.countP_cons]
    rcases files_step hfresh.1 with ⟨T, A, hgen, hfiles⟩ | ⟨hgen, hfiles⟩
    · by_cases hc : c.Generates tenantId assessmentId
      · obtain ⟨rfl, rfl⟩ := (hgen _ _).mp hc
        have hone : (db.step c).versions tenantId assessmentId =
            (List.range (k + 1)).map (· + 1) := by
          rw [versions_eq, hfiles, List.filter_append, List.map_append, ← versions_eq, h, hnext,
            List.range_succ, List.map_append]
          simp
        rw [versions_run _ _ hfresh.2 hone, if_pos hc]
        congr 2
        omega
      · have hsame : (db.step c).versions tenantId assessmentId = (List.range k).map (· + 1) := by
          have hne : ¬ (T = tenantId ∧ A = assessmentId) := fun heq =>
            hc ((hgen _ _).mpr ⟨heq.1.symm, heq.2.symm⟩)
          rw [versions_eq, hfiles, List.filter_append, List.map_append, ← versions_eq, h]
          simp [hne]
        rw [versions_run _ _ hfresh.2 hsame, if_neg hc, Nat.add_zero]
    · have hsame : (db.step c).versions tenantId assessmentId = (List.range k).map (· + 1) := by
        rw [versions_eq, hfiles, ← versions_eq, h]
      rw [versions_run _ _ hfresh.2 hsame, if_neg (hgen _ _), Nat.add_zero]

/-- The reports of a tenant on an assessment are numbered from one, without gaps. -/
theorem run_versions (h : FreshIds history) (tenantId : TenantId) (assessmentId : UUID) :
    (run history).versions tenantId assessmentId =
      (List.range (history.countP (Command.Generates tenantId assessmentId))).map (· + 1) := by
  have hrun := versions_run tenantId assessmentId (fresh_run h) (k := 0) rfl
  rwa [Nat.zero_add] at hrun

theorem run_maxVersion (h : FreshIds history) (tenantId : TenantId) (assessmentId : UUID) :
    (run history).maxVersion tenantId assessmentId =
      history.countP (Command.Generates tenantId assessmentId) := by
  rw [Db.maxVersion, run_versions h, max_range]

/-- A version is filed iff it is one of those generated. -/
theorem run_filed (h : FreshIds history) {v : ℕ} :
    (∃ r ∈ (run history).reports.rows, r.file = (tenantId, assessmentId, v)) ↔
      1 ≤ v ∧ v ≤ history.countP (Command.Generates tenantId assessmentId) := by
  rw [← mem_versions, run_versions h, List.mem_map]
  constructor
  · rintro ⟨n, hn, rfl⟩
    rw [List.mem_range] at hn
    omega
  · rintro ⟨h1, hle⟩
    exact ⟨v - 1, List.mem_range.mpr (by omega), by omega⟩

end Versions

/-! ### A tenant's rows depend on its own commands only -/

section Purge

variable {db db' : Db} {tenantId : TenantId} {assessmentId : UUID} {c : Command}
  {history : List Command}

/-- The reports of `db'` are those of the tenant in `db`. -/
def Purged (tenantId : TenantId) (db db' : Db) : Prop :=
  db'.reports.rows = db.reports.rows.filter (·.tenantId = tenantId)

theorem Purged.versions (h : Purged tenantId db db') (assessmentId : UUID) :
    db'.versions tenantId assessmentId = db.versions tenantId assessmentId := by
  rw [Db.versions, Db.versions, h, List.filter_filter]
  congr 2
  funext r
  rw [← Bool.decide_and]
  exact decide_eq_decide.mpr ⟨fun hr => hr.1, fun hr => ⟨hr, hr.1⟩⟩

/-- An upsert of a row of the tenant, on both sides. -/
theorem Purged.save (h : Purged tenantId db db') {report : Report} (hown : report.tenantId = tenantId)
    (hold : ∀ old, db.reports.get report.id = some old → old.tenantId = tenantId) :
    Purged tenantId (db.save report) (db'.save report) := by
  have hput := Lib.Table.filter_put_rows (t := db.reports) (r := report.toRow)
    (p := (·.tenantId = tenantId)) fun old hget => by
      simp only [hold old hget]
      exact (decide_eq_true hown).symm
  have hrow : report.toRow.tenantId = tenantId := hown
  rw [if_pos (decide_eq_true hrow), ← h] at hput
  exact hput.symm

theorem Purged.step_mine (h : Purged tenantId db db') (hfresh : db.Fresh c)
    (hc : c.tenantId = tenantId) : Purged tenantId (db.step c) (db'.step c) := by
  cases c with
  | generateReport T A issuedBy upstream id now =>
    obtain rfl : T = tenantId := hc
    have hnext : db'.nextVersion T A.id = db.nextVersion T A.id := by
      rw [Db.nextVersion, Db.nextVersion, Db.maxVersion, Db.maxVersion, h.versions]
    have hnone : ∀ old, db.reports.get id = some old → old.tenantId = T := fun old hold => by
      rw [hfresh id rfl] at hold; cases hold
    simp only [Db.step, generateReport, hnext]
    cases gather A upstream with
    | ok sections => exact h.save rfl hnone
    | error e => exact h.save rfl hnone
  | finalizeReport T reportId finalizedBy now =>
    obtain rfl : T = tenantId := hc
    have hget := Lib.Table.get_of_filter h reportId.id
    simp only [Db.step, finalizeReport, hget]
    cases hg : db.reports.get reportId.id with
    | none => exact h
    | some old =>
      by_cases hown : old.tenantId = T
      · subst hown
        rw [Option.filter_some, if_pos (decide_eq_true rfl)]
        simp only [ne_eq, not_true_eq_false, if_false]
        cases hf : old.finalize finalizedBy now with
        | error e => exact h
        | ok r =>
          obtain ⟨report, event⟩ := r
          have hsame : report.id = old.id ∧ report.tenantId = old.tenantId := by
            unfold Report.finalize at hf
            split at hf
            · cases hf
            · cases hf; exact ⟨rfl, rfl⟩
          refine h.save hsame.2 fun old' hold' => ?_
          rw [hsame.1, Lib.Table.get_of_mem (Lib.Table.mem_of_get hg)] at hold'
          cases hold'
          rfl
      · rw [Option.filter_some, if_neg (by simpa using hown)]
        simp only [ne_eq, hown, not_false_eq_true, if_true]
        exact h

theorem Purged.step_other (h : Purged tenantId db db') (hfresh : db.Fresh c)
    (hc : c.tenantId ≠ tenantId) : Purged tenantId (db.step c) db' := by
  have hstep := rowsStep db c
  unfold Purged at h ⊢
  generalize db.step c = db₁ at hstep
  rw [h]
  cases hstep with
  | @generated T A _ _ _ _ _ row hid hfile hrows =>
    have hT : row.tenantId = T := congrArg Prod.fst hfile
    rw [hrows, Lib.Table.put_rows_of_fresh (hfresh _ (by rw [hid]; rfl)), List.filter_append]
    have hne : T ≠ tenantId := hc
    simp [hT, hne]
  | @finalized T _ _ _ _ old row hold hown hrows hid hfile =>
    have hT : row.tenantId = old.tenantId := congrArg Prod.fst hfile
    have hne : T ≠ tenantId := hc
    rw [hrows, Lib.Table.filter_put_rows, if_neg]
    · simpa [hT, hown] using hne
    · intro old' hold'
      rw [hid, Lib.Table.get_of_mem (Lib.Table.mem_of_get hold)] at hold'
      cases hold'
      rw [hT]
  | refused => rfl

/-- What others do leaves no trace among a tenant's rows. -/
theorem run_purged (h : FreshIds history) (tenantId : TenantId) :
    Purged tenantId (run history) (run (ofTenant tenantId history)) := by
  have hmine : ∀ db db' c, Purged tenantId db db' → Db.Fresh db c →
      decide (c.tenantId = tenantId) = true → Purged tenantId (Db.step db c) (Db.step db' c) :=
    fun _ _ _ hp hfresh hc => hp.step_mine hfresh (of_decide_eq_true hc)
  have hother : ∀ db db' c, Purged tenantId db db' → Db.Fresh db c →
      ¬ decide (c.tenantId = tenantId) = true → Purged tenantId (Db.step db c) db' :=
    fun _ _ _ hp hfresh hc => hp.step_other hfresh fun heq => hc (decide_eq_true heq)
  have hempty : Purged tenantId .empty .empty := rfl
  exact Lib.unwinding hmine hother hempty (fresh_run h)

end Purge

/-! ### Results -/

section Results

variable {history : List Command} {db : Db} {tenantId : TenantId} {r : Report}

/-- A report is listed iff its version is the tenant's latest on an assessment the tenant has reports
    on. -/
theorem mem_listLatest : r ∈ db.listLatestByTenant tenantId ↔ r ∈ db.reports.rows ∧
    r.version = db.maxVersion tenantId r.assessmentId.id ∧
    ∃ r' ∈ db.reports.rows, r'.tenantId = tenantId ∧ r'.assessmentId.id = r.assessmentId.id := by
  simp only [Db.listLatestByTenant, Db.latestVersions, List.mem_flatMap, List.mem_map,
    List.mem_filter, List.mem_dedup, decide_eq_true_eq]
  constructor
  · rintro ⟨r₀, hr₀, ⟨A, v⟩, ⟨⟨A', ⟨r', hr', hA'⟩, heq⟩, hA, hv⟩, rfl⟩
    cases heq
    exact ⟨hr₀, by rw [hv, hA], r', hr'.1, hr'.2, hA'.trans hA.symm⟩
  · rintro ⟨hr, hv, r', hr', hT, hA⟩
    exact ⟨r, hr, (_, _), ⟨⟨_, ⟨r', ⟨hr', hT⟩, hA⟩, rfl⟩, rfl, hv⟩, rfl⟩

/-- Every report was generated by its tenant. -/
theorem run_generated (h : FreshIds history) (hr : r ∈ (run history).reports.rows) :
    ∃ c ∈ history, c.Generates r.tenantId r.assessmentId.id := by
  obtain ⟨h1, hle⟩ := (run_filed h).mp ⟨r, hr, rfl⟩
  exact List.countP_pos_iff.mp (h1.trans hle)

/-- On unshared assessments the dashboard lists the tenant's own reports. -/
theorem own_of_unshared (h : FreshIds history) (hun : Unshared history) :
    ∀ r ∈ (run history).listLatestByTenant tenantId, r.tenantId = tenantId := by
  intro r hr
  obtain ⟨hr, _, r', hr', hT, hA⟩ := mem_listLatest.mp hr
  obtain ⟨c, hc, hgen⟩ := run_generated h hr
  obtain ⟨c', hc', hgen'⟩ := run_generated h hr'
  rw [hA] at hgen'
  exact (hun c hc c' hc' _ _ _ hgen hgen').trans hT

/-- A tenant's dashboard is computed from its rows when it lists nothing else. -/
theorem listLatest_purged {db' : Db} (h : Purged tenantId db db')
    (hown : ∀ r ∈ db.listLatestByTenant tenantId, r.tenantId = tenantId) :
    db.listLatestByTenant tenantId = db'.listLatestByTenant tenantId := by
  have hlatest : db'.latestVersions tenantId = db.latestVersions tenantId := by
    rw [Db.latestVersions, Db.latestVersions, h, List.filter_filter]
    simp only [Bool.and_self, Db.maxVersion, h.versions]
  unfold Db.listLatestByTenant at hown ⊢
  rw [hlatest, h]
  generalize db.latestVersions tenantId = latest at hown
  generalize db.reports.rows = rows at hown
  induction rows with
  | nil => rfl
  | cons r rows ih =>
    rw [List.flatMap_cons] at hown
    simp only [List.mem_append] at hown
    rw [List.flatMap_cons, ih fun r' hr' => hown r' (Or.inr hr'), List.filter_cons]
    split
    · rfl
    · next hne =>
      -- a row of another tenant is not joined
      have hnil : (latest.filter fun l =>
          r.assessmentId.id = l.1 ∧ r.version = l.2) = [] := by
        by_contra hcon
        obtain ⟨x, hx⟩ := List.exists_mem_of_ne_nil _ hcon
        exact hne (decide_eq_true (hown r (Or.inl (List.mem_map.mpr ⟨x, hx, rfl⟩))))
      rw [hnil, List.map_nil, List.nil_append]

/-- The dashboards of all tenants are isolated iff no two of them have generated reports on one
    assessment. -/
theorem isolated_iff (h : FreshIds history) :
    (∀ tenantId, Isolated history tenantId) ↔ Unshared history := by
  constructor
  · intro hiso c hc c' hc' T T' A hgen hgen'
    by_contra hne
    -- the one with fewer reports on it sees a report of the other
    have hleak : ∀ T T', T ≠ T' → 1 ≤ history.countP (Command.Generates T A) →
        history.countP (Command.Generates T A) ≤ history.countP (Command.Generates T' A) →
        False := by
      intro T T' hne hpos hle
      obtain ⟨r, hr, hfile⟩ := (run_filed h).mpr ⟨hpos, hle⟩
      obtain ⟨r', hr', hfile'⟩ := (run_filed h).mpr ⟨hpos, le_refl _⟩
      simp only [Report.file, Prod.mk.injEq] at hfile hfile'
      have hmem : r ∈ (run history).listLatestByTenant T := mem_listLatest.mpr
        ⟨hr, by rw [hfile.2.1, run_maxVersion h, hfile.2.2],
          r', hr', hfile'.1, hfile'.2.1.trans hfile.2.1.symm⟩
      exact hne (((hiso T).own r hmem).symm.trans hfile.1)
    have hpos : 1 ≤ history.countP (Command.Generates T A) :=
      List.countP_pos_iff.mpr ⟨c, hc, hgen⟩
    have hpos' : 1 ≤ history.countP (Command.Generates T' A) :=
      List.countP_pos_iff.mpr ⟨c', hc', hgen'⟩
    rcases Nat.le_total (history.countP (Command.Generates T A))
      (history.countP (Command.Generates T' A)) with hle | hle
    · exact hleak T T' hne hpos hle
    · exact hleak T' T (Ne.symm hne) hpos' hle
  · intro hun T
    have hown : ∀ r ∈ (run history).listLatestByTenant T, r.tenantId = T :=
      own_of_unshared h hun
    exact ⟨hown, listLatest_purged (run_purged h T) hown⟩

/-- The readers find no assessment. -/
def notFound : Upstream :=
  ⟨.ok none, .ok [], .ok [], .ok [], .ok none⟩

/-- A tenant generates a report on its assessment, and another tenant names the same assessment. -/
def foreignReport : List Command := [
  .generateReport ⟨1⟩ ⟨"7", 7⟩ "user"
    { notFound with assessmentInfo := .ok (some ⟨"7", "River", "FLOOD", "VALIDATED", 0,
        none, none, none, none, none⟩) } ⟨1⟩ 0,
  .generateReport ⟨2⟩ ⟨"7", 7⟩ "user" notFound ⟨2⟩ 1]

theorem isolated_iff_sample :
    (∀ tenantId, Isolated foreignReport tenantId) ↔ Unshared foreignReport :=
  isolated_iff (by decide)

/-- The failed report of one tenant is on the dashboard of the other. -/
theorem foreign_listed : ¬ ∀ history : List Command, FreshIds history →
    ∀ tenantId, Isolated history tenantId := by
  intro h
  have hbad : ((run foreignReport).listLatestByTenant ⟨1⟩).any (fun r => r.tenantId = ⟨2⟩) = true := by
    decide +kernel
  obtain ⟨r, hr, hT⟩ := List.any_eq_true.mp hbad
  have hown := (h foreignReport (by decide) ⟨1⟩).own r hr
  rw [of_decide_eq_true hT] at hown
  cases hown

end Results

end GeoRisk.Reporting
