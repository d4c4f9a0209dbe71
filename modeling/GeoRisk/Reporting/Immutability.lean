import Mathlib
import GeoRisk.Lib.Runs
import GeoRisk.Reporting.Transactions

/-! Is a finalized report immutable? `finalize` refuses a report that is not a draft, but looks at the
    report it has loaded; the update at the commit asks nothing of the row. Two requests that load the
    same draft both finalize it, and the second overwrites who did it and when:

        load DRAFT ──────────────────────────▶ commit: FINALIZED by bob
                    load DRAFT ──▶ commit: FINALIZED by alice

    It is immutable, over any interleaving, exactly as long as no finalization commits over a row that
    is finalized already. -/

namespace GeoRisk.Reporting

abbrev ReportTrace (ι : Type) := Lib.Traced ι Db Unit (Except ReportingError Report)

/-- The report that a command finalizes. -/
def Command.finalizes : Command → Option ReportId
  | .generateReport .. => none
  | .finalizeReport _ reportId _ _ => some reportId.id

section Statement

variable {ι : Type} (commands : ι → Command)

/-- Every request is about to begin. -/
def reportStart (db : Db) : ReportTrace ι := .start (fun i => (commands i).txn) db

/-- The request has finalized the report. -/
def HasFinalized (s : ReportTrace ι) (i : ι) (id : ReportId) : Prop :=
  (commands i).finalizes = some id ∧ ∃ result, s.world.sessions i = .committed result

/-- No report has been finalized by two requests. -/
def FinalizedOnce (s : ReportTrace ι) : Prop :=
  ∀ i j id, HasFinalized commands s i id → HasFinalized commands s j id → i = j

/-- If the step commits a finalization, the report is not finalized yet. -/
def FinalizesOpen (s : ReportTrace ι) (t : ι × Unit) : Prop :=
  ∀ write result id r, s.world.sessions t.1 = .running (.commit write result) →
    write s.world.db ≠ none → (commands t.1).finalizes = some id →
    s.world.db.reports.get id = some r → r.status ≠ .finalized

variable [DecidableEq ι]

/-- The step leaves the rows of finalized reports as they are. -/
def KeepsFinalized (s : ReportTrace ι) (t : ι × Unit) : Prop :=
  ∀ id r, s.world.db.reports.get id = some r → r.status = .finalized →
    (s.step t).world.db.reports.get id = some r

end Statement

/-! ### What a commit does to the rows -/

section Commit

variable {command : Command} {reads : List (Unit × Db)} {write : Db → Option Db}
  {result : Except ReportingError Report} {db db' : Db} {id : ReportId} {r r' : Report}

/-- A commit touches one row: it inserts one that is not finalized, or it finalizes one that its
    command has found a draft. -/
theorem Work.row (h : Work command reads write result) (hwrite : write db = some db') :
    ∃ row, db'.reports = db.reports.put row ∧
      ((command.finalizes = none ∧ db.reports.get row.id = none ∧ row.status ≠ .finalized) ∨
        (command.finalizes = some row.id ∧ row.status = .finalized ∧
          (∃ old, db.reports.get row.id = some old) ∧
          ∃ x ∈ reads, ∃ loaded, x.2.reports.get row.id = some loaded ∧ loaded.status = .draft)) := by
  cases h with
  | @generate tenantId assessmentId issuedBy upstream id now seen report event hreport =>
    obtain ⟨-, -, -, -, hstatus⟩ := reportFor_spec (congrArg Prod.fst hreport)
    unfold Db.insert at hwrite
    split at hwrite
    · cases hwrite
    · next hfresh =>
      cases hwrite
      refine ⟨report.toRow, rfl, Or.inl ⟨rfl, ?_, hstatus⟩⟩
      exact Option.not_isSome_iff_eq_none.mp hfresh
  | @finalize tenantId reportId finalizedBy now seen loaded event hload hdraft =>
    have hkey := Lib.Table.key_of_get hload
    obtain ⟨current, hcurrent, rfl⟩ := Option.map_eq_some_iff.mp hwrite
    have hid := Lib.Table.key_of_get hcurrent
    refine ⟨_, rfl, Or.inr ⟨?_, ?_, ⟨current, ?_⟩, _, List.mem_singleton_self _, loaded, ?_, hdraft⟩⟩
    · exact congrArg some (hkey.symm.trans hid.symm)
    · simp [Report.flush, Report.asFinalized, Lib.flushed, hdraft]
    · exact hid.symm ▸ hcurrent
    · exact (hid.trans hkey).symm ▸ hload

/-- A report that is finalized stays so. -/
theorem Work.finalized_later (h : Work command reads write result) (hwrite : write db = some db')
    (hget : db.reports.get id = some r) (hr : r.status = .finalized) :
    ∃ r', db'.reports.get id = some r' ∧ r'.status = .finalized := by
  obtain ⟨row, hrow, hcase⟩ := h.row hwrite
  rw [hrow, Lib.Table.get_put]
  split
  · next hid =>
    subst hid
    rcases hcase with ⟨-, hfresh, -⟩ | ⟨-, hstatus, -⟩
    · rw [hfresh] at hget; cases hget
    · exact ⟨row, rfl, hstatus⟩
  · exact ⟨r, hget, hr⟩

/-- A report that has become finalized was finalized by the command. -/
theorem Work.finalized_new (h : Work command reads write result) (hwrite : write db = some db')
    (hget : db'.reports.get id = some r') (hr' : r'.status = .finalized)
    (hnot : ∀ r, db.reports.get id = some r → r.status ≠ .finalized) :
    command.finalizes = some id := by
  obtain ⟨row, hrow, hcase⟩ := h.row hwrite
  rw [hrow, Lib.Table.get_put] at hget
  split at hget
  · next hid =>
    cases hget
    rcases hcase with ⟨-, -, hstatus⟩ | ⟨hfinalizes, -⟩
    · exact absurd hr' hstatus
    · rw [hid]; exact hfinalizes
  · exact absurd hr' (hnot r' hget)

/-- A finalization leaves its report finalized. -/
theorem Work.finalizes (h : Work command reads write result) (hwrite : write db = some db')
    (hid : command.finalizes = some id) :
    ∃ r, db'.reports.get id = some r ∧ r.status = .finalized := by
  obtain ⟨row, hrow, hcase⟩ := h.row hwrite
  rcases hcase with ⟨hnone, -⟩ | ⟨hsome, hstatus, -⟩
  · rw [hnone] at hid; cases hid
  · obtain rfl := Option.some.inj (hsome.symm.trans hid)
    exact ⟨row, by rw [hrow, Lib.Table.get_put_self], hstatus⟩

end Commit

/-! ### What holds in every interleaving -/

section Interleaving

variable {ι : Type} {commands : ι → Command} {s : ReportTrace ι}

/-- The sessions end in their work; a report that has been finalized is stored so; and one that was
    read as a draft and is finalized now was finalized by a request. -/
structure Finalizing (commands : ι → Command) (s : ReportTrace ι) : Prop where
  ending : s.Ending (fun i => Work (commands i)) fun _ _ => True
  stored : ∀ i id, HasFinalized commands s i id →
    ∃ r, s.world.db.reports.get id = some r ∧ r.status = .finalized
  reads : s.Reads fun _ d => ∀ id loaded r, d.reports.get id = some loaded → loaded.status = .draft →
    s.world.db.reports.get id = some r → r.status = .finalized → ∃ j, HasFinalized commands s j id

theorem finalizing_start (db : Db) : Finalizing commands (reportStart commands db) where
  ending := Lib.Traced.ending_start db fun i => command_ends (commands i)
  stored := by rintro i id ⟨-, result, hi⟩; cases hi
  reads := by intro j r hr; cases hr

variable [DecidableEq ι]

/-- What a step does: nothing to rows and committed requests, or a commit of some work. -/
theorem Finalizing.step_cases (h : Finalizing commands s) (t : ι × Unit) :
    ((¬ ∃ write result, s.world.sessions t.1 = .running (.commit write result) ∧
        write s.world.db ≠ none) ∧
      (s.step t).world.db = s.world.db ∧
      ∀ i id, HasFinalized commands (s.step t) i id ↔ HasFinalized commands s i id) ∨
    ∃ write result, s.world.sessions t.1 = .running (.commit write result) ∧
      Work (commands t.1) (s.reads t.1) write result ∧
      write s.world.db = some (s.step t).world.db ∧
      ∀ i id, HasFinalized commands (s.step t) i id ↔
        HasFinalized commands s i id ∨ (i = t.1 ∧ (commands i).finalizes = some id) := by
  by_cases hcommit : ∃ write result, s.world.sessions t.1 = .running (.commit write result) ∧
      write s.world.db ≠ none
  · obtain ⟨write, result, hi, hwrite⟩ := hcommit
    obtain ⟨db, hdb⟩ := Option.ne_none_iff_exists'.mp hwrite
    refine Or.inr ⟨write, result, hi, h.ending t.1 _ hi, ?_, fun i id => ?_⟩
    · rw [s.step_of_commit hi hdb]; exact hdb
    · unfold HasFinalized
      rw [s.step_of_commit hi hdb]
      rcases eq_or_ne i t.1 with rfl | hne
      · simp [hi]
      · simp [s.world.set_ne hne, hne]
  · obtain ⟨hsame, hquiet⟩ := s.step_of_no_commit hcommit
    refine Or.inl ⟨hcommit, hsame, fun i id => ?_⟩
    unfold HasFinalized
    simp only [hquiet]

theorem Finalizing.step (h : Finalizing commands s) (t : ι × Unit) :
    Finalizing commands (s.step t) := by
  have hending := h.ending.step t
  rcases h.step_cases t with ⟨-, hsame, hquiet⟩ | ⟨write, result, hi, hwork, hwrite, hcommit⟩
  · refine ⟨hending, fun i id hfinal => ?_, h.reads.step t (fun j d hd => ?_) fun j => ?_⟩
    · rw [hsame]; exact h.stored i id ((hquiet i id).mp hfinal)
    · intro id loaded r hload hdraft hr hfinal
      rw [hsame] at hr
      obtain ⟨k, hk⟩ := hd id loaded r hload hdraft hr hfinal
      exact ⟨k, (hquiet k id).mpr hk⟩
    · intro id loaded r hload hdraft hr hfinal
      rw [hsame, hload] at hr
      cases hr
      rw [hdraft] at hfinal
      cases hfinal
  · -- a report that was not finalized and is now has been finalized by this commit
    have hnew : ∀ id r', (s.step t).world.db.reports.get id = some r' → r'.status = .finalized →
        (∀ r, s.world.db.reports.get id = some r → r.status ≠ .finalized) →
        ∃ j, HasFinalized commands (s.step t) j id := fun id r' hget hr' hnot =>
      ⟨t.1, (hcommit _ id).mpr (Or.inr ⟨rfl, hwork.finalized_new hwrite hget hr' hnot⟩)⟩
    refine ⟨hending, fun i id hfinal => ?_, h.reads.step t (fun j d hd => ?_) fun j => ?_⟩
    · rcases (hcommit i id).mp hfinal with hold | ⟨rfl, hid⟩
      · obtain ⟨r, hr, hstatus⟩ := h.stored i id hold
        exact hwork.finalized_later hwrite hr hstatus
      · exact hwork.finalizes hwrite hid
    · intro id loaded r' hload hdraft hr' hfinal
      by_cases hold : ∃ r, s.world.db.reports.get id = some r ∧ r.status = .finalized
      · obtain ⟨r, hr, hstatus⟩ := hold
        obtain ⟨k, hk⟩ := hd id loaded r hload hdraft hr hstatus
        exact ⟨k, (hcommit k id).mpr (Or.inl hk)⟩
      · exact hnew id r' hr' hfinal fun r hr hstatus => hold ⟨r, hr, hstatus⟩
    · intro id loaded r' hload hdraft hr' hfinal
      refine hnew id r' hr' hfinal fun r hr hstatus => ?_
      rw [hload] at hr
      cases hr
      rw [hdraft] at hstatus
      cases hstatus

/-- A commit over a report that is finalized already is a second one. -/
theorem Finalizing.finalizesOpen (h : Finalizing commands s) {t : ι × Unit}
    (honce : FinalizedOnce commands (s.step t)) : FinalizesOpen commands s t := by
  rintro write result id r hi hwrite hid hr hfinal
  rcases h.step_cases t with ⟨hquiet, -⟩ | ⟨write', result', -, hwork, hwrite', hcommit⟩
  · exact hquiet ⟨write, result, hi, hwrite⟩
  · obtain ⟨row, hrow, hcase⟩ := hwork.row hwrite'
    rcases hcase with ⟨hnone, -⟩ | ⟨hsome, -, -, x, hx, loaded, hload, hdraft⟩
    · rw [hnone] at hid; cases hid
    · obtain rfl := Option.some.inj (hsome.symm.trans hid)
      -- the command read a draft, so it was another that finalized the report
      obtain ⟨j, hj⟩ := h.reads t.1 x hx _ loaded r hload hdraft hr hfinal
      have hsecond : HasFinalized commands (s.step t) t.1 row.id := (hcommit _ _).mpr (Or.inr ⟨rfl, hsome⟩)
      obtain rfl := honce j t.1 row.id ((hcommit _ _).mpr (Or.inl hj)) hsecond
      obtain ⟨-, result'', hcommitted⟩ := hj
      rw [hi] at hcommitted
      cases hcommitted

/-- Step lemma: a step keeps every report finalized once iff it does not finalize one again. -/
theorem Finalizing.once_step_iff (h : Finalizing commands s) (honce : FinalizedOnce commands s)
    (t : ι × Unit) : FinalizedOnce commands (s.step t) ↔ FinalizesOpen commands s t := by
  refine ⟨h.finalizesOpen, fun hopen => ?_⟩
  rcases h.step_cases t with ⟨-, -, hquiet⟩ | ⟨write, result, hi, -, hwrite, hcommit⟩
  · intro i j id hi hj
    exact honce i j id ((hquiet i id).mp hi) ((hquiet j id).mp hj)
  · -- what has been finalized is stored so, and is not finalized now
    have hfresh : ∀ k id, HasFinalized commands s k id → (commands t.1).finalizes ≠ some id := by
      intro k id hk hid
      obtain ⟨r, hr, hfinal⟩ := h.stored k id hk
      exact hopen write result id r hi (by rw [hwrite]; exact Option.some_ne_none _) hid hr hfinal
    intro i j id hi hj
    rcases (hcommit i id).mp hi with hi | ⟨rfl, hid⟩
    · rcases (hcommit j id).mp hj with hj | ⟨rfl, hid⟩
      · exact honce i j id hi hj
      · exact absurd hid (hfresh i id hi)
    · rcases (hcommit j id).mp hj with hj | ⟨rfl, -⟩
      · exact absurd hid (hfresh j id hj)
      · rfl

/-- A step that does not finalize a report again leaves the finalized ones as they are. -/
theorem Finalizing.keepsFinalized (h : Finalizing commands s) {t : ι × Unit}
    (hopen : FinalizesOpen commands s t) : KeepsFinalized s t := by
  intro id r hr hfinal
  rcases h.step_cases t with ⟨-, hsame, -⟩ | ⟨write, result, hi, hwork, hwrite, -⟩
  · rw [hsame]; exact hr
  · obtain ⟨row, hrow, hcase⟩ := hwork.row hwrite
    rw [hrow, Lib.Table.get_put_of_ne _ ?_]
    · exact hr
    · rintro rfl
      rcases hcase with ⟨-, hfresh, -⟩ | ⟨hid, -⟩
      · rw [hfresh] at hr; cases hr
      · exact hopen write result row.id r hi (by rw [hwrite]; exact Option.some_ne_none _) hid hr hfinal

end Interleaving

/-- Over any interleaving, every report is finalized once and is not changed after that iff no
    finalization commits over a report that is finalized already. -/
theorem immutable_iff {ι : Type} [DecidableEq ι] (commands : ι → Command) (db : Db)
    (schedule : List (ι × Unit)) :
    (Lib.AllStates Lib.Traced.step (FinalizedOnce commands) (reportStart commands db) schedule ∧
        Lib.AllSteps Lib.Traced.step KeepsFinalized (reportStart commands db) schedule) ↔
      Lib.AllSteps Lib.Traced.step (FinalizesOpen commands) (reportStart commands db) schedule := by
  have hstart : Finalizing commands (reportStart commands db) := finalizing_start db
  have honce : FinalizedOnce commands (reportStart commands db) := by
    rintro i j id ⟨-, result, hi⟩
    cases hi
  have hiff : Lib.AllStates Lib.Traced.step (FinalizedOnce commands) (reportStart commands db)
      schedule ↔
      Lib.AllSteps Lib.Traced.step (FinalizesOpen commands) (reportStart commands db) schedule :=
    Lib.allStates_iff_allSteps (J := Finalizing commands)
      (fun s t hJ hP => hJ.once_step_iff hP t) (fun s t hJ _ _ => hJ.step t) hstart honce
  rw [hiff]
  refine ⟨fun h => h.1, fun h => ⟨h, ?_⟩⟩
  exact Lib.AllSteps.imp_of_inv (fun s t hJ _ => hJ.step t) (fun s t hJ hopen => hJ.keepsFinalized hopen)
    hstart h

/-! ### Two finalizations -/

/-- A draft without sections. -/
def draft : Report where
  id := ⟨1⟩
  tenantId := ⟨1⟩
  assessmentId := ⟨UUID.str 1, 1⟩
  version := 1
  status := .draft
  generatedAt := 0
  issuedBy := "alice"

def draftDb : Db := { Db.empty with reports := Lib.Table.empty.put draft }

/-- Alice and Bob finalize it. -/
def finalizers : Bool → Command
  | false => .finalizeReport ⟨1⟩ ⟨UUID.str 1, ⟨1⟩⟩ "alice" 1
  | true => .finalizeReport ⟨1⟩ ⟨UUID.str 1, ⟨1⟩⟩ "bob" 2

/-- Both load the draft, Alice commits, and then Bob. -/
def finalizedTwice : List (Bool × Unit) := [(false, ()), (true, ()), (false, ()), (true, ())]

/-- The report is Bob's in the end. -/
example : (((finalizedTwice.foldl Lib.Traced.step (reportStart finalizers draftDb)).world.db.reports.get
    ⟨1⟩).bind (·.finalizedBy)) = some "bob" := by
  decide

/-- Both succeed. -/
theorem finalized_twice : ¬ ∀ (commands : Bool → Command) (db : Db) (schedule : List (Bool × Unit)),
    Lib.AllStates Lib.Traced.step (FinalizedOnce commands) (reportStart commands db) schedule ∧
      Lib.AllSteps Lib.Traced.step KeepsFinalized (reportStart commands db) schedule := by
  intro h
  have hlast := (h finalizers draftDb finalizedTwice).1.last
  have hboth : ∀ i, HasFinalized finalizers
      (finalizedTwice.foldl Lib.Traced.step (reportStart finalizers draftDb)) i ⟨1⟩ := by
    rintro (_ | _) <;> exact ⟨rfl, _, rfl⟩
  cases hlast false true ⟨1⟩ (hboth false) (hboth true)

end GeoRisk.Reporting
