import GeoRisk.Lib.Runs
import GeoRisk.Lib.Traces
import GeoRisk.Analysis.Handlers

/-! What a recorded result was computed from. A stage takes its inputs from an upload, or from the latest
    results of the stages before; a stage that is compared with a history takes it from one read:

        upload ─┐                        history (one read)
                ├─▶ inputs ─▶ compute ◀─┘
        latest ─┘                 └─▶ COMPLETE: indicators, confidence, {inputs, indicators}, count

    Rows are never taken back, so whatever the interleaving, what a result was computed from can be
    found among the rows again. -/

namespace GeoRisk.Analysis

/-! ### Sources -/

/-- The indicators of a prior stage, given to the next under its keys. -/
def givenOf (indicatorMap : List (String × String)) (indicators : IndicatorSet) (inputs : Inputs) :
    Inputs :=
  indicatorMap.foldl (fun d (sourceCode, targetKey) =>
    setItem d targetKey ((indicators.value sourceCode).elim .null .float)) inputs

section Sources

variable (c : RecordStageResult) (rows : List StageResult)

/-- Inputs that are taken from complete results of prior stages among some rows, one for each. -/
inductive Gathered : List (StageType × List (String × String)) → Inputs → Inputs → Prop where
  | nil (inputs : Inputs) : Gathered [] inputs inputs
  | cons {stageType indicatorMap rest inputs out r indicators} (hr : r ∈ rows)
      (hkey : r.key = { c.key with stageType }) (hstatus : r.status = .complete)
      (hindicators : r.indicators = some indicators)
      (hrest : Gathered rest (givenOf indicatorMap indicators inputs) out) :
      Gathered ((stageType, indicatorMap) :: rest) inputs out

/-- The inputs of a stage: the upload, or what the stages before have come to. -/
def GatheredInputs (strategy : HazardStrategy) (provided : Except String Inputs) (inputs : Inputs) :
    Prop :=
  (strategy.inputDependencies c.stageType = [] ∧ provided = .ok inputs) ∨
    (strategy.inputDependencies c.stageType ≠ [] ∧
      Gathered c rows (strategy.inputDependencies c.stageType) [] inputs)

/-- A row of a history: a complete result of the stage, for another assessment. -/
structure IsPast (r : StageResult) : Prop where
  tenant : r.tenantId = c.tenantId
  hazard : r.hazardType = c.hazardType
  stage : r.stageType = c.stageType
  status : r.status = .complete
  assessment : r.assessmentId.id ≠ c.assessmentId.id

/-- A history among some rows; none for a stage that is not compared with one. -/
structure HistoryOf (strategy : HazardStrategy) (historical : List Inputs) : Prop where
  past : ∀ inputs ∈ historical, ∃ r ∈ rows, IsPast c r ∧ r.snapshot.inputs = inputs
  length_le : historical.length ≤ 200
  none : c.stageType ∉ strategy.historicalStages → historical = []

/-- A result is what its calculator made of inputs and a history, which are recorded with it. -/
structure ComputedFrom (strategy : HazardStrategy) (calculator : StageCalculator) (inputs : Inputs)
    (historical : List Inputs) (r : StageResult) (indicators : IndicatorSet) : Prop where
  compute : calculator.compute ⟨inputs, historical, 0⟩ = .ok indicators
  status : r.status = .complete
  written : r.indicators = some indicators
  confidence : r.confidenceTier = some (confidenceTierForSampleSize (historical.length + 1))
  snapshot : r.snapshot = ⟨inputs.update indicators.asDict, [], historical.length⟩
  strategyVersion : r.strategyVersion = some strategy.strategyVersion
  formulaVersion : r.formulaVersion = some calculator.formulaVersion

/-- A failed result, or one that was computed from what is among some rows. -/
inductive Recorded (registry : StrategyRegistry) (provided : Except String Inputs)
    (r : StageResult) : Prop where
  | failed (hstatus : r.status = .failed)
  | complete {strategy calculator inputs historical indicators}
      (hstrategy : registry.getStrategy c.hazardType = .ok strategy)
      (hcalculator : registry.resolve c.hazardType c.stageType = .ok calculator)
      (hinputs : GatheredInputs c rows strategy provided inputs)
      (hhistory : HistoryOf c rows strategy historical)
      (hcomputed : ComputedFrom strategy calculator inputs historical r indicators)

end Sources

section More

variable {c : RecordStageResult} {rows rows' : List StageResult}

theorem Gathered.mono (hrows : rows ⊆ rows') {dependencies : List (StageType × List (String × String))}
    {inputs out : Inputs} (h : Gathered c rows dependencies inputs out) :
    Gathered c rows' dependencies inputs out := by
  induction h with
  | nil inputs => exact .nil inputs
  | cons hr hkey hstatus hindicators _ ih => exact .cons (hrows hr) hkey hstatus hindicators ih

theorem GatheredInputs.mono (hrows : rows ⊆ rows') {strategy : HazardStrategy}
    {provided : Except String Inputs} {inputs : Inputs}
    (h : GatheredInputs c rows strategy provided inputs) :
    GatheredInputs c rows' strategy provided inputs :=
  h.imp_right (And.imp_right (Gathered.mono hrows))

/-- What was found among the rows is found among more. -/
theorem Recorded.mono (hrows : rows ⊆ rows') {registry : StrategyRegistry}
    {provided : Except String Inputs} {r : StageResult} (h : Recorded c rows registry provided r) :
    Recorded c rows' registry provided r := by
  cases h with
  | failed hstatus => exact .failed hstatus
  | complete hstrategy hcalculator hinputs hhistory hcomputed =>
    refine .complete hstrategy hcalculator (hinputs.mono hrows)
      ⟨fun inputs hin => ?_, hhistory.2, hhistory.3⟩ hcomputed
    obtain ⟨r, hr, hpast⟩ := hhistory.1 inputs hin
    exact ⟨r, hrows hr, hpast⟩

end More

/-! ### The history and the latest result -/

section Queries

variable {db : Db} {c : RecordStageResult}

theorem getLatest_spec {key : StageKey} {r : StageResult} (h : db.getLatest key = some r) :
    r ∈ db.stageResults.rows ∧ r.key = key ∧ r.status = .complete := by
  simpa using List.argmax_mem h

theorem listHistoricalIndicators_spec {inputs : Inputs}
    (h : inputs ∈ db.listHistoricalIndicators c) :
    ∃ r ∈ db.stageResults.rows, IsPast c r ∧ r.snapshot.inputs = inputs := by
  obtain ⟨r, hr, rfl⟩ := List.mem_map.mp h
  have hr := (List.mem_insertionSort _).mp (List.mem_of_mem_take hr)
  simp only [List.mem_filter, decide_eq_true_eq] at hr
  exact ⟨r, hr.1, ⟨hr.2.1, hr.2.2.1, hr.2.2.2.1, hr.2.2.2.2.1, hr.2.2.2.2.2⟩, rfl⟩

theorem listHistoricalIndicators_length : (db.listHistoricalIndicators c).length ≤ 200 := by
  rw [Db.listHistoricalIndicators, List.length_map]
  exact List.length_take_le ..

end Queries

/-! ### The handler -/

section Handler

variable {registry : StrategyRegistry} {c : RecordStageResult} {provided : Except String Inputs}
  {id : StageResultId} {now : Timestamp} {reads : List (Unit × Db)}

/-- The rows that were there at the reads. -/
def rowsOf (reads : List (Unit × Db)) : List StageResult :=
  reads.flatMap fun r => r.2.stageResults.rows

theorem rowsOf_mono {reads' : List (Unit × Db)} (h : reads ⊆ reads') :
    rowsOf reads ⊆ rowsOf reads' := by
  intro r hr
  obtain ⟨x, hx, hr⟩ := List.mem_flatMap.mp hr
  exact List.mem_flatMap.mpr ⟨x, h hx, hr⟩

theorem mem_rowsOf {db : Db} {r : StageResult} (h : ((), db) ∈ reads)
    (hr : r ∈ db.stageResults.rows) : r ∈ rowsOf reads := List.mem_flatMap.mpr ⟨_, h, hr⟩

/-- A commit that inserts a result of the command, recorded of what was read. -/
def Records (registry : StrategyRegistry) (c : RecordStageResult) (provided : Except String Inputs)
    (id : StageResultId) (reads : List (Unit × Db)) (write : Db → Option Db)
    (result : Except AnalysisError Reply) : Prop :=
  ∃ r event now, result = .ok (.stageResult r) ∧ write = Db.insertResult r event now ∧
    r.id = id ∧ r.key = c.key ∧ r.hazardType = c.hazardType ∧
    Recorded c (rowsOf reads) registry provided r

theorem drawResult_records {build : ℕ → StageResult × AnalysisEvent}
    (h : ∀ version, (build version).1.id = id ∧ (build version).1.key = c.key ∧
      (build version).1.hazardType = c.hazardType ∧
      Recorded c (rowsOf reads) registry provided (build version).1) :
    (drawResult c build now).Ends (Records registry c provided id) (fun _ => True) reads := by
  intro x db
  obtain ⟨hid, hkey, hhazard, hrecorded⟩ := h (db.nextResultVersion c.key)
  refine ⟨_, _, _, rfl, rfl, hid, hkey, hhazard, hrecorded.mono (rowsOf_mono ?_)⟩
  exact List.subset_append_left _ _

theorem recordFailure_records (strategy : Option HazardStrategy)
    (calculator : Option StageCalculator) (error : String) :
    (recordFailure c strategy calculator error id now).Ends (Records registry c provided id)
      (fun _ => True) reads :=
  drawResult_records fun _ => ⟨rfl, rfl, rfl, .failed rfl⟩

/-- The loop over the stages before: it goes on with inputs that were gathered, or with an error. -/
theorem gatherDependencies_spec {C : List (Unit × Db) → (Db → Option Db) →
      Except AnalysisError Reply → Prop} {R : Except AnalysisError Reply → Prop}
    {dependencies : List (StageType × List (String × String))} {next : Except String Inputs → AnalysisTxn}
    (rest : List (StageType × List (String × String))) (inputs : Inputs) (missing : List StageType)
    (reads : List (Unit × Db))
    (hok : missing = [] → ∀ reads' out, reads ⊆ reads' →
      Gathered c (rowsOf reads') rest inputs out → (next (.ok out)).Ends C R reads')
    (herror : ∀ e reads', (next (.error e)).Ends C R reads') :
    (gatherDependencies c dependencies next rest inputs missing).Ends C R reads := by
  induction rest generalizing inputs missing reads with
  | nil =>
    unfold gatherDependencies
    split
    · next hmissing => exact hok hmissing reads inputs (List.Subset.refl _) (.nil inputs)
    · exact herror _ _
  | cons dependency rest ih =>
    intro x db
    dsimp only
    split
    · exact ih _ _ _ fun hmissing => absurd hmissing (by simp)
    · next indicators hfound =>
      obtain ⟨r, hr, hindicators⟩ := Option.bind_eq_some_iff.mp hfound
      obtain ⟨hmem, hkey, hstatus⟩ := getLatest_spec hr
      refine ih _ _ _ fun hmissing reads' out hsub hrest => ?_
      refine hok hmissing reads' out (fun y hy => hsub (List.mem_append_left _ hy)) ?_
      refine .cons (mem_rowsOf (hsub (List.mem_append_right _ (List.mem_singleton.mpr rfl))) hmem)
        hkey hstatus hindicators hrest

theorem gatherInputs_spec {C : List (Unit × Db) → (Db → Option Db) →
      Except AnalysisError Reply → Prop} {R : Except AnalysisError Reply → Prop}
    {strategy : HazardStrategy} {next : Except String Inputs → AnalysisTxn}
    (hok : ∀ reads' inputs, GatheredInputs c (rowsOf reads') strategy provided inputs →
      (next (.ok inputs)).Ends C R reads')
    (herror : ∀ e reads', (next (.error e)).Ends C R reads') :
    (gatherInputs c strategy provided next).Ends C R reads := by
  unfold gatherInputs
  dsimp only
  split
  · next hnone =>
    cases provided with
    | error e => exact herror e reads
    | ok inputs => exact hok reads inputs (.inl ⟨hnone, rfl⟩)
  · next hsome =>
    exact gatherDependencies_spec _ _ _ _
      (fun _ reads' out _ hgathered => hok reads' out (.inr ⟨hsome, hgathered⟩)) herror

theorem withHistory_spec {C : List (Unit × Db) → (Db → Option Db) →
      Except AnalysisError Reply → Prop} {R : Except AnalysisError Reply → Prop}
    {strategy : HazardStrategy} {next : List Inputs → AnalysisTxn}
    (h : ∀ reads' historical, reads ⊆ reads' → HistoryOf c (rowsOf reads') strategy historical →
      (next historical).Ends C R reads') : (withHistory c strategy next).Ends C R reads := by
  unfold withHistory
  split
  · next hstage =>
    intro x db
    refine h _ _ (List.subset_append_left _ _) ⟨fun inputs hin => ?_, listHistoricalIndicators_length,
      fun hnot => absurd hstage hnot⟩
    obtain ⟨r, hr, hpast⟩ := listHistoricalIndicators_spec hin
    exact ⟨r, mem_rowsOf (List.mem_append_right _ (List.mem_singleton.mpr rfl)) hr, hpast⟩
  · exact h reads [] (List.Subset.refl _) ⟨by simp, by simp, fun _ => rfl⟩

theorem recordStageResult_records :
    (recordStageResult registry c provided id now).Ends (Records registry c provided id)
      (fun _ => True) [] := by
  unfold recordStageResult
  split
  · exact recordFailure_records _ _ _
  · next strategy hstrategy =>
    split
    · exact recordFailure_records _ _ _
    · next calculator hcalculator =>
      refine gatherInputs_spec (fun reads inputs hinputs => ?_) fun e reads =>
        recordFailure_records _ _ _
      refine withHistory_spec fun reads' historical hsub hhistory => ?_
      dsimp only
      split
      · exact recordFailure_records _ _ _
      · next indicators hcompute =>
        exact drawResult_records fun version => ⟨rfl, rfl, rfl, .complete hstrategy hcalculator
          (hinputs.mono (rowsOf_mono hsub)) hhistory ⟨hcompute, rfl, rfl, rfl, rfl, rfl, rfl⟩⟩

end Handler

/-! ### Interleavings -/

section Interleavings

/-- What a commit of a command writes. -/
def Command.Commits : Command → List (Unit × Db) → (Db → Option Db) →
    Except AnalysisError Reply → Prop
  | .recordStageResult registry c provided id _ => Records registry c provided id
  | .generateRiskLayer .. => fun _ write _ => ∃ layer event now, write = Db.insertLayer layer event now

theorem generateRiskLayer_commits {buildRiskLayer : LayerBuilder} {c : GenerateRiskLayer}
    {id : RiskLayerId} {now : Timestamp} :
    (generateRiskLayer buildRiskLayer c id now).Ends
      (Command.generateRiskLayer buildRiskLayer c id now).Commits (fun _ => True) [] := by
  intro x db
  dsimp only
  split
  · trivial
  · split
    · trivial
    · split
      · trivial
      · split
        · split
          · trivial
          · trivial
          · intro y db'
            dsimp only
            split
            · trivial
            · exact ⟨_, _, _, rfl⟩
        · trivial

theorem command_commits (command : Command) :
    command.txn.Ends command.Commits (fun _ => True) [] := by
  cases command with
  | recordStageResult registry c provided id now => exact recordStageResult_records
  | generateRiskLayer buildRiskLayer c id now => exact generateRiskLayer_commits

/-- The results are there to stay. -/
def Db.ResultsKept (db db' : Db) : Prop := db.stageResults.rows ⊆ db'.stageResults.rows

/-- A result that goes in is added to those that were there. -/
theorem insertResult_rows {r : StageResult} {event : AnalysisEvent} {now : Timestamp} {db db' : Db}
    (h : Db.insertResult r event now db = some db') :
    db'.stageResults.rows = db.stageResults.rows ++ [r] := by
  unfold Db.insertResult at h
  split at h
  · cases h
  · next hfresh =>
    cases h
    exact Lib.Table.put_rows_of_fresh (Option.not_isSome_iff_eq_none.mp hfresh)

theorem insertLayer_rows {layer : RiskLayer} {event : AnalysisEvent} {now : Timestamp} {db db' : Db}
    (h : Db.insertLayer layer event now db = some db') : db'.stageResults = db.stageResults := by
  unfold Db.insertLayer at h
  split at h
  · cases h
  · cases h
    rfl

/-- A result as one of the commands has recorded it, of what is among the rows. -/
def Provenance {ι : Type} (commands : ι → Command) (rows : List StageResult) (r : StageResult) :
    Prop :=
  ∃ i registry c provided id now, commands i = .recordStageResult registry c provided id now ∧
    r.id = id ∧ r.key = c.key ∧ r.hazardType = c.hazardType ∧ Recorded c rows registry provided r

theorem Provenance.mono {ι : Type} {commands : ι → Command} {rows rows' : List StageResult}
    (hrows : rows ⊆ rows') {r : StageResult} (h : Provenance commands rows r) :
    Provenance commands rows' r := by
  obtain ⟨i, registry, c, provided, id, now, hi, hid, hkey, hhazard, hrecorded⟩ := h
  exact ⟨i, registry, c, provided, id, now, hi, hid, hkey, hhazard, hrecorded.mono hrows⟩

variable {ι : Type} [DecidableEq ι] {commands : ι → Command}

/-- What every state of an interleaving keeps. -/
structure Accounted (commands : ι → Command) (s : Lib.Traced ι Db Unit (Except AnalysisError Reply)) :
    Prop where
  tracked : s.Tracked (fun i => (commands i).Commits) (fun _ _ => True) (fun _ => True)
    Db.ResultsKept
  rows : ∀ r ∈ s.world.db.stageResults.rows,
    Provenance commands s.world.db.stageResults.rows r

theorem commits_kept {command : Command} {reads : List (Unit × Db)} {write : Db → Option Db}
    {result : Except AnalysisError Reply} {db db' : Db} (h : command.Commits reads write result)
    (hwrite : write db = some db') : db.ResultsKept db' := by
  cases command with
  | recordStageResult registry c provided id now =>
    obtain ⟨r, event, now, -, rfl, -⟩ := h
    rw [Db.ResultsKept, insertResult_rows hwrite]
    exact List.subset_append_left _ _
  | generateRiskLayer =>
    obtain ⟨layer, event, now, rfl⟩ := h
    rw [Db.ResultsKept, insertLayer_rows hwrite]
    exact List.Subset.refl _

theorem Accounted.step {s : Lib.Traced ι Db Unit (Except AnalysisError Reply)}
    (h : Accounted commands s) (t : ι × Unit) : Accounted commands (s.step t) := by
  have htracked := h.tracked.step (fun _ => List.Subset.refl _) List.Subset.trans
    (fun _ _ _ _ _ _ hC _ _ _ hwrite => ⟨trivial, commits_kept hC hwrite⟩) t
  refine ⟨htracked, ?_⟩
  rw [Lib.Traced.step_world]
  rcases s.world.step_commit_or_quiet t with ⟨write, result, db', hi, hwrite, hstep⟩ | ⟨hsame, -⟩
  · have hC := h.tracked.ending t.1 _ hi
    have hkept : s.world.db.ResultsKept db' := commits_kept hC hwrite
    rw [hstep]
    intro r hr
    change r ∈ db'.stageResults.rows at hr
    change Provenance commands db'.stageResults.rows r
    cases hcommand : commands t.1 with
    | recordStageResult registry c provided id now =>
      rw [hcommand] at hC
      obtain ⟨r', event, now', -, rfl, hid, hkey, hhazard, hrecorded⟩ := hC
      rw [insertResult_rows hwrite] at hr
      rcases List.mem_append.mp hr with hr | hr
      · exact (h.rows r hr).mono hkept
      · obtain rfl := List.mem_singleton.mp hr
        refine ⟨t.1, registry, c, provided, id, now, hcommand, hid, hkey, hhazard,
          hrecorded.mono fun x hx => ?_⟩
        -- what was read has been kept
        obtain ⟨y, hy, hx⟩ := List.mem_flatMap.mp hx
        exact hkept ((h.tracked.reads t.1 y hy).2 hx)
    | generateRiskLayer buildRiskLayer c id now =>
      rw [hcommand] at hC
      obtain ⟨layer, event, now, rfl⟩ := hC
      rw [insertLayer_rows hwrite] at hr ⊢
      exact h.rows r hr
  · rw [hsame]
    exact h.rows

theorem accounted_run (commands : ι → Command) (ts : List (ι × Unit)) :
    Accounted commands (ts.foldl Lib.Traced.step
      (.start (fun i => (commands i).txn) .empty)) := by
  refine Lib.inv_foldl (P := Accounted commands) (fun s t h => h.step t) ts ⟨?_, ?_⟩
  · exact Lib.Traced.tracked_start trivial fun i => command_commits (commands i)
  · intro r hr
    cases hr

theorem Accounted.kept {s : Lib.Traced ι Db Unit (Except AnalysisError Reply)}
    (h : Accounted commands s) (t : ι × Unit) :
    s.world.db.ResultsKept (s.world.step t).db :=
  (h.tracked.evolves (fun _ => List.Subset.refl _)
    (fun _ _ _ _ _ _ hC _ _ _ hwrite => ⟨trivial, commits_kept hC hwrite⟩) t).2

/-- What the commands that record results have returned is in the tables, and nothing else is. -/
structure Answered (commands : ι → Command)
    (s : Lib.Traced ι Db Unit (Except AnalysisError Reply)) : Prop where
  result : ∀ i registry c provided id now,
    commands i = .recordStageResult registry c provided id now →
    ∀ result, s.world.sessions i = .committed result → ∃ r ∈ s.world.db.stageResults.rows,
      result = .ok (.stageResult r) ∧ r.id = id ∧ r.key = c.key ∧ r.hazardType = c.hazardType ∧
      Recorded c s.world.db.stageResults.rows registry provided r
  row : ∀ r ∈ s.world.db.stageResults.rows,
    ∃ i, s.world.sessions i = .committed (.ok (.stageResult r))

omit [DecidableEq ι] in
/-- A commit leaves the answers of the other sessions, and answers with what it has put in. -/
theorem Answered.commit {s s' : Lib.Traced ι Db Unit (Except AnalysisError Reply)} {i : ι}
    {write : Db → Option Db} {result : Except AnalysisError Reply}
    (h : Answered commands s) (hrunning : s.world.sessions i = .running (.commit write result))
    (hcommits : (commands i).Commits (s.reads i) write result)
    (hreads : ∀ x ∈ s.reads i, x.2.ResultsKept s'.world.db)
    (hwrite : write s.world.db = some s'.world.db) (hself : s'.world.sessions i = .committed result)
    (hother : ∀ j ≠ i, s'.world.sessions j = s.world.sessions j) : Answered commands s' := by
  have hkept : s.world.db.ResultsKept s'.world.db := commits_kept hcommits hwrite
  refine ⟨fun j registry c provided id now hj result' hresult => ?_, fun r hr => ?_⟩
  · rcases eq_or_ne j i with rfl | hne
    · rw [hself] at hresult
      obtain rfl := Lib.Session.committed.inj hresult
      rw [hj] at hcommits
      obtain ⟨r, event, now', rfl, rfl, hid, hkey, hhazard, hrecorded⟩ := hcommits
      refine ⟨r, ?_, rfl, hid, hkey, hhazard, hrecorded.mono fun x hx => ?_⟩
      · rw [insertResult_rows hwrite]
        exact List.mem_append_right _ (List.mem_singleton.mpr rfl)
      · obtain ⟨y, hy, hx⟩ := List.mem_flatMap.mp hx
        exact hreads y hy hx
    · rw [hother j hne] at hresult
      obtain ⟨r, hr, heq, hid, hkey, hhazard, hrecorded⟩ :=
        h.result j registry c provided id now hj result' hresult
      exact ⟨r, hkept hr, heq, hid, hkey, hhazard, hrecorded.mono hkept⟩
  · -- a row from before has its session still; the new one has this session
    have hold : r ∈ s.world.db.stageResults.rows →
        ∃ j, s'.world.sessions j = .committed (.ok (.stageResult r)) := by
      intro hr
      obtain ⟨j, hj⟩ := h.row r hr
      refine ⟨j, ?_⟩
      rw [hother j ?_, hj]
      rintro rfl
      rw [hrunning] at hj
      cases hj
    cases hcommand : commands i with
    | recordStageResult registry c provided id now =>
      rw [hcommand] at hcommits
      obtain ⟨r', event, now', rfl, rfl, -⟩ := hcommits
      rw [insertResult_rows hwrite] at hr
      rcases List.mem_append.mp hr with hr | hr
      · exact hold hr
      · rw [List.mem_singleton.mp hr]
        exact ⟨i, hself⟩
    | generateRiskLayer buildRiskLayer c id now =>
      rw [hcommand] at hcommits
      obtain ⟨layer, event, now', rfl⟩ := hcommits
      rw [insertLayer_rows hwrite] at hr
      exact hold hr

theorem Answered.step {s : Lib.Traced ι Db Unit (Except AnalysisError Reply)}
    (h : Answered commands s) (haccounted : Accounted commands s) (t : ι × Unit) :
    Answered commands (s.step t) := by
  have hkept := haccounted.kept t
  rw [← Lib.Traced.step_world] at hkept
  have hworld := s.step_world t
  rcases s.world.step_commit_or_quiet t with ⟨write, result, db', ht, hwrite, hstep⟩ | ⟨hsame, hquiet⟩
  · rw [hstep] at hworld
    have hdb : (s.step t).world.db = db' := congrArg Lib.World.db hworld
    refine h.commit ht (haccounted.tracked.ending t.1 _ ht)
      (fun x hx => List.Subset.trans (haccounted.tracked.reads t.1 x hx).2 hkept) (hdb ▸ hwrite) ?_
      fun j hj => ?_
    · rw [hworld]
      exact s.world.set_self ..
    · rw [hworld]
      exact s.world.set_ne hj _
  · refine ⟨fun i registry c provided id now hi result hresult => ?_, fun r hr => ?_⟩
    · rw [Lib.Traced.step_world] at hresult ⊢
      rw [hsame]
      exact h.result i registry c provided id now hi result ((hquiet i result).mp hresult)
    · rw [Lib.Traced.step_world, hsame] at hr
      obtain ⟨i, hi⟩ := h.row r hr
      exact ⟨i, (hquiet i _).mpr hi⟩

theorem answered_run (commands : ι → Command) (ts : List (ι × Unit)) :
    Answered commands (ts.foldl Lib.Traced.step
      (.start (fun i => (commands i).txn) .empty)) := by
  refine (Lib.inv_foldl (P := fun s => Answered commands s ∧ Accounted commands s)
    (fun s t h => ⟨h.1.step h.2 t, h.2.step t⟩) ts ⟨⟨?_, ?_⟩, accounted_run commands []⟩).1
  · intro i registry c provided id now _ result hresult
    cases hresult
  · intro r hr
    cases hr

/-- Whatever the interleaving, every result in the tables was recorded by one of the commands, and is
    a failure or what the stage's calculator makes of its upload or of complete results in the tables,
    over a history that is in the tables too. -/
theorem results_accounted (commands : ι → Command) (ts : List (ι × Unit)) :
    ∀ r ∈ (ts.foldl Lib.World.step (.start (fun i => (commands i).txn) .empty)).db.stageResults.rows,
      Provenance commands (ts.foldl Lib.World.step
        (.start (fun i => (commands i).txn) .empty)).db.stageResults.rows r := by
  have h := (accounted_run commands ts).rows
  rw [Lib.Traced.foldl_world] at h
  exact h

end Interleavings

end GeoRisk.Analysis
