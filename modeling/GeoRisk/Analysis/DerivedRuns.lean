import GeoRisk.Analysis.DerivedStages

/-! Interleavings in which stages are computed from other stages. What such a stage finds in the tables
    was put there by other sessions, and feeds it; so it completes as soon as there is a result for each
    of its stages, and a risk that is in the tables is the product of three indices that are there too:

        session i:   begins ──▶ reads ──▶ reads ──▶ reads ──▶ commits COMPLETE
        others:   ▲      ▲          ▲        ▲
                  └ results for all stages before, none is ever taken back -/

namespace GeoRisk.Analysis

open Strategies Lib

/-- The command computes with the strategies of the application. -/
def Command.Uses (lib : Library) : Command → Prop
  | .recordStageResult registry .. => registry = applicationRegistry lib
  | .generateRiskLayer .. => True

/-! ### Results by their commands -/

section Rows

variable {ι : Type} {lib : Library} {commands : ι → Command} {rows : List StageResult}
  {r : StageResult}

/-- A complete result, by the strategy of its hazard and the calculator of its stage. -/
theorem complete_of_provenance (huses : ∀ i, (commands i).Uses lib)
    (h : Provenance commands rows r) (hstatus : r.status = .complete) :
    ∃ c provided strategy calculator inputs historical indicators, r.key = c.key ∧
      r.hazardType = c.hazardType ∧
      (applicationRegistry lib).getStrategy c.hazardType = .ok strategy ∧
      strategy.getCalculator c.stageType = .ok calculator ∧
      GatheredInputs c rows strategy provided inputs ∧
      ComputedFrom strategy calculator inputs historical r indicators := by
  obtain ⟨i, registry, c, provided, id, now, hi, -, hkey, hhazard, hrecorded⟩ := h
  have hregistry : (commands i).Uses lib := huses i
  rw [hi] at hregistry
  obtain rfl : registry = applicationRegistry lib := hregistry
  cases hrecorded with
  | failed hfailed =>
    rw [hstatus] at hfailed
    cases hfailed
  | complete hstrategy hcalculator hinputs _ hcomputed =>
    obtain ⟨strategy', heq, hcalculator⟩ := Lib.bind_ok.mp hcalculator
    obtain rfl := Except.ok.inj (hstrategy.symm.trans heq)
    split at hcalculator
    · cases hcalculator
    · exact ⟨c, provided, _, _, _, _, _, hkey, hhazard, hstrategy, hcalculator, hinputs, hcomputed⟩

/-! ### What a risk is made of -/

/-- An index of a complete result among the rows. -/
def IndexOf (rows : List StageResult) (key : StageKey) (code : String) (x : ℚ) : Prop :=
  ∃ r ∈ rows, r.key = key ∧ r.status = .complete ∧
    r.indicators.bind (·.value code) = some (.finite x) ∧ 0 ≤ x ∧ x ≤ 1

/-- The codes of the three indices, and that of the risk. -/
def riskCodes : HazardType → Option ((String × String × String) × String)
  | .flood => some (("flood_hazard_index", "flood_exposure_index", "flood_insecurity_index"),
      "flood_risk_index")
  | .wildfire => some (("wildfire_hazard_index", "wildfire_exposure_index",
      "wildfire_vulnerability_index"), "wildfire_risk_index")
  | _ => none

/-- A risk of an assessment: the product of three indices of the assessment, as it is rounded. -/
def IsRiskOf (rows : List StageResult) (key : StageKey) (codes : String × String × String)
    (code : String) (indicators : IndicatorSet) : Prop :=
  ∃ h e v, IndexOf rows { key with stageType := .hazard } codes.1 h ∧
    IndexOf rows { key with stageType := .exposure } codes.2.1 e ∧
    IndexOf rows { key with stageType := .vulnerability } codes.2.2 v ∧
    indicators = ⟨[{ code, value := .finite (roundTo 4 (h * e * v)), unit := "index" }]⟩

/-- What is read of an indicator that was given is a number only if it has one. -/
theorem rawValue_given {value : Option PyFloat} {x : ℚ}
    (h : rawValue (value.elim .null .float) = .number x) : value = some (.finite x) := by
  cases value with
  | none => cases h
  | some value =>
    cases value with
    | finite q => rw [show q = x from RawValue.number.inj h]
    | _ => cases h

theorem lookup_given {codes keys : String × String × String} {h e v : IndicatorSet}
    (hne : keys.1 ≠ keys.2.1 ∧ keys.1 ≠ keys.2.2 ∧ keys.2.1 ≠ keys.2.2) :
    let inputs := givenOf [(codes.2.2, keys.2.2)] v
      (givenOf [(codes.2.1, keys.2.1)] e (givenOf [(codes.1, keys.1)] h []))
    inputs.lookup keys.1 = some ((h.value codes.1).elim .null .float) ∧
      inputs.lookup keys.2.1 = some ((e.value codes.2.1).elim .null .float) ∧
      inputs.lookup keys.2.2 = some ((v.value codes.2.2).elim .null .float) := by
  simp only [givenOf, List.foldl_cons, List.foldl_nil, lookup_setItem]
  simp [hne.1, hne.2.1, hne.2.2]

/-- A product of what was gathered is one of indices among the rows. -/
theorem isRiskOf_of_gathered {c : RecordStageResult} {inputs : Inputs}
    {codes keys : String × String × String} {code : String} {out : List (Strategies.Indicator ℚ)}
    (hne : keys.1 ≠ keys.2.1 ∧ keys.1 ≠ keys.2.2 ∧ keys.2.1 ≠ keys.2.2)
    (hgathered : Gathered c rows [(.hazard, [(codes.1, keys.1)]), (.exposure, [(codes.2.1, keys.2.1)]),
      (.vulnerability, [(codes.2.2, keys.2.2)])] [] inputs)
    (hproduct : IsProduct (rawFields inputs) keys code out) :
    IsRiskOf rows c.key codes code ⟨out.map indicatorOf⟩ := by
  obtain ⟨p, q, s, hp, hq, hs, ⟨hp', hq', hs'⟩, rfl⟩ := hproduct
  cases hgathered with
  | @cons _ _ _ _ _ r h hr hkey hstatus hindicators hgathered =>
    cases hgathered with
    | @cons _ _ _ _ _ r' e hr' hkey' hstatus' hindicators' hgathered =>
      cases hgathered with
      | @cons _ _ _ _ _ r'' v hr'' hkey'' hstatus'' hindicators'' hgathered =>
        cases hgathered
        obtain ⟨hh, he, hv⟩ := @lookup_given codes keys h e v hne
        rw [lookup_rawFields, hh] at hp
        rw [lookup_rawFields, he] at hq
        rw [lookup_rawFields, hv] at hs
        have hp := rawValue_given (Option.some.inj hp)
        have hq := rawValue_given (Option.some.inj hq)
        have hs := rawValue_given (Option.some.inj hs)
        refine ⟨p, q, s, ⟨r, hr, hkey, hstatus, by rw [hindicators]; exact hp, hp'⟩,
          ⟨r', hr', hkey', hstatus', by rw [hindicators']; exact hq, hq'⟩,
          ⟨r'', hr'', hkey'', hstatus'', by rw [hindicators'']; exact hs, hs'⟩, ?_⟩
        have hunit : clampUnit (p * q * s) = p * q * s := by
          have hpq := mul_le_one₀ hp'.2 hq'.1 hq'.2
          have hpqs := mul_le_one₀ hpq hs'.1 hs'.2
          have hnonneg := mul_nonneg (mul_nonneg hp'.1 hq'.1) hs'.1
          rw [clampUnit, max_eq_left hnonneg, min_eq_left hpqs]
        rw [hunit]
        rfl

/-- The indicators of a complete risk. -/
theorem risk_of_provenance (huses : ∀ i, (commands i).Uses lib) (h : Provenance commands rows r)
    (hstatus : r.status = .complete) (hstage : r.stageType = .risk) :
    ∃ codes code indicators, riskCodes r.hazardType = some (codes, code) ∧
      r.indicators = some indicators ∧ IsRiskOf rows r.key codes code indicators := by
  obtain ⟨c, provided, strategy, calculator, inputs, historical, indicators, hkey, hhazard, hstrategy,
    hcalculator, hinputs, hcomputed⟩ := complete_of_provenance huses h hstatus
  have hc : c.stageType = .risk := (congrArg StageKey.stageType hkey).symm.trans hstage
  have hcompute := hcomputed.compute
  rw [hkey, hhazard]
  obtain ⟨tenantId, assessmentId, hazardType, stageType, issuedBy⟩ := c
  subst hc
  cases hazardType with
  | flood =>
    cases hstrategy
    cases hcalculator
    obtain ⟨out, hout, rfl⟩ := exact_ok.mp hcompute
    rcases hinputs with ⟨hnone, -⟩ | ⟨-, hgathered⟩
    · cases hnone
    · exact ⟨_, _, _, rfl, hcomputed.written, @isRiskOf_of_gathered rows _ _ _ FLOOD_RISK_KEYS _ _
        (by decide) hgathered (firasRisk_ok.mp hout)⟩
  | wildfire =>
    cases hstrategy
    cases hcalculator
    obtain ⟨out, hout, rfl⟩ := exact_ok.mp hcompute
    rcases hinputs with ⟨hnone, -⟩ | ⟨-, hgathered⟩
    · cases hnone
    · exact ⟨_, _, _, rfl, hcomputed.written, @isRiskOf_of_gathered rows _ _ _ WILDFIRE_RISK_KEYS _ _
        (by decide) hgathered (wrrasRisk_ok.mp hout)⟩
  | _ => cases hstrategy

/-! ### What the tables are to a stage -/

/-- Results of the assessment are of the hazard of the command. -/
def OneHazard (c : RecordStageResult) (rows : List StageResult) : Prop :=
  ∀ r ∈ rows, r.tenantId = c.tenantId → r.assessmentId.id = c.assessmentId.id →
    r.hazardType = c.hazardType

/-- A result of flood resilience has the scores it was given. -/
theorem hasNumber_of_resilience {inputs : Inputs} {historical : List Inputs} {r : StageResult}
    {out : List (Strategies.Indicator ℚ)}
    (hcompute : Firas.Resilience.compute lib.log (rawFields inputs) (historical.map rawFields) = .ok out)
    (hsnapshot : r.snapshot.inputs = inputs.update (IndicatorSet.asDict ⟨out.map indicatorOf⟩)) :
    ∀ k ∈ Firas.Resilience.SUB_INDEX_KEYS, HasNumber (rawFields r.snapshot.inputs) k.1 := by
  obtain ⟨weights, cri, rfl⟩ := Firas.resilience_shape hcompute
  intro k hk
  obtain ⟨v, hv, hnumber⟩ := Firas.scores_of_compute hcompute k hk
  refine ⟨v, ?_, hnumber⟩
  rw [lookup_rawFields, hsnapshot, lookup_snapshot_of_ne, ← lookup_rawFields, hv]
  rw [List.map_map]
  exact Firas.scores_not_codes hk

/-- Results that were recorded with the strategies of the application serve the stages after them. -/
theorem serves_of_provenance {c : RecordStageResult} {strategy : HazardStrategy} {db : Db}
    (huses : ∀ i, (commands i).Uses lib)
    (hstrategy : (applicationRegistry lib).getStrategy c.hazardType = .ok strategy)
    (hhazard : OneHazard c db.stageResults.rows)
    (hrows : ∀ r ∈ db.stageResults.rows, Provenance commands db.stageResults.rows r) :
    Serves c strategy db := by
  refine ⟨fun r hr hstatus d hd hkey => ?_, fun hflood hstage r hr hpast k hk => ?_⟩
  · obtain ⟨c', provided, strategy', calculator, inputs, historical, indicators, hkey', hhazard',
      hstrategy', hcalculator, -, hcomputed⟩ := complete_of_provenance huses (hrows r hr) hstatus
    have htenant : r.tenantId = c.tenantId := congrArg StageKey.tenantId hkey
    have hassessment : r.assessmentId.id = c.assessmentId.id := congrArg StageKey.assessmentId hkey
    have hstage : d.1 = c'.stageType :=
      (congrArg StageKey.stageType hkey).symm.trans (congrArg StageKey.stageType hkey')
    rw [← hhazard', hhazard r hr htenant hassessment] at hstrategy'
    obtain rfl := Except.ok.inj (hstrategy.symm.trans hstrategy')
    exact ⟨indicators, hcomputed.written,
      feeds_of_compute hstrategy hcalculator hcomputed.compute d hd hstage⟩
  · obtain ⟨c', provided, strategy', calculator, inputs, historical, indicators, hkey', hhazard',
      hstrategy', hcalculator, hinputs, hcomputed⟩ :=
        complete_of_provenance huses (hrows r hr) hpast.status
    have hc' : c'.hazardType = .flood := hhazard'.symm.trans (hpast.hazard.trans hflood)
    have hstage' : c'.stageType = .resilience :=
      (congrArg StageKey.stageType hkey').symm.trans (hpast.stage.trans hstage)
    rw [hc'] at hstrategy'
    cases hstrategy'
    rw [hstage'] at hcalculator
    cases hcalculator
    rcases hinputs with ⟨hnone, -⟩ | ⟨-, hgathered⟩
    · rw [hstage'] at hnone
      cases hnone
    · rw [hstage'] at hgathered
      obtain ⟨out, hout, rfl⟩ := exact_ok.mp hcomputed.compute
      exact hasNumber_of_resilience hout (congrArg ComputationSnapshot.inputs hcomputed.snapshot) k hk

/-- What was gathered came from a result for each dependency. -/
theorem Gathered.exists_mem {c : RecordStageResult}
    {dependencies : List (StageType × List (String × String))} {inputs out : Inputs}
    (h : Gathered c rows dependencies inputs out) : ∀ d ∈ dependencies, ∃ r ∈ rows,
      r.key = { c.key with stageType := d.1 } ∧ r.status = .complete := by
  induction h with
  | nil => simp
  | cons hr hkey hstatus _ _ ih =>
    intro d hd
    rcases List.mem_cons.mp hd with rfl | hd
    · exact ⟨_, hr, hkey, hstatus⟩
    · exact ih d hd

/-- A complete result of such a stage has results for all stages before it. -/
theorem supplied_of_provenance {c : RecordStageResult} {strategy : HazardStrategy} {db : Db}
    (huses : ∀ i, (commands i).Uses lib)
    (hstrategy : (applicationRegistry lib).getStrategy c.hazardType = .ok strategy)
    (h : Provenance commands db.stageResults.rows r) (hkey : r.key = c.key)
    (hhazard : r.hazardType = c.hazardType) (hstatus : r.status = .complete)
    (hderived : strategy.inputDependencies c.stageType ≠ []) : Supplied c strategy db := by
  obtain ⟨c', provided, strategy', calculator, inputs, historical, indicators, hkey', hhazard',
    hstrategy', -, hinputs, -⟩ := complete_of_provenance huses h hstatus
  rw [← hhazard', hhazard] at hstrategy'
  obtain rfl := Except.ok.inj (hstrategy.symm.trans hstrategy')
  have hc : c'.key = c.key := hkey'.symm.trans hkey
  have hstage : c'.stageType = c.stageType := congrArg StageKey.stageType hc
  rcases hinputs with ⟨hnone, -⟩ | ⟨-, hgathered⟩
  · exact absurd (hstage ▸ hnone) hderived
  · intro d hd
    rw [← hc]
    exact hgathered.exists_mem d (hstage ▸ hd)

end Rows

/-! ### Runs -/

section Runs

variable {ι : Type} [DecidableEq ι] {lib : Library} {commands : ι → Command}

/-- The world after some steps. -/
abbrev worldAfter (commands : ι → Command) (ts : List (ι × Unit)) :
    World ι Db Unit (Except AnalysisError Reply) :=
  ts.foldl World.step (.start (fun i => (commands i).txn) .empty)

/-- A risk is that of indices among the rows, and lies between 0 and 1. -/
def RiskAccounted (rows : List StageResult) (r : StageResult) : Prop :=
  ∃ codes code indicators, riskCodes r.hazardType = some (codes, code) ∧
    r.indicators = some indicators ∧ IsRiskOf rows r.key codes code indicators ∧
    ∃ x, indicators.value code = some (.finite x) ∧ 0 ≤ x ∧ x ≤ 1

omit [DecidableEq ι] in
theorem riskAccounted_of_provenance {rows : List StageResult} {r : StageResult}
    (huses : ∀ i, (commands i).Uses lib) (h : Provenance commands rows r) (hstatus : r.status = .complete)
    (hstage : r.stageType = .risk) : RiskAccounted rows r := by
  obtain ⟨codes, code, indicators, hcodes, hindicators, hrisk⟩ := risk_of_provenance huses h hstatus hstage
  refine ⟨codes, code, indicators, hcodes, hindicators, hrisk, ?_⟩
  obtain ⟨h, e, v, ⟨-, -, -, -, -, hh⟩, ⟨-, -, -, -, -, he⟩, ⟨-, -, -, -, -, hv⟩, rfl⟩ := hrisk
  refine ⟨roundTo 4 (h * e * v), by simp [IndicatorSet.value, IndicatorSet.get], roundTo_mem ⟨?_, ?_⟩⟩
  · exact mul_nonneg (mul_nonneg hh.1 he.1) hv.1
  · exact mul_le_one₀ (mul_le_one₀ hh.2 he.1 he.2) hv.1 hv.2

/-- Every complete risk of every interleaving is the product of three indices between 0 and 1, each
    that of a complete result of the assessment, and lies between 0 and 1 itself. -/
theorem risks_accounted (huses : ∀ i, (commands i).Uses lib) (ts : List (ι × Unit)) :
    ∀ r ∈ (worldAfter commands ts).db.stageResults.rows, r.status = .complete →
      r.stageType = .risk → RiskAccounted (worldAfter commands ts).db.stageResults.rows r := by
  intro r hr hstatus hstage
  have hrows := results_accounted commands ts r hr
  exact riskAccounted_of_provenance huses hrows hstatus hstage

/-- The run of a stage that is computed from others, once there are results for all of these. -/
structure DerivedRun (i : ι) (c : RecordStageResult) (strategy : HazardStrategy)
    (w : World ι Db Unit (Except AnalysisError Reply)) : Prop where
  guarded : w.Guarded (Serves c strategy) Db.ResultsKept
    fun j db new result => j = i → Returns (fun r => r.status = .complete) db new result
  result : ∀ result, w.sessions i = .committed result →
    ∃ r, result = .ok (.stageResult r) ∧ r.status = .complete

section Derived

variable {i : ι} {c : RecordStageResult} {provided : Except String Inputs} {id : StageResultId}
  {now : Timestamp} {strategy : HazardStrategy} {w : World ι Db Unit (Except AnalysisError Reply)}

omit [DecidableEq ι] in
theorem DerivedRun.begin
    (hi : w.sessions i = .running (recordStageResult (applicationRegistry lib) c provided id now))
    (hstrategy : (applicationRegistry lib).getStrategy c.hazardType = .ok strategy)
    (hderived : strategy.inputDependencies c.stageType ≠ []) (hsupplied : Supplied c strategy w.db)
    (hserves : Serves c strategy w.db) : DerivedRun i c strategy w := by
  refine ⟨⟨hserves, fun j txn hj => ?_⟩, fun result hresult => ?_⟩
  · rcases eq_or_ne j i with rfl | hne
    · rw [hi] at hj
      obtain rfl := Session.running.inj hj
      exact (recordStageResult_keeps hstrategy hderived hsupplied provided).mono
        fun _ _ _ hreturns _ => hreturns
    · exact Txn.keeps_of_forall (fun _ _ _ heq => absurd heq hne) txn w.db
  · rw [hi] at hresult
    cases hresult

theorem DerivedRun.step (h : DerivedRun i c strategy w) (t : ι × Unit)
    (hkept : w.db.ResultsKept (w.step t).db) (hserves : Serves c strategy (w.step t).db) :
    DerivedRun i c strategy (w.step t) := by
  refine ⟨h.guarded.step List.Subset.trans t hserves hkept, fun result hresult => ?_⟩
  rcases h.guarded.committed_step (fun _ => List.Subset.refl _) t hresult with hold | ⟨db, hreturns⟩
  · exact h.result result hold
  · exact hreturns rfl

end Derived

omit [DecidableEq ι] in
theorem oneHazard_of_commands {c : RecordStageResult} {rows : List StageResult}
    (hhazards : ∀ j registry c' provided id now,
      commands j = .recordStageResult registry c' provided id now → c'.tenantId = c.tenantId →
        c'.assessmentId.id = c.assessmentId.id → c'.hazardType = c.hazardType)
    (hrows : ∀ r ∈ rows, Provenance commands rows r) : OneHazard c rows := by
  intro r hr htenant hassessment
  obtain ⟨j, registry, c', provided, id, now, hj, -, hkey, hhazard, -⟩ := hrows r hr
  rw [hhazard]
  exact hhazards j registry c' provided id now hj
    ((congrArg StageKey.tenantId hkey).symm.trans htenant)
    ((congrArg StageKey.assessmentId hkey).symm.trans hassessment)

/-- Whatever the others do, a stage that is computed from others completes if there are results for all
    of these when its session begins, and fails if there are not even when it has ended. -/
theorem derived_stage_completes (huses : ∀ j, (commands j).Uses lib) {i : ι} {c : RecordStageResult}
    {provided : Except String Inputs} {id : StageResultId} {now : Timestamp}
    {strategy : HazardStrategy}
    (hi : commands i = .recordStageResult (applicationRegistry lib) c provided id now)
    (hhazards : ∀ j registry c' provided id now,
      commands j = .recordStageResult registry c' provided id now → c'.tenantId = c.tenantId →
        c'.assessmentId.id = c.assessmentId.id → c'.hazardType = c.hazardType)
    (hstrategy : (applicationRegistry lib).getStrategy c.hazardType = .ok strategy)
    (hderived : strategy.inputDependencies c.stageType ≠ []) (before after : List (ι × Unit))
    (hbegins : ∀ t ∈ before, t.1 ≠ i) {result : Except AnalysisError Reply}
    (hresult : (worldAfter commands (before ++ after)).sessions i = .committed result) :
    ∃ r ∈ (worldAfter commands (before ++ after)).db.stageResults.rows,
      result = .ok (.stageResult r) ∧ r.key = c.key ∧
      (Supplied c strategy (worldAfter commands before).db → r.status = .complete) ∧
      (r.status = .complete → Supplied c strategy (worldAfter commands (before ++ after)).db) := by
  have hserves : ∀ s : Traced ι Db Unit (Except AnalysisError Reply), Accounted commands s →
      Serves c strategy s.world.db := fun s hs =>
    serves_of_provenance huses hstrategy (oneHazard_of_commands hhazards hs.rows) hs.rows
  have hworld : ∀ ts, worldAfter commands ts =
      (ts.foldl Traced.step (.start (fun i => (commands i).txn) .empty)).world :=
    fun ts => by rw [Traced.foldl_world]; rfl
  have hbegun := (Traced.foldl_step_of_ne hbegins (Traced.start (fun i => (commands i).txn) .empty)).2
  have hbefore := And.intro (answered_run commands before) (accounted_run commands before)
  rw [hworld, List.foldl_append] at hresult ⊢
  rw [hworld before]
  change _ = Session.running (commands i).txn at hbegun
  rw [hi] at hbegun
  generalize before.foldl Traced.step (.start (fun i => (commands i).txn) .empty) = s
    at hbefore hbegun hresult ⊢
  have hafter : Answered commands (after.foldl Traced.step s) ∧
      Accounted commands (after.foldl Traced.step s) :=
    inv_foldl (P := fun s => Answered commands s ∧ Accounted commands s)
      (fun s t h => ⟨h.1.step h.2 t, h.2.step t⟩) _ hbefore
  obtain ⟨r, hr, rfl, -, hkey, hhazard, -⟩ :=
    hafter.1.result i _ c provided id now hi result hresult
  refine ⟨r, hr, rfl, hkey, fun hsupplied => ?_, fun hstatus => ?_⟩
  · have hrun : DerivedRun i c strategy (after.foldl Traced.step s).world ∧
        Accounted commands (after.foldl Traced.step s) := by
      refine inv_foldl (P := fun s => DerivedRun i c strategy s.world ∧ Accounted commands s)
        (fun s t h => ?_) _ ⟨?_, hbefore.2⟩
      · have hstep := hserves _ (h.2.step t)
        rw [Traced.step_world] at hstep
        exact ⟨h.1.step t (h.2.kept t) hstep, h.2.step t⟩
      · exact .begin hbegun hstrategy hderived hsupplied (hserves _ hbefore.2)
    obtain ⟨r', heq, hstatus⟩ := hrun.1.result _ hresult
    cases heq
    exact hstatus
  · exact supplied_of_provenance huses hstrategy (hafter.2.rows r hr) hkey hhazard hstatus hderived

end Runs

/-! ### A run -/

/-- The logarithm at 2, at 1/2 and at 1, to sixteen digits. -/
def logTwo (x : ℚ) : ℚ :=
  if x = 2 then 6931471805599453 / 10 ^ 16 else if x = 1 / 2 then -6931471805599453 / 10 ^ 16 else 0

def sampleLibrary : Library where
  log := logTwo
  exp := fun _ => 1
  fromIsoformat := fun _ => none
  describe := fun _ => "unsupported operand type(s) for +: 'float' and 'str'"
  describeSupport := fun _ => ""

/-- The stages of an assessment, one after the other. -/
def sampleStages : List StageType := [.hazard, .exposure, .vulnerability, .risk]

def sampleUpload : StageType → Inputs
  | .hazard => Firas.Hazard.KEYS.map fun k => (k.2, .float (.finite (1 / 2)))
  | .exposure =>
    [("asset_data", .obj [("population", .obj [("exposed", .int 1), ("total", .int 2)])])]
  | .vulnerability => Firas.halves
  | _ => []

def sampleCommand (i : Fin 4) : RecordStageResult :=
  ⟨⟨7⟩, ⟨UUID.str 0, 0⟩, .flood, sampleStages.getD i .risk, "analyst"⟩

def sampleCommands (i : Fin 4) : Command :=
  .recordStageResult (applicationRegistry sampleLibrary) (sampleCommand i)
    (.ok (sampleUpload (sampleStages.getD i .risk))) ⟨i⟩ i

/-- The first three stages, each to its end. -/
def threeStages : List (Fin 4 × Unit) := [0, 0, 1, 1, 2, 2, 2].map fun i => (i, ())

/-- The risk. -/
def riskStage : List (Fin 4 × Unit) := [3, 3, 3, 3, 3].map fun i => (i, ())

theorem sampleCommands_uses (i : Fin 4) : (sampleCommands i).Uses sampleLibrary := rfl

/-- All four stages complete, and the risk is accounted for. -/
theorem risks_accounted_sample :
    ((worldAfter sampleCommands (threeStages ++ riskStage)).db.stageResults.rows.map fun r =>
      (r.stageType, r.status)) = sampleStages.map (·, .complete) ∧
    ∀ r ∈ (worldAfter sampleCommands (threeStages ++ riskStage)).db.stageResults.rows,
      r.status = .complete → r.stageType = .risk →
        RiskAccounted (worldAfter sampleCommands (threeStages ++ riskStage)).db.stageResults.rows r :=
  ⟨by decide +kernel, risks_accounted sampleCommands_uses (threeStages ++ riskStage)⟩

/-- The risk stage begins when the three others are complete. -/
theorem derived_stage_completes_sample :
    ∃ r ∈ (worldAfter sampleCommands (threeStages ++ riskStage)).db.stageResults.rows,
      r.key = (sampleCommand 3).key ∧ r.status = .complete := by
  have hended : ((worldAfter sampleCommands (threeStages ++ riskStage)).sessions 3).result.isSome :=
    by decide +kernel
  obtain ⟨result, hresult⟩ := Option.isSome_iff_exists.mp hended
  have hthree : ∀ d ∈ (FIRASHazardStrategy sampleLibrary).inputDependencies .risk,
      ((worldAfter sampleCommands threeStages).db.stageResults.rows.any fun r =>
        r.key = { (sampleCommand 3).key with stageType := d.1 } ∧ r.status = .complete) = true := by
    decide +kernel
  have hsupplied : Supplied (sampleCommand 3) (FIRASHazardStrategy sampleLibrary)
      (worldAfter sampleCommands threeStages).db := by
    intro d hd
    obtain ⟨r, hr, hmatches⟩ := List.any_eq_true.mp (hthree d hd)
    exact ⟨r, hr, of_decide_eq_true hmatches⟩
  obtain ⟨r, hr, -, hkey, hcompletes, -⟩ := derived_stage_completes sampleCommands_uses
    (i := 3) rfl (by rintro j _ _ _ _ _ hj - -; cases hj; rfl) rfl (List.cons_ne_nil _ _) threeStages
    riskStage (by decide) (Session.result_eq_some.mp hresult)
  exact ⟨r, hr, hkey, hcompletes hsupplied⟩

end GeoRisk.Analysis
