import GeoRisk.Analysis.Registration
import GeoRisk.Analysis.StageContracts

/-! The stages that are computed from other stages. Each of them takes its inputs from the latest
    results of the stages before, one read for each; when all of these are there, and of its hazard, it
    completes:

        latest hazard ────────┐
        latest exposure ──────┼─▶ inputs, all in range ─▶ compute ─▶ COMPLETE
        latest vulnerability ─┘
              none ─▶ missing ─▶ FAILED -/

namespace GeoRisk.Analysis

open Strategies Lib

/-! ### What is fed -/

/-- What a later stage accepts of a prior one: flood resilience any number, all others an index. -/
def Accepts (hazardType : HazardType) (next : StageType) (x : ℚ) : Prop :=
  (hazardType = .flood ∧ next = .resilience) ∨ (0 ≤ x ∧ x ≤ 1)

/-- A set of indicators has what a later stage takes from it. -/
def Feeds (hazardType : HazardType) (next : StageType) (indicatorMap : List (String × String))
    (indicators : IndicatorSet) : Prop :=
  ∀ m ∈ indicatorMap, ∃ x, indicators.value m.1 = some (.finite x) ∧ Accepts hazardType next x

/-- Under the key the stage finds what it accepts. -/
def IsFed (hazardType : HazardType) (next : StageType) (inputs : Inputs) (key : String) : Prop :=
  ∃ x, inputs.lookup key = some (.float (.finite x)) ∧ Accepts hazardType next x

/-- The parts of insecurity that the resilience stages take, under their own codes. -/
def FLOOD_PARTS : List (String × String) :=
  [("cpc_score", "cpc_score"), ("ewe_score", "ewe_score"), ("kf_score", "kf_score"),
   ("dre_score", "dre_score"), ("rc_score", "rc_score")]

def WILDFIRE_PARTS : List (String × String) :=
  [("cpc_score", "cpc_score"), ("ewe_score", "ewe_score"), ("wki_score", "wki_score"),
   ("ere_score", "ere_score"), ("rc_score", "rc_score")]

section Feeding

variable {lib : Library} {hazardType : HazardType} {strategy : HazardStrategy}
  {stageType next : StageType} {calculator : StageCalculator} {indicators : IndicatorSet}
  {out : List (Strategies.Indicator ℚ)} {inputs : Inputs} {keys : List String}

theorem value_map_indicatorOf (out : List (Strategies.Indicator ℚ)) (code : String) :
    IndicatorSet.value ⟨out.map indicatorOf⟩ code = (valueOf out code).map .finite := by
  rw [IndicatorSet.value, IndicatorSet.get, valueOf, List.find?_map, Option.map_map, Option.map_map]
  rfl

/-- What calculators put out, as it is fed. -/
theorem feeds_of_puts {accepted : ℚ → Prop} {indicatorMap : List (String × String)}
    (h : ∀ m ∈ indicatorMap, Puts accepted out m.1)
    (haccepted : ∀ x, accepted x → Accepts hazardType next x) :
    Feeds hazardType next indicatorMap ⟨out.map indicatorOf⟩ := by
  intro m hm
  obtain ⟨x, hx, hax⟩ := h m hm
  exact ⟨x, by rw [value_map_indicatorOf, hx]; rfl, haccepted x hax⟩

/-- Whatever a stage is given, what it returns feeds the stages after it. -/
theorem feeds_of_compute {snapshot : ComputationSnapshot}
    (hstrategy : (applicationRegistry lib).getStrategy hazardType = .ok strategy)
    (hcalculator : strategy.getCalculator stageType = .ok calculator)
    (hcompute : calculator.compute snapshot = .ok indicators) :
    ∀ d ∈ strategy.inputDependencies next, d.1 = stageType →
      Feeds hazardType next d.2 indicators := by
  intro d hd hstage
  have hunit : ∀ x : ℚ, 0 ≤ x ∧ x ≤ 1 → Accepts hazardType next x := fun x hx => Or.inr hx
  have hflood : ∀ m ∈ FLOOD_PARTS, ∃ k ∈ Firas.Resilience.SUB_INDEX_KEYS, k.1 = m.1 := by decide
  have hwildfire : ∀ m ∈ WILDFIRE_PARTS, m.1 ∈ WILDFIRE_VULNERABILITY_CODES := by decide
  cases hazardType with
  | flood =>
    cases hstrategy
    cases next with
    | risk =>
      simp only [FIRASHazardStrategy, List.mem_cons, List.not_mem_nil, or_false] at hd
      rcases hd with rfl | rfl | rfl
      all_goals
        subst hstage
        cases hcalculator
        obtain ⟨out, hout, rfl⟩ := exact_ok.mp hcompute
        refine feeds_of_puts (fun m hm => ?_) hunit
        obtain rfl := List.mem_singleton.mp hm
      · exact firasHazard_puts.of_ok hout
      · exact firasExposure_puts.of_ok hout
      · exact (firasVulnerability_puts.of_ok hout).1
    | resilience =>
      obtain rfl := List.mem_singleton.mp hd
      subst hstage
      cases hcalculator
      obtain ⟨out, hout, rfl⟩ := exact_ok.mp hcompute
      have hparts := (firasVulnerability_puts.of_ok hout).2
      refine feeds_of_puts (fun m hm => ?_) fun (_ : ℚ) (_ : True) => Or.inl ⟨rfl, rfl⟩
      obtain ⟨k, hk, hkey⟩ := hflood m hm
      exact hkey ▸ hparts k hk
    | _ => cases hd
  | wildfire =>
    cases hstrategy
    cases next with
    | risk =>
      simp only [WRRASHazardStrategy, List.mem_cons, List.not_mem_nil, or_false] at hd
      rcases hd with rfl | rfl | rfl
      all_goals
        subst hstage
        cases hcalculator
        obtain ⟨out, hout, rfl⟩ := exact_ok.mp hcompute
        refine feeds_of_puts (fun m hm => ?_) hunit
        obtain rfl := List.mem_singleton.mp hm
      · exact wrrasHazard_puts.of_ok hout
      · exact wrrasExposure_puts.of_ok hout
      · exact wrrasVulnerability_puts.of_ok hout _ (by decide)
    | resilience =>
      obtain rfl := List.mem_singleton.mp hd
      subst hstage
      cases hcalculator
      obtain ⟨out, hout, rfl⟩ := exact_ok.mp hcompute
      exact feeds_of_puts (fun m hm => wrrasVulnerability_puts.of_ok hout m.1 (hwildfire m hm)) hunit
    | _ => cases hd
  | _ => cases hstrategy

theorem isFed_setItem {key key' : String} {x : ℚ} (h : Accepts hazardType next x)
    (hkey : key = key' ∨ IsFed hazardType next inputs key) :
    IsFed hazardType next (setItem inputs key' (.float (.finite x))) key := by
  unfold IsFed
  rw [lookup_setItem]
  split
  · exact ⟨x, rfl, h⟩
  · next hne => exact hkey.resolve_left hne

theorem givenOf_cons (m : String × String) (indicatorMap : List (String × String))
    (indicators : IndicatorSet) (inputs : Inputs) :
    givenOf (m :: indicatorMap) indicators inputs = givenOf indicatorMap indicators
      (setItem inputs m.2 ((indicators.value m.1).elim .null .float)) := rfl

/-- Keys that are fed stay so, and those of the next stage become so. -/
theorem isFed_givenOf {indicatorMap : List (String × String)}
    (hmap : Feeds hazardType next indicatorMap indicators)
    (hkeys : ∀ key ∈ keys, IsFed hazardType next inputs key) :
    ∀ key ∈ keys ++ indicatorMap.map Prod.snd,
      IsFed hazardType next (givenOf indicatorMap indicators inputs) key := by
  induction indicatorMap generalizing inputs keys with
  | nil => simpa [givenOf] using hkeys
  | cons m indicatorMap ih =>
    obtain ⟨x, hx, haccepts⟩ := hmap m (by simp)
    have hset : ∀ key ∈ keys ++ [m.2],
        IsFed hazardType next (setItem inputs m.2 (.float (.finite x))) key := by
      intro key hkey
      refine isFed_setItem haccepts ?_
      rcases List.mem_append.mp hkey with hkey | hkey
      · exact Or.inr (hkeys key hkey)
      · exact Or.inl (List.mem_singleton.mp hkey)
    have hrest := ih (fun m' hm' => hmap m' (List.mem_cons_of_mem _ hm')) hset
    rw [List.append_assoc] at hrest
    rw [givenOf_cons, hx]
    exact hrest

end Feeding

/-! ### What is computed of it -/

section Computing

variable {lib : Library} {hazardType : HazardType} {strategy : HazardStrategy} {next : StageType}
  {inputs : Inputs} {historical : List Inputs}

theorem IsFed.hasNumber {key : String} (h : IsFed hazardType next inputs key) :
    HasNumber (rawFields inputs) key := by
  obtain ⟨x, hx, -⟩ := h
  exact rawFields_hasNumber hx

/-- But for flood resilience, what is fed is an index. -/
theorem IsFed.index {key : String} (h : IsFed hazardType next inputs key)
    (hnext : hazardType ≠ .flood ∨ next ≠ .resilience) :
    ∃ x, (rawFields inputs).lookup key = some (.number x) ∧ 0 ≤ x ∧ x ≤ 1 := by
  obtain ⟨x, hx, haccepts⟩ := h
  refine ⟨x, by rw [lookup_rawFields, hx]; rfl, ?_⟩
  rcases haccepts with ⟨hflood, hresilience⟩ | hunit
  · rcases hnext with hnext | hnext
    · exact absurd hflood hnext
    · exact absurd hresilience hnext
  · exact hunit

theorem exists_product {keys : String × String × String}
    (h : ∀ key ∈ [keys.1, keys.2.1, keys.2.2], IsFed hazardType .risk inputs key) (code : String) :
    ∃ out, IsProduct (rawFields inputs) keys code out := by
  obtain ⟨p, hp, hunit⟩ := (h keys.1 (by simp)).index (Or.inr (by decide))
  obtain ⟨q, hq, hunit'⟩ := (h keys.2.1 (by simp)).index (Or.inr (by decide))
  obtain ⟨r, hr, hunit''⟩ := (h keys.2.2 (by simp)).index (Or.inr (by decide))
  exact ⟨_, p, q, r, hp, hq, hr, ⟨hunit, hunit', hunit''⟩, rfl⟩

theorem wrrasResilience_returns {inputs : RawInputs ℚ} (h : ∀ key ∈ Wrras.Resilience.SUB_INDEX_KEYS,
    ∃ x, inputs.lookup key = some (.number x) ∧ 0 ≤ x ∧ x ≤ 1) :
    ∃ out, Wrras.Resilience.compute inputs = .ok out := by
  have hnumber : ∀ key ∈ Wrras.Resilience.SUB_INDEX_KEYS, HasNumber inputs key := by
    intro key hkey
    obtain ⟨x, hx, -⟩ := h key hkey
    exact ⟨_, hx, x, rfl⟩
  have hmeets : Meets (fun _ => False) (fun _ => True) (Wrras.Resilience.compute inputs) := by
    refine (entries_meets hnumber).bind fun data hdata => ?_
    refine Meets.bind (P := fun _ => True) ?_ fun _ _ => trivial
    refine Meets.bind (Meets.mapM (R := fun _ _ => True) fun p hp => ?_) fun _ _ => trivial
    obtain ⟨x, hx, hunit⟩ := h p.1 (hdata.1 ▸ List.mem_map_of_mem hp)
    have hread : p.2 = .number x := Option.some.inj ((hdata.2 p hp).1.symm.trans hx)
    rw [checkUnit_ok.mpr ⟨hread, hunit⟩]
    trivial
  obtain ⟨out, hout, -⟩ := hmeets.exists_ok
  exact ⟨out, hout⟩

/-- The keys under which a stage is given what it takes from others. -/
def HazardStrategy.givenKeys (self : HazardStrategy) (next : StageType) : List String :=
  (self.inputDependencies next).flatMap fun d => d.2.map Prod.snd

/-- A stage that is computed from others has a calculator, which returns when it is fed. -/
theorem returns_of_fed (hstrategy : (applicationRegistry lib).getStrategy hazardType = .ok strategy)
    (hderived : strategy.inputDependencies next ≠ []) :
    ∃ calculator, (applicationRegistry lib).resolve hazardType next = .ok calculator ∧
      ∀ inputs historical, (∀ key ∈ strategy.givenKeys next, IsFed hazardType next inputs key) →
        (hazardType = .flood → next = .resilience → ∀ snapshot ∈ historical,
          ∀ k ∈ Firas.Resilience.SUB_INDEX_KEYS, HasNumber (rawFields snapshot) k.1) →
        ∃ indicators, calculator.compute ⟨inputs, historical, 0⟩ = .ok indicators := by
  cases hazardType with
  | flood =>
    cases hstrategy
    cases next with
    | risk =>
      refine ⟨_, rfl, fun inputs historical hfed _ => ?_⟩
      obtain ⟨out, hout⟩ := @exists_product .flood inputs FLOOD_RISK_KEYS hfed "flood_risk_index"
      exact ⟨_, exact_ok.mpr ⟨out, firasRisk_ok.mpr hout, rfl⟩⟩
    | resilience =>
      refine ⟨_, rfl, fun inputs historical hfed hhistory => ?_⟩
      have hscores : ∀ record ∈ rawFields inputs :: historical.map rawFields,
          ∀ k ∈ Firas.Resilience.SUB_INDEX_KEYS, HasNumber record k.1 := by
        intro record hrecord k hk
        rcases List.mem_cons.mp hrecord with rfl | hrecord
        · exact (hfed k.1 (List.mem_map_of_mem (f := Prod.fst) hk)).hasNumber
        · obtain ⟨snapshot, hsnapshot, rfl⟩ := List.mem_map.mp hrecord
          exact hhistory rfl rfl snapshot hsnapshot k hk
      obtain ⟨out, hout, -⟩ := (@Firas.resilience_meets ℚ _ _ _ lib.log (fun _ => False) _ _ _
        hscores).exists_ok
      exact ⟨_, exact_ok.mpr ⟨out, hout, rfl⟩⟩
    | _ => exact absurd rfl hderived
  | wildfire =>
    cases hstrategy
    cases next with
    | risk =>
      refine ⟨_, rfl, fun inputs historical hfed _ => ?_⟩
      obtain ⟨out, hout⟩ := @exists_product .wildfire inputs WILDFIRE_RISK_KEYS hfed
        "wildfire_risk_index"
      exact ⟨_, exact_ok.mpr ⟨out, wrrasRisk_ok.mpr hout, rfl⟩⟩
    | resilience =>
      refine ⟨_, rfl, fun inputs historical hfed _ => ?_⟩
      obtain ⟨out, hout⟩ := wrrasResilience_returns fun key hkey =>
        (hfed key hkey).index (Or.inl (by decide))
      exact ⟨_, exact_ok.mpr ⟨out, hout, rfl⟩⟩
    | _ => exact absurd rfl hderived
  | _ => cases hstrategy

end Computing

/-! ### The handler -/

section Handler

/-- For each stage before there is a complete result. -/
def Supplied (c : RecordStageResult) (strategy : HazardStrategy) (db : Db) : Prop :=
  ∀ d ∈ strategy.inputDependencies c.stageType, ∃ r ∈ db.stageResults.rows,
    r.key = { c.key with stageType := d.1 } ∧ r.status = .complete

/-- The tables are of use to the stage: the results of its assessment feed it, and the history it is
    compared with can be read. -/
structure Serves (c : RecordStageResult) (strategy : HazardStrategy) (db : Db) : Prop where
  feeds : ∀ r ∈ db.stageResults.rows, r.status = .complete →
    ∀ d ∈ strategy.inputDependencies c.stageType, r.key = { c.key with stageType := d.1 } →
      ∃ indicators, r.indicators = some indicators ∧ Feeds c.hazardType c.stageType d.2 indicators
  history : c.hazardType = .flood → c.stageType = .resilience → ∀ r ∈ db.stageResults.rows,
    IsPast c r → ∀ k ∈ Firas.Resilience.SUB_INDEX_KEYS, HasNumber (rawFields r.snapshot.inputs) k.1

/-- A commit that returns such a result. -/
def Returns (P : StageResult → Prop) (_ : Db) (_ : Option Db) (result : Except AnalysisError Reply) :
    Prop :=
  ∃ r, result = .ok (.stageResult r) ∧ P r

variable {lib : Library} {c : RecordStageResult} {strategy : HazardStrategy} {P : StageResult → Prop}
  {db : Db} {id : StageResultId} {now : Timestamp}

theorem Supplied.mono {db' : Db} (h : Supplied c strategy db) (hkept : db.ResultsKept db') :
    Supplied c strategy db' := by
  intro d hd
  obtain ⟨r, hr, hresult⟩ := h d hd
  exact ⟨r, hkept hr, hresult⟩

theorem exists_latest {key : StageKey} {r : StageResult} (hr : r ∈ db.stageResults.rows)
    (hkey : r.key = key) (hstatus : r.status = .complete) : ∃ r', db.getLatest key = some r' := by
  refine Option.ne_none_iff_exists'.mp fun hnone => ?_
  have hmem : r ∈ db.stageResults.rows.filter fun r => r.key = key ∧ r.status = .complete := by
    simp [hr, hkey, hstatus]
  rw [List.argmax_eq_none.mp hnone] at hmem
  exact List.not_mem_nil hmem

theorem drawResult_keeps {build : ℕ → StageResult × AnalysisEvent} (h : ∀ v, P (build v).1) :
    (drawResult c build now).Keeps (Serves c strategy) Db.ResultsKept (Returns P) db :=
  fun _ _ _ _ _ _ _ => ⟨_, rfl, h _⟩

/-- When there is a result for each stage that is still to be read, the loop goes on with inputs under
    all the keys. -/
theorem gatherDependencies_keeps {dependencies : List (StageType × List (String × String))}
    {next : Except String Inputs → AnalysisTxn}
    (rest : List (StageType × List (String × String))) (inputs : Inputs) (keys : List String) (db : Db)
    (hrest : rest ⊆ strategy.inputDependencies c.stageType) (hsupplied : Supplied c strategy db)
    (hkeys : ∀ key ∈ keys, IsFed c.hazardType c.stageType inputs key)
    (hnext : ∀ inputs db', db.ResultsKept db' →
      (∀ key ∈ keys ++ rest.flatMap (fun d => d.2.map Prod.snd),
        IsFed c.hazardType c.stageType inputs key) →
      (next (.ok inputs)).Keeps (Serves c strategy) Db.ResultsKept (Returns P) db') :
    (gatherDependencies c dependencies next rest inputs []).Keeps (Serves c strategy) Db.ResultsKept
      (Returns P) db := by
  induction rest generalizing inputs keys db with
  | nil => exact hnext inputs db (List.Subset.refl _) (by simpa using hkeys)
  | cons d rest ih =>
    obtain ⟨stageType, indicatorMap⟩ := d
    intro _ db' hkept hserves
    have hsupplied' := hsupplied.mono hkept
    have hd := hrest List.mem_cons_self
    obtain ⟨r, hr, hkey, hstatus⟩ := hsupplied' _ hd
    obtain ⟨latest, hlatest⟩ := exists_latest hr hkey hstatus
    obtain ⟨hmem, hlatestKey, hcomplete⟩ := getLatest_spec hlatest
    obtain ⟨indicators, hindicators, hfeeds⟩ := hserves.feeds latest hmem hcomplete _ hd hlatestKey
    have hread : (db'.getLatest { c.key with stageType }).bind (·.indicators) = some indicators := by
      rw [hlatest]
      exact hindicators
    dsimp only
    rw [hread]
    refine ih (givenOf indicatorMap indicators inputs) (keys ++ indicatorMap.map Prod.snd) db'
      (fun x hx => hrest (List.mem_cons_of_mem _ hx)) hsupplied' (isFed_givenOf hfeeds hkeys) ?_
    intro inputs db'' hkept' hfed
    refine hnext inputs db'' (List.Subset.trans hkept hkept') fun key hkey => hfed key ?_
    simpa [List.append_assoc] using hkey

theorem withHistory_keeps {next : List Inputs → AnalysisTxn}
    (h : ∀ historical db', (c.hazardType = .flood → c.stageType = .resilience →
        ∀ snapshot ∈ historical, ∀ k ∈ Firas.Resilience.SUB_INDEX_KEYS,
          HasNumber (rawFields snapshot) k.1) →
      (next historical).Keeps (Serves c strategy) Db.ResultsKept (Returns P) db') :
    (withHistory c strategy next).Keeps (Serves c strategy) Db.ResultsKept (Returns P) db := by
  unfold withHistory
  split
  · intro _ db' hkept hserves
    refine h _ db' fun hflood hstage snapshot hsnapshot => ?_
    obtain ⟨r, hr, hpast, rfl⟩ := listHistoricalIndicators_spec hsnapshot
    exact hserves.history hflood hstage r hr hpast
  · exact h [] db (by simp)

/-- A stage that is computed from others completes, when there are results for all of them. -/
theorem recordStageResult_keeps
    (hstrategy : (applicationRegistry lib).getStrategy c.hazardType = .ok strategy)
    (hderived : strategy.inputDependencies c.stageType ≠ []) (hsupplied : Supplied c strategy db)
    (provided : Except String Inputs) :
    (recordStageResult (applicationRegistry lib) c provided id now).Keeps (Serves c strategy)
      Db.ResultsKept (Returns fun r => r.status = .complete) db := by
  obtain ⟨calculator, hcalculator, hreturns⟩ := returns_of_fed hstrategy hderived
  rw [recordStageResult, hstrategy]
  dsimp only
  rw [hcalculator]
  dsimp only
  rw [gatherInputs, if_neg hderived]
  refine gatherDependencies_keeps _ [] [] db (List.Subset.refl _) hsupplied (by simp) ?_
  intro inputs db' hkept hfed
  rw [List.nil_append] at hfed
  refine withHistory_keeps fun historical db'' hhistory => ?_
  obtain ⟨indicators, hindicators⟩ := hreturns inputs historical hfed hhistory
  rw [hindicators]
  exact drawResult_keeps fun _ => rfl

end Handler

end GeoRisk.Analysis
