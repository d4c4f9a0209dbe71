import GeoRisk.Analysis.Firas.FloatObservation
import GeoRisk.Analysis.Firas.Snapshots

/-! The history of the flood strategy. A complete result keeps its inputs together with what was computed
    from them, and later runs of the tenant read it as a row of their history:

        upload ──▶ inputs ──▶ compute ──▶ {inputs, indicators} ──▶ row of a later history
                     └──────────────────────┘  same keys, but for
                                               flood_vulnerability_index_input, which an upload may
                                               bring along and which is then read for the index

    A row harms a later run in two ways only: it has another index than the one of its run, or its
    `int`s come to more, with those of other rows, than a `float` can hold. -/

namespace GeoRisk.Analysis.Firas.Floats

open Strategies Lib
open Firas.Vulnerability (VULNERABILITY_INDICATORS SUB_INDEX_KEYS INSECURITY_INDICATORS forInsecurity)

/-! ### Values of a row -/

section Values

variable {lib : FloatLibrary} {v : Json} {n : PyNumber} {x : PyFloat}

/-- What comes back from a JSON column is what went in, or for a `float` what is it as a `float`. -/
theorem stored_number (lib : FloatLibrary) (h : numberValue v = .number n) :
    ∃ n', lib.storedValue v = .number n' ∧ (n' = n ∨ ∃ x, n = .float x ∧ n'.toFloat = .ok x) := by
  cases v with
  | float x =>
    refine ⟨lib.stored x, rfl, .inr ⟨x, ?_, lib.stored_toFloat x⟩⟩
    exact (RawValue.number.inj h).symm
  | _ => exact ⟨n, h, .inl rfl⟩

theorem stored_fits (lib : FloatLibrary) (h : numberValue v = .number n) (hn : n.Fits) :
    ∃ n', lib.storedValue v = .number n' ∧ n'.Fits := by
  obtain ⟨n', hn', rfl | ⟨x, -, hx⟩⟩ := stored_number lib h
  · exact ⟨n', hn', hn⟩
  · exact ⟨n', hn', x, hx⟩

/-- A number that is between 0 and 1 as a `float` is between them. -/
theorem inUnit_of_toFloat {q : ℚ} (h : n.toFloat = .ok (.finite q)) (h0 : 0 ≤ q) (h1 : q ≤ 1) :
    n.inUnit = true := by
  cases n with
  | float x =>
    obtain rfl := Except.ok.inj h
    exact decide_eq_true ⟨h0, h1⟩
  | int k =>
    have hindex : IsIndex (.finite q) := by
      intro p hp
      cases hp
      exact ⟨h0, h1⟩
    have hk := abs_le.mp (small_of_isIndex hindex h k rfl)
    refine decide_eq_true ⟨?_, hk.2⟩
    by_contra hneg
    obtain rfl : k = -1 := by omega
    have hminus : PyNumber.toFloat (.int (-1)) = .ok (.finite (-1)) := by decide +kernel
    rw [hminus] at h
    cases h
    norm_num at h0

theorem stored_inUnit (lib : FloatLibrary) (h : numberValue v = .number n) (hn : n.inUnit = true) :
    ∃ n', lib.storedValue v = .number n' ∧ n'.inUnit = true := by
  obtain ⟨n', hn', rfl | ⟨x, rfl, hx⟩⟩ := stored_number lib h
  · exact ⟨n', hn', hn⟩
  · refine ⟨n', hn', ?_⟩
    cases x with
    | finite q =>
      have hunit : 0 ≤ q ∧ q ≤ 1 := of_decide_eq_true hn
      exact inUnit_of_toFloat hx hunit.1 hunit.2
    | _ => cases hn

/-- The value is the number that is computed. -/
def Holds (v : Json) (x : PyFloat) : Prop := ∃ n, numberValue v = .number n ∧ n.Is x

theorem holds_float (x : PyFloat) : Holds (.float x) x := ⟨_, rfl, .inl rfl⟩

theorem stored_small (lib : FloatLibrary) (h : Holds v x) (hx : IsIndex x) :
    ∃ n', lib.storedValue v = .number n' ∧ Small n' := by
  obtain ⟨n, hn, his⟩ := h
  obtain ⟨n', hn', rfl | ⟨y, rfl, hy⟩⟩ := stored_number lib hn
  · refine ⟨n', hn', ?_⟩
    rcases his with rfl | ⟨k, rfl, rfl⟩
    · exact small_float x
    · obtain ⟨h0, h1⟩ := hx k rfl
      have h0 : 0 ≤ k := by exact_mod_cast h0
      have h1 : k ≤ 1 := by exact_mod_cast h1
      intro m hm
      cases hm
      exact abs_le.mpr ⟨by omega, h1⟩
  · refine ⟨n', hn', ?_⟩
    rcases his with hx' | ⟨k, hk, -⟩
    · cases hx'
      exact small_of_isIndex hx hy
    · cases hk

variable {inputs snapshot : Inputs} {key : String}

/-- A number of the inputs is there in the row. -/
theorem hasFit_stored (h : HasFit (numberFields inputs) key)
    (hkey : snapshot.lookup key = inputs.lookup key) : HasFit (lib.storedFields snapshot) key := by
  obtain ⟨n, hn, hfits⟩ := h
  rw [lookup_numberFields, Option.map_eq_some_iff] at hn
  obtain ⟨v, hv, hn⟩ := hn
  obtain ⟨n', hn', hfits'⟩ := stored_fits lib hn hfits
  exact ⟨n', by rw [lib.lookup_storedFields, hkey, hv, Option.map_some, hn'], hfits'⟩

end Values

/-! ### Rows -/

section Rows

variable {lib : FloatLibrary} {c : RecordStageResult} {inputs : Inputs} {historical : List Inputs}
  {r : StageResult} {out : List (Strategies.Indicator PyFloat)} {rows : List StageResult}

/-- What insecurity reads of a row for the index. -/
def readIndex (snapshot : Inputs) : Json :=
  (snapshot.lookup INPUT_KEY).getD ((snapshot.lookup "flood_vulnerability_index").getD .null)

theorem lookup_readIndex (snapshot : Inputs) :
    (forInsecurity (lib.storedFields snapshot)).lookup INPUT_KEY =
      some (lib.storedValue (readIndex snapshot)) := by
  rw [forInsecurity, lookup_setItem, if_pos rfl, lib.lookup_storedFields, lib.lookup_storedFields,
    readIndex]
  cases snapshot.lookup INPUT_KEY with
  | some v => rfl
  | none => cases snapshot.lookup "flood_vulnerability_index" <;> rfl

/-- What later runs read of a result of the vulnerability stage is what the run was given, and what it
    computed. -/
structure GenuineVulnerability (inputs : Inputs) (r : StageResult) : Prop where
  given : ∀ key ∈ READ_KEYS, r.snapshot.inputs.lookup key = inputs.lookup key
  scores : ∀ s ∈ SUB_INDEX_KEYS, ∃ x,
    r.indicators.bind (·.value s.1) = some x ∧ r.snapshot.inputs.lookup s.1 = some (.float x)
  index : ∃ x, r.indicators.bind (·.value "flood_vulnerability_index") = some x ∧
    Holds (readIndex r.snapshot.inputs) x

/-- And of a result of the resilience stage it is what the vulnerability stage had come to. -/
def GenuineResilience (rows : List StageResult) (r : StageResult) : Prop :=
  ∃ v ∈ rows, v.key = { r.key with stageType := .vulnerability } ∧ v.status = .complete ∧
    ∃ indicators, v.indicators = some indicators ∧ ∀ k ∈ Resilience.SUB_INDEX_KEYS,
      r.snapshot.inputs.lookup k.1 = some ((indicators.value k.1).elim .null .float)

/-- The upload has no index of its own, or the one that was computed. -/
def IndexKept (inputs : Inputs) (r : StageResult) : Prop :=
  ∀ v, inputs.lookup INPUT_KEY = some v →
    ∃ x, r.indicators.bind (·.value "flood_vulnerability_index") = some x ∧ Holds v x

/-- A row of the vulnerability stage: the inputs, an observation, and what was computed of it. -/
structure VulnerabilityRow (inputs : Inputs) (r : StageResult) : Prop where
  observation : Observation (numberFields inputs)
  given : ∀ key ∈ INPUT_KEY :: READ_KEYS, r.snapshot.inputs.lookup key = inputs.lookup key
  scores : ∀ s ∈ SUB_INDEX_KEYS, ∃ x,
    r.indicators.bind (·.value s.1) = some x ∧ r.snapshot.inputs.lookup s.1 = some (.float x)
  index : ∃ x, IsIndex x ∧ r.indicators.bind (·.value "flood_vulnerability_index") = some x ∧
    r.snapshot.inputs.lookup "flood_vulnerability_index" = some (.float x)

namespace VulnerabilityRow

theorem genuine_iff (h : VulnerabilityRow inputs r) :
    GenuineVulnerability inputs r ↔ IndexKept inputs r := by
  obtain ⟨x, -, hx, hlookup⟩ := h.index
  have hinput := h.given INPUT_KEY List.mem_cons_self
  constructor
  · intro hgenuine v hv
    obtain ⟨y, hy, hholds⟩ := hgenuine.index
    rw [readIndex, hinput, hv] at hholds
    exact ⟨y, hy, hholds⟩
  · intro hkept
    refine ⟨fun key hkey => h.given key (List.mem_cons_of_mem _ hkey), h.scores, ?_⟩
    rw [readIndex, hinput]
    cases hv : inputs.lookup INPUT_KEY with
    | some v => exact hkept v hv
    | none =>
      refine ⟨x, hx, ?_⟩
      rw [hlookup]
      exact holds_float x

/-- The parts are there to be weighed. -/
theorem hasFit (h : VulnerabilityRow inputs r) :
    ∀ key ∈ INSECURITY_INDICATORS, HasFit (lib.storedFields r.snapshot.inputs) key := fun key hkey =>
  hasFit_stored (h.observation.insecurity key hkey)
    (h.given key (List.mem_cons_of_mem _ (List.mem_append_right _ hkey)))

theorem pastObservation (h : VulnerabilityRow inputs r) (hkept : IndexKept inputs r) :
    PastObservation (lib.storedFields r.snapshot.inputs) := by
  refine ⟨⟨fun p hp => ?_, h.hasFit⟩, fun s hs => ?_, ?_⟩
  · obtain ⟨n, hn, hunit⟩ := h.observation.vulnerability p hp
    rw [lookup_numberFields, Option.map_eq_some_iff] at hn
    obtain ⟨v, hv, hn⟩ := hn
    obtain ⟨n', hn', hunit'⟩ := stored_inUnit lib hn hunit
    have hkey : p.1 ∈ INPUT_KEY :: READ_KEYS :=
      List.mem_cons_of_mem _ (List.mem_append_left _ (List.mem_map_of_mem hp))
    exact ⟨n', by rw [lib.lookup_storedFields, h.given p.1 hkey, hv, Option.map_some, hn'], hunit'⟩
  · obtain ⟨x, -, hx⟩ := h.scores s hs
    obtain ⟨n', hn', hfits⟩ := stored_fits lib (v := .float x) rfl (PyNumber.fits_float x)
    exact ⟨n', by rw [lib.lookup_storedFields, hx, Option.map_some, hn'], hfits⟩
  · -- the index that is read is the one of the run, which is between 0 and 1
    obtain ⟨x, hindex, hx, -⟩ := h.index
    obtain ⟨y, hy, hholds⟩ := (h.genuine_iff.mpr hkept).index
    obtain rfl := Option.some.inj (hx.symm.trans hy)
    obtain ⟨n', hn', hsmall⟩ := stored_small lib hholds hindex
    exact ⟨n', by rw [lookup_readIndex, hn'], hsmall⟩

end VulnerabilityRow

/-- The codes, as indicators of the aggregate. -/
theorem map_floatIndicator_codes (out : List (Strategies.Indicator PyFloat)) :
    (out.map floatIndicator).map (·.code) = out.map (·.code) := by
  rw [List.map_map]
  rfl

theorem vulnerabilityRow_of_compute
    (hcompute : Vulnerability.compute lib.log (numberFields inputs)
      (historical.map lib.storedFields) = .ok out)
    (hindicators : r.indicators = some ⟨out.map floatIndicator⟩)
    (hsnapshot : r.snapshot.inputs = inputs.update (IndicatorSet.asDict ⟨out.map floatIndicator⟩)) :
    VulnerabilityRow inputs r := by
  obtain ⟨fvi, weights, scores, fii, rfl, hindex, hweights, hscores⟩ := vulnerability_shape hcompute
  have hset : (IndicatorSet.mk ((indicatorsOf fvi weights scores fii).map floatIndicator)).indicators.map
      (·.code) = VULNERABILITY_CODES :=
    (map_floatIndicator_codes _).trans (indicatorsOf_codes hweights hscores)
  -- the values that were computed, under their codes
  have hvalue : ∀ code ∈ VULNERABILITY_CODES, ∃ x,
      IndicatorSet.value ⟨(indicatorsOf fvi weights scores fii).map floatIndicator⟩ code = some x ∧
      r.snapshot.inputs.lookup code = some (.float x) := by
    intro code hcode
    obtain ⟨x, hx⟩ := exists_value (hset ▸ hcode)
    refine ⟨x, hx, ?_⟩
    rw [hsnapshot, lookup_snapshot, lookup_asDict (hset ▸ codes_nodup), hx]
    rfl
  refine ⟨observation_of_compute hcompute, fun key hkey => ?_, fun s hs => ?_, ?_⟩
  · rw [hsnapshot, lookup_snapshot_of_ne (hset ▸ readKeys_not_codes key hkey)]
  · have hcode : ∀ s ∈ SUB_INDEX_KEYS, s.1 ∈ VULNERABILITY_CODES := by decide +kernel
    obtain ⟨x, hx, hlookup⟩ := hvalue s.1 (hcode s hs)
    exact ⟨x, by rw [hindicators]; exact hx, hlookup⟩
  · obtain ⟨x, hx, hlookup⟩ := hvalue "flood_vulnerability_index" (by decide +kernel)
    obtain rfl : fvi = x := Option.some.inj hx
    exact ⟨fvi, hindex, by rw [hindicators]; exact hx, hlookup⟩

/-- A row of the resilience stage: the scores it was given. -/
theorem resilienceRow_of_compute
    (hcompute : Resilience.compute lib.log (lib.storedFields inputs)
      (historical.map lib.storedFields) = .ok out)
    (hgathered : Gathered c rows [(.vulnerability, [("cpc_score", "cpc_score"),
      ("ewe_score", "ewe_score"), ("kf_score", "kf_score"), ("dre_score", "dre_score"),
      ("rc_score", "rc_score")])] [] inputs)
    (hkey : r.key = { c.key with stageType := .resilience })
    (hsnapshot : r.snapshot.inputs = inputs.update (IndicatorSet.asDict ⟨out.map floatIndicator⟩)) :
    GenuineResilience rows r ∧ ∀ key ∈ SCORES, HasFit (lib.storedFields r.snapshot.inputs) key := by
  obtain ⟨weights, cri, rfl⟩ := resilience_shape hcompute
  have hother : ∀ k ∈ Resilience.SUB_INDEX_KEYS,
      r.snapshot.inputs.lookup k.1 = inputs.lookup k.1 := by
    intro k hk
    rw [hsnapshot, lookup_snapshot_of_ne]
    rw [map_floatIndicator_codes]
    exact scores_not_codes hk
  constructor
  · cases hgathered with
    | cons hv hvkey hstatus hindicators hrest =>
      cases hrest
      refine ⟨_, hv, by rw [hvkey, hkey], hstatus, _, hindicators, fun k hk => ?_⟩
      rw [hother k hk, lookup_givenScores _ k hk]
  · intro key hkey
    obtain ⟨k, hk, rfl⟩ := List.mem_map.mp hkey
    obtain ⟨n, hn, hfits⟩ := (scores_of_compute hcompute).1 k.1 hkey
    refine ⟨n, ?_, hfits⟩
    rw [lib.lookup_storedFields, hother k hk, ← lib.lookup_storedFields, hn]

end Rows

/-! ### Runs -/

section Runs

/-- The registry of the application, over any strategy for wildfires. -/
def registry (lib : FloatLibrary) (others : StageType → Except String StageCalculator)
    (wildfire : HazardStrategy) : StrategyRegistry :=
  [(.flood, FIRASHazardStrategy lib others), (.wildfire, wildfire)]

variable (lib : FloatLibrary) (others : StageType → Except String StageCalculator)
  (wildfire : HazardStrategy)

/-- What the history makes of a computation: none that succeeds without a history raises with it. -/
def Unpoisoned (db : Db) : Prop :=
  ∀ c : RecordStageResult, c.hazardType = .flood →
    c.stageType ∈ (FIRASHazardStrategy lib others).historicalStages →
    ∀ calculator, (FIRASHazardStrategy lib others).getCalculator c.stageType = .ok calculator →
    ∀ inputs indicators, calculator.compute ⟨inputs, [], 0⟩ = .ok indicators →
      ∃ indicators, calculator.compute ⟨inputs, db.listHistoricalIndicators c, 0⟩ = .ok indicators

/-- The keys under which later runs add up what was uploaded, or computed of it. -/
def summedKeys : StageType → List String
  | .vulnerability => INSECURITY_INDICATORS
  | .resilience => SCORES
  | _ => []

variable {ι : Type} (executions : ι → Execution)

/-- The sessions of the executions, and the tables they share. -/
abbrev History (ι : Type) := Lib.World ι Db Unit (Except AnalysisError Reply)

/-- The execution has recorded the result. -/
def HasRecorded (w : History ι) (i : ι) (r : StageResult) : Prop :=
  w.sessions i = .committed (.ok (.stageResult r))

/-- What the result of a flood stage keeps is genuine. -/
def Genuine (w : History ι) (i : ι) (r : StageResult) : Prop :=
  (r.stageType = .vulnerability →
    ∃ inputs, (executions i).provided = .ok inputs ∧ GenuineVulnerability inputs r) ∧
  (r.stageType = .resilience → GenuineResilience w.db.stageResults.rows r)

/-- The history harms no later run, and complete results keep what is genuine. -/
structure NeverPoisons (w : History ι) : Prop where
  unpoisoned : Unpoisoned lib others w.db
  genuine : ∀ i r, HasRecorded w i r → r.hazardType = .flood → r.status = .complete →
    Genuine executions w i r

/-- Uploads of complete results have no index but the computed one, and the `int`s before the first
    `float` of a column come to what a `float` can hold. -/
structure Harmless (w : History ι) : Prop where
  index : ∀ i r, HasRecorded w i r → r.hazardType = .flood → r.stageType = .vulnerability →
    r.status = .complete → ∀ inputs, (executions i).provided = .ok inputs → IndexKept inputs r
  sums : ∀ c : RecordStageResult, c.hazardType = .flood → ∀ key ∈ summedKeys c.stageType,
    Summable ((w.db.listHistoricalIndicators c).map lib.storedFields) key

variable {lib others wildfire executions} {w : History ι} {i : ι} {r : StageResult}

/-- What is recorded of a flood stage, of the executions that have recorded it. -/
structure Kept (lib : FloatLibrary) (executions : ι → Execution) (w : History ι) : Prop where
  recorded : ∀ r ∈ w.db.stageResults.rows, ∃ i, HasRecorded w i r
  vulnerability : ∀ i r, HasRecorded w i r → r.hazardType = .flood → r.status = .complete →
    r.stageType = .vulnerability →
      ∃ inputs, (executions i).provided = .ok inputs ∧ VulnerabilityRow inputs r
  resilience : ∀ i r, HasRecorded w i r → r.hazardType = .flood → r.status = .complete →
    r.stageType = .resilience → GenuineResilience w.db.stageResults.rows r ∧
      ∀ key ∈ SCORES, HasFit (lib.storedFields r.snapshot.inputs) key

/-- A row of a history was recorded by an execution. -/
theorem exists_recorded (h : Kept lib executions w) {c : RecordStageResult}
    (hflood : c.hazardType = .flood) {snapshot : Inputs} (hs : snapshot ∈ w.db.listHistoricalIndicators c) :
    ∃ i r, HasRecorded w i r ∧ r.hazardType = .flood ∧ r.status = .complete ∧
      r.stageType = c.stageType ∧ r.snapshot.inputs = snapshot := by
  obtain ⟨r, hr, hpast, rfl⟩ := listHistoricalIndicators_spec hs
  obtain ⟨i, hi⟩ := h.recorded r hr
  exact ⟨i, r, hi, hpast.hazard.trans hflood, hpast.status, hpast.stage, rfl⟩

/-- What is added up of a history is numbers. -/
theorem hasFit_of_kept (h : Kept lib executions w) {c : RecordStageResult}
    (hflood : c.hazardType = .flood) :
    ∀ record ∈ (w.db.listHistoricalIndicators c).map lib.storedFields,
      ∀ key ∈ summedKeys c.stageType, HasFit record key := by
  intro record hrecord key hkey
  obtain ⟨snapshot, hs, rfl⟩ := List.mem_map.mp hrecord
  obtain ⟨i, r, hr, hhazard, hstatus, hstage, rfl⟩ := exists_recorded h hflood hs
  rw [← hstage] at hkey
  cases hs : r.stageType with
  | vulnerability =>
    rw [hs] at hkey
    obtain ⟨inputs, -, hrow⟩ := h.vulnerability i r hr hhazard hstatus hs
    exact hrow.hasFit key hkey
  | resilience =>
    rw [hs] at hkey
    exact (h.resilience i r hr hhazard hstatus hs).2 key hkey
  | _ =>
    rw [hs] at hkey
    cases hkey

theorem unpoisoned_of_harmless (h : Kept lib executions w) (hharmless : Harmless lib executions w) :
    Unpoisoned lib others w.db := by
  intro c hflood hstage calculator hcalculator inputs indicators hcompute
  have hfits := hasFit_of_kept h hflood
  have hsums := hharmless.sums c hflood
  have hmany : ((w.db.listHistoricalIndicators c).map lib.storedFields).length ≤ 200 := by
    rw [List.length_map]
    exact listHistoricalIndicators_length
  have hpast : ∀ record ∈ (w.db.listHistoricalIndicators c).map lib.storedFields,
      c.stageType = .vulnerability → PastObservation record := by
    intro record hrecord hc
    obtain ⟨snapshot, hs, rfl⟩ := List.mem_map.mp hrecord
    obtain ⟨i, r, hr, hhazard, hstatus, hr', rfl⟩ := exists_recorded h hflood hs
    obtain ⟨given, hgiven, hrow⟩ := h.vulnerability i r hr hhazard hstatus (hr'.trans hc)
    exact hrow.pastObservation (hharmless.index i r hr hhazard (hr'.trans hc) hstatus given hgiven)
  obtain ⟨stage, hc⟩ : ∃ stage, c.stageType = stage := ⟨_, rfl⟩
  rw [hc] at hstage hcalculator hfits hsums
  have hstages : stage = .vulnerability ∨ stage = .resilience := by
    simpa [FIRASHazardStrategy] using hstage
  rcases hstages with rfl | rfl
  · cases hcalculator
    obtain ⟨out, hout, -⟩ := FloatLibrary.answer_ok.mp hcompute
    obtain ⟨out', hout'⟩ := vulnerability_returns lib.log_ne_zero (observation_of_compute hout)
      (fun record hrecord => hpast record hrecord hc) hmany hsums
    exact ⟨_, FloatLibrary.answer_ok.mpr ⟨out', hout', rfl⟩⟩
  · cases hcalculator
    obtain ⟨out, hout, -⟩ := FloatLibrary.answer_ok.mp hcompute
    obtain ⟨out', hout'⟩ := resilience_returns lib.log_ne_zero (scores_of_compute hout).1 hfits hsums
    exact ⟨_, FloatLibrary.answer_ok.mpr ⟨out', hout', rfl⟩⟩

/-! ### An upload of halves -/

theorem lookup_map_pair {v : Json} {keys : List String} {key : String} (h : key ∈ keys) :
    (keys.map fun key => (key, v)).lookup key = some v := by
  induction keys with
  | nil => cases h
  | cons k keys ih =>
    rw [List.map_cons]
    rcases eq_or_ne key k with rfl | hne
    · exact lookup_cons_eq rfl
    · rw [lookup_cons_ne hne, ih ((List.mem_cons.mp h).resolve_left hne)]

theorem lookup_numberHalves {key : String} (h : key ∈ READ_KEYS) :
    (numberFields halves).lookup key = some (.number (.float (.finite (1 / 2)))) := by
  rw [lookup_numberFields, halves, lookup_map_pair h]
  rfl

theorem halves_observation : Observation (numberFields halves) := by
  refine ⟨fun p hp => ⟨_, lookup_numberHalves (List.mem_append_left _ (List.mem_map_of_mem hp)), ?_⟩,
    fun key hkey => ⟨_, lookup_numberHalves (List.mem_append_right _ hkey), PyNumber.fits_float _⟩⟩
  decide +kernel

/-- No `int` is one half as a `float`. -/
theorem stored_half (lib : FloatLibrary) : lib.stored (.finite (1 / 2)) = .float (.finite (1 / 2)) := by
  have h := lib.stored_toFloat (.finite (1 / 2))
  generalize lib.stored (.finite (1 / 2)) = n at h ⊢
  cases n with
  | float x => rw [show x = _ from Except.ok.inj h]
  | int k =>
    have hindex : IsIndex (.finite (1 / 2)) := by
      intro q hq
      cases hq
      norm_num
    have hk := abs_le.mp (small_of_isIndex hindex h k rfl)
    have hints : ∀ k ∈ ([-1, 0, 1] : List ℤ),
        PyNumber.toFloat (.int k) ≠ .ok (.finite (1 / 2)) := by decide +kernel
    refine absurd h (hints k ?_)
    simp only [List.mem_cons, List.not_mem_nil, or_false]
    omega

/-- Scores of one half. -/
def halfScores : Inputs := SCORES.map fun key => (key, .float (.finite (1 / 2)))

theorem lookup_storedScores (lib : FloatLibrary) {key : String} (h : key ∈ SCORES) :
    (lib.storedFields halfScores).lookup key = some (.number (.float (.finite (1 / 2)))) := by
  rw [lib.lookup_storedFields, halfScores, lookup_map_pair h, Option.map_some,
    FloatLibrary.storedValue, stored_half]

/-- Where a run of halves succeeds, the history can be summed up. -/
theorem sums_of_unpoisoned (h : Kept lib executions w) (hunpoisoned : Unpoisoned lib others w.db) :
    ∀ c : RecordStageResult, c.hazardType = .flood → ∀ key ∈ summedKeys c.stageType,
      Summable ((w.db.listHistoricalIndicators c).map lib.storedFields) key := by
  intro c hflood
  have hnumbers := fun record hrecord key hkey =>
    (hasFit_of_kept h hflood record hrecord key hkey).hasNumber
  have hruns := hunpoisoned c hflood
  have hlead : ∀ key, Summable [] key := fun key =>
    PyNumber.fits_of_abs_le (by simp [numbersOf, PyNumber.leadSum])
  generalize c.stageType = stage at hnumbers hruns ⊢
  cases stage with
  | vulnerability =>
    have hempty : ∃ out, Vulnerability.compute lib.log (numberFields halves) [] = .ok out :=
      vulnerability_returns lib.log_ne_zero halves_observation (by simp) (by simp)
        fun key _ => hlead key
    obtain ⟨out, hout⟩ := hempty
    obtain ⟨indicators, hindicators⟩ := hruns List.mem_cons_self
      (FIRASVulnerabilityCalculator lib) rfl halves _ (FloatLibrary.answer_ok.mpr ⟨out, hout, rfl⟩)
    obtain ⟨out', hout', -⟩ := FloatLibrary.answer_ok.mp hindicators
    exact summable_of_compute hout' (fun key hkey =>
      ⟨_, lookup_numberHalves (List.mem_append_right _ hkey)⟩) hnumbers
  | resilience =>
    have hempty : ∃ out, Resilience.compute lib.log (lib.storedFields halfScores) [] = .ok out :=
      resilience_returns lib.log_ne_zero
        (fun key hkey => ⟨_, lookup_storedScores lib hkey, PyNumber.fits_float _⟩) (by simp)
        fun key _ => hlead key
    obtain ⟨out, hout⟩ := hempty
    obtain ⟨indicators, hindicators⟩ := hruns (List.mem_cons_of_mem _ List.mem_cons_self)
      (FIRASResilienceCalculator lib) rfl halfScores _ (FloatLibrary.answer_ok.mpr ⟨out, hout, rfl⟩)
    obtain ⟨out', hout', -⟩ := FloatLibrary.answer_ok.mp hindicators
    exact (scores_of_compute hout').2 (fun key hkey => ⟨_, lookup_storedScores lib hkey⟩) hnumbers
  | _ =>
    intro key hkey
    cases hkey

/-! ### States of a run -/

variable [DecidableEq ι]

/-- The state after a run. -/
def after (lib : FloatLibrary) (others : StageType → Except String StageCalculator)
    (wildfire : HazardStrategy) (executions : ι → Execution) (ts : List (ι × Unit)) : History ι :=
  ts.foldl Lib.World.step
    (.start (fun i => ((executions i).run (registry lib others wildfire)).txn) .empty)

/-- A complete flood result, by the calculator of its stage. -/
theorem complete_of_recorded {c : RecordStageResult} {rows : List StageResult}
    {provided : Except String Inputs}
    (h : Recorded c rows (registry lib others wildfire) provided r) (hflood : c.hazardType = .flood)
    (hstatus : r.status = .complete) :
    ∃ calculator inputs historical indicators,
      (FIRASHazardStrategy lib others).getCalculator c.stageType = .ok calculator ∧
      GatheredInputs c rows (FIRASHazardStrategy lib others) provided inputs ∧
      ComputedFrom (FIRASHazardStrategy lib others) calculator inputs historical r indicators := by
  cases h with
  | failed hfailed =>
    rw [hstatus] at hfailed
    cases hfailed
  | complete hstrategy hcalculator hinputs _ hcomputed =>
    obtain ⟨strategy, hstrategy', hcalculator⟩ := bind_ok.mp hcalculator
    obtain rfl := Except.ok.inj (hstrategy.symm.trans hstrategy')
    rw [hflood] at hstrategy
    cases hstrategy
    split at hcalculator
    · cases hcalculator
    · exact ⟨_, _, _, _, hcalculator, hinputs, hcomputed⟩

theorem kept_run (ts : List (ι × Unit)) :
    Kept lib executions (after lib others wildfire executions ts) := by
  have hanswered := answered_run (fun i => (executions i).run (registry lib others wildfire)) ts
  have hworld := Lib.Traced.foldl_world (ι := ι) ts
    (.start (fun i => ((executions i).run (registry lib others wildfire)).txn) .empty)
  generalize ts.foldl Lib.Traced.step _ = s at hanswered hworld
  rw [show after lib others wildfire executions ts = s.world from hworld.symm]
  have hcomplete : ∀ i r, HasRecorded s.world i r → r.hazardType = .flood → r.status = .complete →
      r.key = (executions i).command.key ∧ ∃ calculator inputs historical indicators,
        (FIRASHazardStrategy lib others).getCalculator r.stageType = .ok calculator ∧
        GatheredInputs (executions i).command s.world.db.stageResults.rows
          (FIRASHazardStrategy lib others) (executions i).provided inputs ∧
        ComputedFrom (FIRASHazardStrategy lib others) calculator inputs historical r indicators := by
    intro i r hr hflood hstatus
    obtain ⟨r', -, heq, -, hkey, hhazard, hrecorded⟩ := hanswered.result i _ _ _ _ _ rfl _ hr
    cases heq
    rw [show r.stageType = (executions i).command.stageType from congrArg StageKey.stageType hkey]
    exact ⟨hkey, complete_of_recorded hrecorded (hhazard.symm.trans hflood) hstatus⟩
  refine ⟨hanswered.row, fun i r hr hflood hstatus hstage => ?_, fun i r hr hflood hstatus hstage => ?_⟩
  · obtain ⟨hkey, calculator, inputs, historical, indicators, hcalculator, hinputs, hcomputed⟩ :=
      hcomplete i r hr hflood hstatus
    have hcommand : (executions i).command.stageType = .vulnerability :=
      (congrArg StageKey.stageType hkey).symm.trans hstage
    rw [hstage] at hcalculator
    cases hcalculator
    rcases hinputs with ⟨-, hprovided⟩ | ⟨hdependencies, -⟩
    · obtain ⟨out, hout, rfl⟩ := FloatLibrary.answer_ok.mp hcomputed.compute
      exact ⟨inputs, hprovided, vulnerabilityRow_of_compute hout hcomputed.written
        (congrArg ComputationSnapshot.inputs hcomputed.snapshot)⟩
    · rw [hcommand] at hdependencies
      exact absurd rfl hdependencies
  · obtain ⟨hkey, calculator, inputs, historical, indicators, hcalculator, hinputs, hcomputed⟩ :=
      hcomplete i r hr hflood hstatus
    have hcommand : (executions i).command.stageType = .resilience :=
      (congrArg StageKey.stageType hkey).symm.trans hstage
    rw [hstage] at hcalculator
    cases hcalculator
    rcases hinputs with ⟨hdependencies, -⟩ | ⟨-, hgathered⟩
    · rw [hcommand] at hdependencies
      cases hdependencies
    · rw [hcommand] at hgathered
      obtain ⟨out, hout, rfl⟩ := FloatLibrary.answer_ok.mp hcomputed.compute
      refine resilienceRow_of_compute hout hgathered ?_
        (congrArg ComputationSnapshot.inputs hcomputed.snapshot)
      rw [hkey, ← hcommand]
      rfl

/-- Whatever the interleaving and the uploads, every result was recorded by an execution, and the history
    harms no later run, and keeps what is genuine, iff complete uploads have no index of their own and
    the columns of the history can be summed up. -/
theorem history_never_poisons (ts : List (ι × Unit)) :
    (∀ r ∈ (after lib others wildfire executions ts).db.stageResults.rows,
      ∃ i, HasRecorded (after lib others wildfire executions ts) i r) ∧
    (NeverPoisons lib others executions (after lib others wildfire executions ts) ↔
      Harmless lib executions (after lib others wildfire executions ts)) := by
  have h : Kept lib executions (after lib others wildfire executions ts) := kept_run ts
  refine ⟨h.recorded, fun hnever => ⟨fun i r hr hhazard hstage hstatus inputs hinputs => ?_,
    sums_of_unpoisoned h hnever.unpoisoned⟩, fun hharmless =>
    ⟨unpoisoned_of_harmless h hharmless, fun i r hr hhazard hstatus => ⟨fun hstage => ?_, fun hstage => ?_⟩⟩⟩
  · obtain ⟨given, hgiven, hrow⟩ := h.vulnerability i r hr hhazard hstatus hstage
    obtain ⟨given', hgiven', hgenuine⟩ := (hnever.genuine i r hr hhazard hstatus).1 hstage
    obtain rfl := Except.ok.inj (hgiven.symm.trans hinputs)
    obtain rfl := Except.ok.inj (hgiven'.symm.trans hinputs)
    exact hrow.genuine_iff.mp hgenuine
  · obtain ⟨given, hgiven, hrow⟩ := h.vulnerability i r hr hhazard hstatus hstage
    exact ⟨given, hgiven, hrow.genuine_iff.mpr
      (hharmless.index i r hr hhazard hstage hstatus given hgiven)⟩
  · exact (h.resilience i r hr hhazard hstatus hstage).1

end Runs

/-! ### Two runs -/

/-- The logarithm at 1/2 and at 2, to sixteen digits. -/
def logTwo (x : PyFloat) : PyFloat :=
  if x = .finite (1 / 2) then -0.6931471805599453 else 0.6931471805599453

/-- No number of these is kept as an `int`. -/
def sampleLibrary : FloatLibrary where
  log := logTwo
  log_ne_zero n _ := by
    unfold logTwo
    split <;> decide +kernel
  stored := .float
  stored_toFloat _ := rfl
  describe := fun _ => "unsupported operand type(s) for +: 'float' and 'str'"

/-- The vulnerability stage of an assessment, of an upload. -/
def sampleRun (n : ℕ) (upload : Inputs) : Execution where
  command := ⟨⟨7⟩, ⟨UUID.str n, n⟩, .flood, .vulnerability, "analyst"⟩
  provided := .ok upload
  id := ⟨n⟩
  now := n

def noOthers (stageType : StageType) : Except String StageCalculator :=
  .error s!"FIRASHazardStrategy has no calculator for stage {stageType}"

/-- The state after one session after the other. -/
def sampleState (uploads : Fin 2 → Inputs) (ts : List (Fin 2 × Unit)) : History (Fin 2) :=
  after sampleLibrary noOthers (FIRASHazardStrategy sampleLibrary noOthers)
    (fun i => sampleRun i (uploads i)) ts

def sampleSteps : List (Fin 2 × Unit) :=
  [(0, ()), (0, ()), (0, ()), (1, ()), (1, ()), (1, ())]

/-- A column of `float`s can be summed up. -/
theorem summable_of_floats {historical : List (RawInputs PyNumber)} {key : String}
    (h : ∀ record ∈ historical, ∀ n, record.lookup key ≠ some (.number (.int n))) :
    Summable historical key := by
  have hlead : ∀ xs : List PyNumber, (∀ x ∈ xs, ∀ n, x ≠ .int n) → PyNumber.leadSum xs = 0 := by
    intro xs hxs
    cases xs with
    | nil => rfl
    | cons x xs =>
      cases x with
      | int n => exact absurd rfl (hxs _ List.mem_cons_self n)
      | float x => rfl
  refine PyNumber.fits_of_abs_le ?_
  rw [hlead]
  · norm_num
  · rintro _ hx n rfl
    obtain ⟨record, hrecord, hx⟩ := List.mem_filterMap.mp hx
    refine h record hrecord n ?_
    split at hx
    · next x hlookup =>
      cases hx
      exact hlookup
    · cases hx

def isFloat : Json → Bool
  | .float _ => true
  | _ => false

/-- All that is added up of a row is a `float`. -/
def keepsFloats (r : StageResult) : Bool :=
  (INSECURITY_INDICATORS ++ SCORES).all fun key => (r.snapshot.inputs.lookup key).all isFloat

theorem halves_harmless : Harmless sampleLibrary (fun i : Fin 2 => sampleRun i halves)
    (sampleState (fun _ => halves) sampleSteps) := by
  refine ⟨fun i r _ _ _ _ inputs hinputs v hv => ?_, fun c _ key hkey => summable_of_floats ?_⟩
  · cases hinputs
    rw [show halves.lookup INPUT_KEY = none by rfl] at hv
    cases hv
  · have hrows : (sampleState (fun _ => halves) sampleSteps).db.stageResults.rows.all keepsFloats =
        true := by decide +kernel
    have hkeys : key ∈ INSECURITY_INDICATORS ++ SCORES := by
      revert hkey
      cases c.stageType with
      | vulnerability => exact List.mem_append_left _
      | resilience => exact List.mem_append_right _
      | _ => exact fun hkey => absurd hkey List.not_mem_nil
    intro record hrecord n hn
    obtain ⟨snapshot, hs, rfl⟩ := List.mem_map.mp hrecord
    obtain ⟨r, hr, -, rfl⟩ := listHistoricalIndicators_spec hs
    have hfloat := List.all_eq_true.mp (List.all_eq_true.mp hrows r hr) key hkeys
    rw [sampleLibrary.lookup_storedFields, Option.map_eq_some_iff] at hn
    obtain ⟨v, hv, hn⟩ := hn
    rw [hv] at hfloat
    cases v with
    | float x => cases hn
    | _ => cases hfloat

/-- Two runs of halves both complete, the second with the first in its history. -/
theorem history_never_poisons_halves :
    ((sampleState (fun _ => halves) sampleSteps).db.stageResults.rows.map
      fun r => (r.status, r.snapshot.historicalCount)) = [(.complete, 0), (.complete, 1)] ∧
    NeverPoisons sampleLibrary noOthers (fun i : Fin 2 => sampleRun i halves)
      (sampleState (fun _ => halves) sampleSteps) :=
  ⟨by decide +kernel, (history_never_poisons sampleSteps).2.mpr halves_harmless⟩

/-- An upload that brings along the key of the index. -/
def withIndex : Inputs := halves ++ [(INPUT_KEY, .str "high")]

theorem isOk_iff {ε β : Type} {x : Except ε β} : x.isOk = true ↔ ∃ b, x = .ok b := by
  cases x with
  | ok b => exact ⟨fun _ => ⟨b, rfl⟩, fun _ => rfl⟩
  | error e => exact ⟨fun h => (Bool.false_ne_true h).elim, fun ⟨b, h⟩ => by cases h⟩

def isText : Json → Bool
  | .str _ => true
  | _ => false

/-- The first upload is accepted, and the second, of another assessment, fails for it, though it would
    succeed without a history; what is read of the row for the index is no number. -/
theorem index_poisons :
    ((sampleState ![withIndex, halves] sampleSteps).db.stageResults.rows.map (·.status)) =
      [.complete, .failed] ∧
    ¬ Unpoisoned sampleLibrary noOthers (sampleState ![withIndex, halves] sampleSteps).db ∧
    ∀ r ∈ (sampleState ![withIndex, halves] sampleSteps).db.stageResults.rows, r.status = .complete →
      ∀ x, ¬ Holds (readIndex r.snapshot.inputs) x := by
  refine ⟨by decide +kernel, fun h => ?_, fun r hr hstatus x hholds => ?_⟩
  · have hreturns : ((FIRASVulnerabilityCalculator sampleLibrary).compute ⟨halves, [], 0⟩).isOk =
        true := by decide +kernel
    have hraises : ((FIRASVulnerabilityCalculator sampleLibrary).compute ⟨halves,
        (sampleState ![withIndex, halves] sampleSteps).db.listHistoricalIndicators
          (sampleRun 1 halves).command, 0⟩).isOk = false := by decide +kernel
    obtain ⟨indicators, hindicators⟩ := isOk_iff.mp hreturns
    have hsucceeds := isOk_iff.mpr (h (sampleRun 1 halves).command rfl List.mem_cons_self
      (FIRASVulnerabilityCalculator sampleLibrary) rfl halves indicators hindicators)
    rw [hraises] at hsucceeds
    exact Bool.false_ne_true hsucceeds
  · have htexts : (sampleState ![withIndex, halves] sampleSteps).db.stageResults.rows.all (fun r =>
        r.status ≠ .complete ∨ isText (readIndex r.snapshot.inputs)) = true := by decide +kernel
    have htext := of_decide_eq_true (List.all_eq_true.mp htexts r hr)
    obtain ⟨n, hn, -⟩ := hholds
    generalize readIndex r.snapshot.inputs = v at hn htext
    cases v with
    | str s => cases hn
    | _ => exact absurd (htext.resolve_left (not_not.mpr hstatus)) Bool.false_ne_true

end GeoRisk.Analysis.Firas.Floats
