import GeoRisk.Analysis.Firas.Observation
import GeoRisk.Analysis.Handlers
import GeoRisk.Analysis.Wrras.Calculators
import GeoRisk.Analysis.Wrras.Supporting

/-! The two hazard strategies as the registry has them: their calculators over exact numbers, put between
    the dictionaries of the handlers. Every number of a dictionary is exact but for infinities and NaN,
    which no stored snapshot holds; a calculator that is given one of those raises.

        Json ─rawValue─▶ RawValue ℚ ─compute─▶ indicators ─indicatorOf─▶ Indicator
                                        └───▶ error ─describe─▶ text

    What the libraries of Python compute or say is a parameter: logarithm, exponential, dates and the
    texts of errors. -/

namespace GeoRisk.Analysis

open Strategies

/-! ### Dictionaries -/

mutual
/-- A value as the calculators see it. -/
def rawValue : Json → RawValue ℚ
  | .null => .null
  | .bool b => .number (if b then 1 else 0)
  | .int n => .number n
  | .float (.finite q) => .number q
  | .float _ => .null
  | .str s => .text s
  | .arr items => .array (rawItems items)
  | .obj fields => .object (rawFields fields)

def rawItems : List Json → List (RawValue ℚ)
  | [] => []
  | item :: items => rawValue item :: rawItems items

def rawFields : List (String × Json) → List (String × RawValue ℚ)
  | [] => []
  | (key, value) :: fields => (key, rawValue value) :: rawFields fields
end

theorem lookup_rawFields (inputs : Inputs) (key : String) :
    (rawFields inputs).lookup key = (inputs.lookup key).map rawValue := by
  induction inputs with
  | nil => rfl
  | cons p inputs ih =>
    rw [rawFields, List.lookup_cons, List.lookup_cons, ih]
    cases key == p.1 <;> rfl

theorem rawFields_hasNumber {inputs : Inputs} {key : String} {q : ℚ}
    (h : inputs.lookup key = some (.float (.finite q))) : HasNumber (rawFields inputs) key :=
  ⟨.number q, by rw [lookup_rawFields, h]; rfl, q, rfl⟩

/-- An indicator as the aggregates have it. -/
def indicatorOf (i : Strategies.Indicator ℚ) : Indicator where
  code := i.code
  value := .finite i.value
  unit := i.unit
  subIndex := i.subIndex

/-- A calculator over exact numbers, as one of the registry. -/
def exact {ε : Type} (describe : ε → String) (formulaVersion : String)
    (compute : RawInputs ℚ → List (RawInputs ℚ) → Except ε (List (Strategies.Indicator ℚ))) :
    StageCalculator where
  compute snapshot :=
    match compute (rawFields snapshot.inputs) (snapshot.historical.map rawFields) with
    | .ok indicators => .ok ⟨indicators.map indicatorOf⟩
    | .error e => .error (describe e)
  formulaVersion

section Exact

variable {ε : Type} {describe : ε → String} {formulaVersion : String}
  {compute : RawInputs ℚ → List (RawInputs ℚ) → Except ε (List (Strategies.Indicator ℚ))}
  {snapshot : ComputationSnapshot} {indicators : IndicatorSet}

theorem exact_ok : (exact describe formulaVersion compute).compute snapshot = .ok indicators ↔
    ∃ out, compute (rawFields snapshot.inputs) (snapshot.historical.map rawFields) = .ok out ∧
      indicators = ⟨out.map indicatorOf⟩ := by
  unfold exact
  dsimp only
  cases compute (rawFields snapshot.inputs) (snapshot.historical.map rawFields) with
  | ok out => simp [eq_comm]
  | error e => simp

end Exact

/-! ### The strategies -/

/-- What the strategies take from the libraries. -/
structure Library where
  log : ℚ → ℚ
  exp : ℚ → ℚ
  fromIsoformat : String → Option ℤ
  describe : ComputeError ℚ → String
  describeSupport : Wrras.SupportError ℚ → String

def FIRASHazardStrategy (lib : Library) : HazardStrategy where
  supportedStages := [.hazard, .exposure, .vulnerability, .risk, .resilience]
  getCalculator
    | .hazard => .ok (exact lib.describe "fhi-weighted-linear-v1" fun inputs _ =>
        Firas.Hazard.compute inputs)
    | .exposure => .ok (exact lib.describe "ei-weighted-average-v1" fun inputs _ =>
        Firas.Exposure.compute inputs)
    | .vulnerability => .ok (exact lib.describe "fvi-entropy-weighted-v2"
        (Firas.Vulnerability.compute lib.log))
    | .risk => .ok (exact lib.describe "fri-multiplicative-v2" fun inputs _ =>
        Firas.Risk.compute inputs)
    | .resilience => .ok (exact lib.describe "cri-ewm-v1" (Firas.Resilience.compute lib.log))
    | stageType => .error s!"FIRASHazardStrategy has no calculator for stage {stageType}"
  inputDependencies
    | .risk =>
      [(.hazard, [("flood_hazard_index", "flood_hazard_index_input")]),
       (.exposure, [("flood_exposure_index", "exposure_index_input")]),
       (.vulnerability, [("flood_insecurity_index", "flood_insecurity_index_input")])]
    | .resilience =>
      [(.vulnerability, [("cpc_score", "cpc_score"), ("ewe_score", "ewe_score"),
        ("kf_score", "kf_score"), ("dre_score", "dre_score"), ("rc_score", "rc_score")])]
    | _ => []
  historicalStages := [.vulnerability, .resilience]
  strategyVersion := "firas-2.0"

def WRRASHazardStrategy (lib : Library) : HazardStrategy where
  supportedStages := [.hazard, .exposure, .vulnerability, .risk, .resilience, .fireRegime,
    .burnOccurrenceProbability, .burnSeverity]
  getCalculator
    | .hazard => .ok (exact lib.describe "whi-weighted-linear-v1" fun inputs _ =>
        Wrras.Hazard.compute inputs)
    | .exposure => .ok (exact lib.describe "wei-equal-weight-average-v1" fun inputs _ =>
        Wrras.Exposure.compute inputs)
    | .vulnerability => .ok (exact lib.describe "wvi-wii-equal-weight-v1" fun inputs _ =>
        Wrras.Vulnerability.compute inputs)
    | .risk => .ok (exact lib.describe "wri-multiplicative-v1" fun inputs _ =>
        Wrras.Risk.compute inputs)
    | .resilience => .ok (exact lib.describe "cwri-equal-weight-v1" fun inputs _ =>
        Wrras.Resilience.compute inputs)
    | .fireRegime => .ok (exact lib.describeSupport "fire-regime-descriptive-plus-fop-v1"
        fun inputs _ => Wrras.FireRegime.compute lib.exp lib.fromIsoformat inputs)
    | .burnOccurrenceProbability => .ok (exact lib.describeSupport "bop-logistic-v1"
        fun inputs _ => Wrras.BurnProbability.compute lib.exp inputs)
    | .burnSeverity => .ok (exact lib.describeSupport "burn-severity-spectral-v1"
        fun inputs _ => Wrras.BurnSeverity.compute inputs)
    | stageType => .error s!"WRRASHazardStrategy has no calculator for stage {stageType}"
  inputDependencies
    | .risk =>
      [(.hazard, [("wildfire_hazard_index", "wildfire_hazard_index_input")]),
       (.exposure, [("wildfire_exposure_index", "wildfire_exposure_index_input")]),
       (.vulnerability, [("wildfire_vulnerability_index", "wildfire_vulnerability_index_input")])]
    | .resilience =>
      [(.vulnerability, [("cpc_score", "cpc_score"), ("ewe_score", "ewe_score"),
        ("wki_score", "wki_score"), ("ere_score", "ere_score"), ("rc_score", "rc_score")])]
    | _ => []
  historicalStages := []
  strategyVersion := "wrras-1.0"

/-- The registry of the application. -/
def applicationRegistry (lib : Library) : StrategyRegistry :=
  [(.flood, FIRASHazardStrategy lib), (.wildfire, WRRASHazardStrategy lib)]

end GeoRisk.Analysis
