import Mathlib
import GeoRisk.Analysis.RawInputs

/-! The calculators of the wildfire strategy, over exact numbers. Every index is a mean of rounded means,
    with fixed weights; the risk is the product of three of them:

        temperature … rainfall ─▶ WHI ┐
        exposed / total  (×4)  ─▶ WEI ├─▶ WRI = WHI · WEI · WVI
        sv  pv  env  ev        ─▶ WVI ┘
        cpc ewe wki ere rc     ─▶ WII, and resilience -/

namespace GeoRisk.Analysis.Wrras

open Strategies

variable {α : Type} [Field α] [LinearOrder α] [FloorRing α]

/-! ### Hazard -/

namespace Hazard

def DEFAULT_WEIGHTS : List (String × α) :=
  [("temperature", 20 / 100), ("wind_speed", 15 / 100), ("drought_index", 15 / 100),
   ("fuel_load", 15 / 100), ("vegetation_density", 10 / 100), ("slope", 10 / 100),
   ("human_activity", 10 / 100), ("rainfall", 5 / 100)]

def INDEX_KEYS : List String :=
  ["temperature", "wind_speed", "drought_index", "fuel_load", "vegetation_density", "slope",
   "human_activity", "rainfall"]

/-- What of a sub-index adds to the hazard: rainfall takes from it. -/
def oriented (key : String) (x : α) : α := if key = "rainfall" then 1 - x else x

def computeWildfireHazardIndex (values : List (String × RawValue α)) (weights : RawValue α) :
    Computed α α := do
  let weights ← weightsOf weights DEFAULT_WEIGHTS
  validateWeights "WRRAS hazard" weights
  let values ← values.mapM fun p => do return (p.1, ← checkUnit (.indexRange p.1) p.2)
  let terms ← values.mapM fun p => do return (← (← item weights p.1).toNumber) * oriented p.1 p.2
  return Lib.roundTo 4 (clampUnit terms.sum)

def compute (inputs : RawInputs α) : Computed α (List (Strategies.Indicator α)) := do
  let weights := givenWeights inputs DEFAULT_WEIGHTS
  let values ← entries inputs INDEX_KEYS
  let whi ← computeWildfireHazardIndex values weights
  let indices ← values.mapM fun p => do
    return { code := p.1, value := ← p.2.toNumber, unit := "index" : Strategies.Indicator α }
  return indices ++ [{ code := "wildfire_hazard_index", value := whi, unit := "index" }] ++
    (← weightIndicators weights DEFAULT_WEIGHTS)

end Hazard

/-! ### Exposure -/

namespace Exposure

/-- `_ratio`. -/
def ratio (exposed total : RawValue α) (name : String) : Computed α α := do
  let t ← total.toNumber
  if t < 0 then throw (.invalidIndicatorInput (.negativeAmount name))
  else
    let e ← exposed.toNumber
    if e < 0 then throw (.invalidIndicatorInput (.negativeAmount name))
    else if t = 0 then return 0
    else if t < e then throw (.invalidIndicatorInput (.exceedsTotal name e t))
    else return Lib.roundTo 4 (e / t)

/-- A category of what is exposed: the name of its amounts, of its errors and of its indicator. -/
structure Category where
  amounts : String
  name : String
  code : String

def CATEGORIES : List Category :=
  [⟨"population", "Human", "human_exposure_ratio"⟩,
   ⟨"infrastructure", "Infrastructure", "infrastructure_exposure_ratio"⟩,
   ⟨"environmental", "Environmental", "environmental_exposure_ratio"⟩,
   ⟨"economic", "Economic", "economic_exposure_ratio"⟩]

def compute (inputs : RawInputs α) : Computed α (List (Strategies.Indicator α)) := do
  let amounts ← CATEGORIES.mapM fun c => do
    return (c, ← item inputs (c.amounts ++ "_exposed"), ← item inputs (c.amounts ++ "_total"))
  let ratios ← amounts.mapM fun p => do return (p.1, ← ratio p.2.1 p.2.2 p.1.name)
  let wei := Lib.roundTo 4 (average (ratios.map (·.2)))
  return ratios.map (fun p =>
      { code := p.1.code, value := p.2, unit := "ratio", subIndex := some "categories" }) ++
    [{ code := "wildfire_exposure_index", value := wei, unit := "index" }]

end Exposure

/-! ### Vulnerability and insecurity -/

namespace Vulnerability

/-- The indicators of each dimension, and whether they are inverted. -/
def DIMENSIONS : List (String × List (String × Bool)) :=
  [("social_vulnerability",
      [("poverty_rate", false), ("literacy_level", true), ("age_dependency_ratio", false),
       ("disability_ratio", false)]),
   ("physical_vulnerability",
      [("building_flammability", false), ("roof_material_index", false),
       ("building_density", false), ("access_road_quality", true)]),
   ("environmental_vulnerability",
      [("fuel_accumulation_index", false), ("ecosystem_sensitivity", false),
       ("forest_condition", true)]),
   ("economic_vulnerability",
      [("tourism_dependence", false), ("forest_livelihood_dependence", false),
       ("agricultural_dependence", false)])]

def VULNERABILITY_INDICATORS : List String := DIMENSIONS.flatMap fun d => d.2.map (·.1)

/-- The five parts of insecurity, by the codes of their scores. -/
def SUB_INDEX_KEYS : List (String × List String) :=
  [("cpc_score",
      ["firebreak_coverage", "community_training", "fire_committee_presence",
       "equipment_availability"]),
   ("ewe_score", ["warning_timeliness", "warning_accessibility", "warning_accuracy"]),
   ("wki_score", ["fire_awareness", "fire_prevention_knowledge", "evacuation_knowledge"]),
   ("ere_score", ["response_time_index", "suppression_efficiency", "resource_adequacy"]),
   ("rc_score", ["forest_restoration", "economic_recovery", "community_recovery"])]

def INSECURITY_INDICATORS : List String := SUB_INDEX_KEYS.flatMap (·.2)

/-- `_validate` of an entry. -/
def validated (data : RawInputs α) (key : String) : Computed α α := do
  checkUnit (.indicatorRange key) (← item data key)

def dimensionScore (data : RawInputs α) (indicators : List (String × Bool)) : Computed α α := do
  let scores ← indicators.mapM fun p => do
    let value ← validated data p.1
    return if p.2 then 1 - value else value
  return Lib.roundTo 4 (average scores)

def subScore (data : RawInputs α) (keys : List String) : Computed α α := do
  return Lib.roundTo 4 (average (← keys.mapM (validated data)))

/-- The dimensions, and the index. -/
def computeWildfireVulnerabilityIndex (data : RawInputs α) :
    Computed α (List (String × α) × α) := do
  let scores ← DIMENSIONS.mapM fun d => do return (d.1, ← dimensionScore data d.2)
  return (scores, Lib.roundTo 4 (average (scores.map (·.2))))

/-- The parts, and the index. -/
def computeWildfireInsecurityIndex (data : RawInputs α) (wvi : α) :
    Computed α (List (String × α) × α) := do
  let wvi ← checkUnit (.indicatorRange "wildfire_vulnerability_index") (.number wvi)
  let scores ← SUB_INDEX_KEYS.mapM fun s => do return (s.1, ← subScore data s.2)
  return (scores, Lib.roundTo 4 (clampUnit ((((scores.map fun s => 1 - s.2).sum) + wvi) / 6)))

def compute (inputs : RawInputs α) : Computed α (List (Strategies.Indicator α)) := do
  let vulnerabilityData ← entries inputs VULNERABILITY_INDICATORS
  let (dimensions, wvi) ← computeWildfireVulnerabilityIndex vulnerabilityData
  let insecurityData ← entries inputs INSECURITY_INDICATORS
  let (parts, wii) ← computeWildfireInsecurityIndex insecurityData wvi
  return dimensions.map (fun d => { code := d.1, value := d.2, subIndex := some "wvi" }) ++
    [{ code := "wildfire_vulnerability_index", value := wvi, unit := "index" }] ++
    parts.map (fun s => { code := s.1, value := s.2, subIndex := some "wii" }) ++
    [{ code := "wildfire_insecurity_index", value := wii, unit := "index" }]

end Vulnerability

/-! ### Risk and resilience -/

namespace Risk

def computeWildfireRiskIndex (whi wei wvi : RawValue α) : Computed α α := do
  let whi ← checkUnit (.indexRange "wildfire_hazard_index") whi
  let wei ← checkUnit (.indexRange "wildfire_exposure_index") wei
  let wvi ← checkUnit (.indexRange "wildfire_vulnerability_index") wvi
  return Lib.roundTo 4 (clampUnit (whi * wei * wvi))

def compute (inputs : RawInputs α) : Computed α (List (Strategies.Indicator α)) := do
  let whi ← item inputs "wildfire_hazard_index_input"
  let wei ← item inputs "wildfire_exposure_index_input"
  let wvi ← item inputs "wildfire_vulnerability_index_input"
  let wri ← computeWildfireRiskIndex whi wei wvi
  return [{ code := "wildfire_risk_index", value := wri, unit := "index" }]

end Risk

namespace Resilience

def SUB_INDEX_KEYS : List String := ["cpc_score", "ewe_score", "wki_score", "ere_score", "rc_score"]

def computeCommunityWildfireResilienceIndex (data : RawInputs α) : Computed α α := do
  let scores ← data.mapM fun p => checkUnit (.indexRange p.1) p.2
  return Lib.roundTo 4 (average scores)

def compute (inputs : RawInputs α) : Computed α (List (Strategies.Indicator α)) := do
  let data ← entries inputs SUB_INDEX_KEYS
  let cwri ← computeCommunityWildfireResilienceIndex data
  return [{ code := "community_wildfire_resilience_index", value := cwri, unit := "index" }]

end Resilience

/-! ### Stages on one another -/

/-- `_INPUT_DEPENDENCIES` of the risk: what the index of each stage before is given to it as. -/
def riskInputs (hazard exposure vulnerability : List (Strategies.Indicator α)) : RawInputs α :=
  let given := fun (indicators : List (Strategies.Indicator α)) code key =>
    (key, match valueOf indicators code with
      | some x => RawValue.number x
      | none => .null)
  [given hazard "wildfire_hazard_index" "wildfire_hazard_index_input",
   given exposure "wildfire_exposure_index" "wildfire_exposure_index_input",
   given vulnerability "wildfire_vulnerability_index" "wildfire_vulnerability_index_input"]

end GeoRisk.Analysis.Wrras
