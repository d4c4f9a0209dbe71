import GeoRisk.Analysis.Firas.Ewm
import GeoRisk.Analysis.RawInputs

/-! The calculators of the flood strategy, over exact numbers. Two of them weigh their columns by entropy,
    over the observations of the history and the one at hand:

        rainfall … soil           ─▶ FHI ┐
        exposed / total  (×8)     ─▶ EI  ├─▶ FRI = FHI · EI · FII
        12 indicators     ─EWM─▶ FVI ─┐  │
        16 indicators     ─EWM─▶ cpc ewe kf dre rc ─EWM─▶ FII
                                     └─EWM─▶ CRI

    What a calculator reads of a row of the history it checks no more than Python does. -/

namespace GeoRisk.Analysis.Firas

open Strategies

variable {α : Type} [Field α] [LinearOrder α] [FloorRing α]

/-! ### Matrices -/

/-- Rows of one length, as a matrix. -/
def matrixOf (m : ℕ) (rows : List (List α)) : Fin rows.length → Fin m → α :=
  fun i j => (rows.get i).getD j 0

/-- `compute_weights` of rows of numbers. -/
def weightsOfRows (log : α → α) (m : ℕ) (rows : List (List α)) : List α :=
  (computeWeights log (matrixOf m rows)).1

/-- `compute_weights` of rows of raw values: a single row is not read. -/
def weightsOfRaw (log : α → α) (m : ℕ) (rows : List (List (RawValue α))) : Computed α (List α) :=
  if rows.length < 2 then .ok (List.replicate m (Lib.roundTo 6 (1 / m)))
  else do return weightsOfRows log m (← rows.mapM (·.mapM RawValue.toNumber))

/-- `[record[k] for k in keys]`. -/
def rowOf (record : RawInputs α) (keys : List String) : Computed α (List (RawValue α)) :=
  keys.mapM (item record)

/-- `sum(w * v for w, v in zip(weights, values, strict=True))`. -/
def weightedSum (weights : List α) (values : List (RawValue α)) : Computed α α := do
  return (List.zipWith (· * ·) weights (← values.mapM RawValue.toNumber)).sum

/-! ### Hazard -/

namespace Hazard

def DEFAULT_WEIGHTS : List (String × α) :=
  [("rainfall", 25 / 100), ("water_level", 25 / 100), ("slope", 15 / 100), ("drainage", 15 / 100),
   ("land_use", 10 / 100), ("soil", 10 / 100)]

/-- `_WEIGHT_KEYS` and `_INDEX_KEYS`, side by side. -/
def KEYS : List (String × String) :=
  [("rainfall", "rainfall_index"), ("water_level", "water_level_index"), ("slope", "slope_index"),
   ("drainage", "drainage_index"), ("land_use", "land_use_index"), ("soil", "soil_index")]

/-- The values come with the keys of their weights and their own. -/
def computeFloodHazardIndex (values : List ((String × String) × RawValue α))
    (weights : RawValue α) : Computed α α := do
  let weights ← weightsOf weights DEFAULT_WEIGHTS
  validateWeights "Hazard" weights
  let values ← values.mapM fun p => do return (p.1, ← checkUnit (.indexRange p.1.2) p.2)
  let terms ← values.mapM fun p => do return (← (← item weights p.1.1).toNumber) * p.2
  return Lib.roundTo 4 (clampUnit terms.sum)

def compute (inputs : RawInputs α) : Computed α (List (Strategies.Indicator α)) := do
  let weights := givenWeights inputs DEFAULT_WEIGHTS
  let values ← KEYS.mapM fun k => do return (k, ← item inputs k.2)
  let fhi ← computeFloodHazardIndex values weights
  let indices ← values.mapM fun p => do
    return { code := p.1.2, value := ← p.2.toNumber, unit := "index" : Strategies.Indicator α }
  return indices ++ [{ code := "flood_hazard_index", value := fhi, unit := "index" }] ++
    (← weightIndicators weights DEFAULT_WEIGHTS)

end Hazard

/-! ### Exposure -/

namespace Exposure

def ASSETS : List String :=
  ["population", "houses", "roads", "schools", "hospitals", "power_infrastructure",
   "agricultural_land", "livestock"]

def DEFAULT_WEIGHTS : List (String × α) :=
  [("population", 25 / 100), ("houses", 20 / 100), ("hospitals", 15 / 100), ("schools", 10 / 100),
   ("roads", 10 / 100), ("agricultural_land", 10 / 100), ("power_infrastructure", 5 / 100),
   ("livestock", 5 / 100)]

/-- `compute_asset_exposure_ratio`. -/
def assetExposureRatio (exposed total : RawValue α) : Computed α α := do
  let t ← total.toNumber
  if t ≤ 0 then return 0
  else return Lib.roundTo 4 (min ((← exposed.toNumber) / t) 1)

/-- `d.get(key, default)`. -/
def getOr (d : RawValue α) (key : String) (default : RawValue α) : Computed α (RawValue α) :=
  match d with
  | .object items => .ok ((items.lookup key).getD default)
  | _ => .error .attributeError

def computeAllRatios (assetData : RawValue α) : Computed α (List (String × α)) :=
  ASSETS.mapM fun asset => do
    let exposed ← getOr (← getOr assetData asset (.object [])) "exposed" (.number 0)
    let total ← getOr (← getOr assetData asset (.object [])) "total" (.number 0)
    return (asset, ← assetExposureRatio exposed total)

def computeExposureIndex (ratios : List (String × α)) (weights : RawValue α) : Computed α α := do
  let weights ← weightsOf weights DEFAULT_WEIGHTS
  validateWeights "Exposure" weights
  let ratios ← ratios.mapM fun p => do return (p.1, ← checkUnit (.ratioRange p.1) (.number p.2))
  let terms ← ratios.mapM fun p => do return (← (← item weights p.1).toNumber) * p.2
  return Lib.roundTo 4 (clampUnit terms.sum)

def compute (inputs : RawInputs α) : Computed α (List (Strategies.Indicator α)) := do
  let weights := givenWeights inputs DEFAULT_WEIGHTS
  let ratios ← computeAllRatios (← item inputs "asset_data")
  let ei ← computeExposureIndex ratios weights
  return ratios.map (fun p => { code := p.1 ++ "_exposure_ratio", value := p.2, unit := "ratio"
                                subIndex := some "assets" }) ++
    [{ code := "flood_exposure_index", value := ei, unit := "index" }]

end Exposure

/-! ### Vulnerability and insecurity -/

namespace Vulnerability

/-- The indicators, and whether they are inverted. -/
def VULNERABILITY_INDICATORS : List (String × Bool) :=
  [("population_density", false), ("elderly_population", false), ("children_population", false),
   ("disability_status", false), ("education_level", true), ("poverty_level", false),
   ("housing_quality", true), ("building_materials", true), ("infrastructure_condition", true),
   ("household_income", true), ("livelihood_dependence", false), ("crop_dependence", false)]

/-- The five parts of insecurity, by the codes of their scores. -/
def SUB_INDEX_KEYS : List (String × List String) :=
  [("cpc_score",
      ["emergency_plans", "community_training", "evacuation_preparedness", "resource_availability"]),
   ("ewe_score", ["warning_timeliness", "warning_accuracy", "warning_accessibility"]),
   ("kf_score", ["flood_awareness", "previous_experience", "understanding_of_risk"]),
   ("dre_score", ["response_speed", "relief_distribution", "coordination"]),
   ("rc_score", ["economic_recovery", "infrastructure_recovery", "social_recovery"])]

def INSECURITY_INDICATORS : List String := SUB_INDEX_KEYS.flatMap (·.2)

/-- `apply_inverse`. -/
def applyInverse (inverse : Bool) (x : α) : α := if inverse then Lib.roundTo 4 (1 - x) else x

/-- `_transformed_row`. -/
def transformedRow (record : RawInputs α) : Computed α (List α) :=
  VULNERABILITY_INDICATORS.mapM fun p => do
    return applyInverse p.2 (← checkUnit (.indicatorRange p.1) (← item record p.1))

/-- The index, and the weights of the indicators. -/
def computeFloodVulnerabilityIndex (log : α → α) (data : RawInputs α)
    (historical : List (RawInputs α)) : Computed α (α × List α) := do
  let past ← historical.mapM transformedRow
  let current ← transformedRow data
  let weights := weightsOfRows log VULNERABILITY_INDICATORS.length (past ++ [current])
  return (Lib.roundTo 4 (clampUnit (List.zipWith (· * ·) weights current).sum), weights)

/-- A part of insecurity. -/
def subScore (log : α → α) (data : RawInputs α) (historical : List (RawInputs α))
    (keys : List String) : Computed α α := do
  let past ← historical.mapM fun record => rowOf record keys
  let current ← rowOf data keys
  let weights ← weightsOfRaw log keys.length (past ++ [current])
  return Lib.roundTo 6 (← weightedSum weights current)

/-- A row of the matrix of insecurity: what the parts leave to 1, and the vulnerability. -/
def insecurityRow (record : RawInputs α) : Computed α (List (RawValue α)) := do
  let complements ← SUB_INDEX_KEYS.mapM fun s => do
    return .number (1 - (← (← item record s.1).toNumber))
  return complements ++ [← item record "flood_vulnerability_index_input"]

/-- The parts, and the index. -/
def computeInsecurity (log : α → α) (data : RawInputs α) (historical : List (RawInputs α)) :
    Computed α (List (String × α) × α) := do
  let scores ← SUB_INDEX_KEYS.mapM fun s => do return (s.1, ← subScore log data historical s.2)
  let past ← historical.mapM insecurityRow
  let current := scores.map (fun s => .number (1 - s.2)) ++
    [← item data "flood_vulnerability_index_input"]
  let weights ← weightsOfRaw log (SUB_INDEX_KEYS.length + 1) (past ++ [current])
  return (scores, Lib.roundTo 4 (clampUnit (← weightedSum weights current)))

/-- A row of the history, with the vulnerability it had under the key that insecurity reads. -/
def forInsecurity (record : RawInputs α) : RawInputs α :=
  setItem record "flood_vulnerability_index_input"
    ((record.lookup "flood_vulnerability_index_input").getD
      ((record.lookup "flood_vulnerability_index").getD .null))

def compute (log : α → α) (inputs : RawInputs α) (historical : List (RawInputs α)) :
    Computed α (List (Strategies.Indicator α)) := do
  let vulnerabilityCurrent ← entries inputs (VULNERABILITY_INDICATORS.map (·.1))
  let (fvi, weights) ← computeFloodVulnerabilityIndex log vulnerabilityCurrent historical
  let insecurityCurrent ← entries inputs INSECURITY_INDICATORS
  let (scores, fii) ← computeInsecurity log
    (setItem insecurityCurrent "flood_vulnerability_index_input" (.number fvi))
    (historical.map forInsecurity)
  return [{ code := "flood_vulnerability_index", value := fvi, unit := "index" }] ++
    List.zipWith (fun p w =>
      { code := "fvi_weight_" ++ p.1, value := w, subIndex := some "weights" })
      VULNERABILITY_INDICATORS weights ++
    scores.map (fun s => { code := s.1, value := s.2, subIndex := some "fii" }) ++
    [{ code := "flood_insecurity_index", value := fii, unit := "index" }]

end Vulnerability

/-! ### Risk and resilience -/

namespace Risk

def computeRisk (fhi ei fii : RawValue α) : Computed α α := do
  let fhi ← checkUnit (.indexRange "flood_hazard_index") fhi
  let ei ← checkUnit (.indexRange "exposure_index") ei
  let fii ← checkUnit (.indexRange "flood_insecurity_index") fii
  return Lib.roundTo 4 (clampUnit (fhi * ei * fii))

def compute (inputs : RawInputs α) : Computed α (List (Strategies.Indicator α)) := do
  let fhi ← item inputs "flood_hazard_index_input"
  let ei ← item inputs "exposure_index_input"
  let fii ← item inputs "flood_insecurity_index_input"
  return [{ code := "flood_risk_index", value := ← computeRisk fhi ei fii, unit := "index" }]

end Risk

namespace Resilience

/-- `_SUB_INDEX_KEYS`, and the codes of their weights. -/
def SUB_INDEX_KEYS : List (String × String) :=
  [("cpc_score", "cri_weight_cpc"), ("ewe_score", "cri_weight_ewe"), ("kf_score", "cri_weight_kf"),
   ("dre_score", "cri_weight_dre"), ("rc_score", "cri_weight_rc")]

/-- The weights, and the index. -/
def computeResilience (log : α → α) (insecurity : RawInputs α) (historical : List (RawInputs α)) :
    Computed α (List α × α) := do
  let past ← historical.mapM fun record => rowOf record (SUB_INDEX_KEYS.map (·.1))
  let current ← rowOf insecurity (SUB_INDEX_KEYS.map (·.1))
  let weights ← weightsOfRaw log SUB_INDEX_KEYS.length (past ++ [current])
  return (weights, Lib.roundTo 4 (clampUnit (← weightedSum weights current)))

def compute (log : α → α) (inputs : RawInputs α) (historical : List (RawInputs α)) :
    Computed α (List (Strategies.Indicator α)) := do
  let insecurity ← entries inputs (SUB_INDEX_KEYS.map (·.1))
  let (weights, cri) ← computeResilience log insecurity historical
  return List.zipWith (fun k w => { code := k.2, value := w, subIndex := some "weights" })
      SUB_INDEX_KEYS weights ++
    [{ code := "community_resilience_index", value := cri, unit := "index" }]

end Resilience

end GeoRisk.Analysis.Firas
