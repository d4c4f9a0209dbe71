import Mathlib
import GeoRisk.Analysis.RawInputs

/-! The supporting stages of the wildfire strategy, over exact numbers, with the exponential as a
    parameter. No index is computed from what they put out:

        weather, fuel, people ─▶ linear predictor ─▶ 1 / (1 + exp (−x)) ─▶ probability of a burn
        NIR, SWIR, RED        ─▶ ratios before and after a fire ─▶ severity
        fires of the past     ─▶ rates, and a probability of its own -/

namespace GeoRisk.Analysis.Wrras

open Strategies

/-- What a supporting stage raises. -/
inductive SupportError (α : Type) where
  | compute (error : ComputeError α)
  | band (name : String) (value : α)
  | mustBePositive (name : String)
  | mustNotBeNegative (name : String)
  /-- `date.fromisoformat` of another text. -/
  | dateFormat (text : String)

abbrev Supported (α β : Type) := Except (SupportError α) β

/-- A step that raises as the calculators of the other stages do. -/
def lifted {α β : Type} (x : Computed α β) : Supported α β :=
  match x with
  | .ok b => .ok b
  | .error e => .error (.compute e)

section Code

variable {α : Type} [Field α] [LinearOrder α] [FloorRing α]

/-- `_sigmoid`. -/
def sigmoid (exp : α → α) (x : α) : α := 1 / (1 + exp (-x))

/-- Coefficients, by the codes of the predictors; relative humidity is inverted. -/
def linear (intercept : α) (beta : List (String × α)) (read : String → α) : α :=
  intercept + (beta.map fun p =>
    p.2 * (if p.1 = "relative_humidity" then 1 - read p.1 else read p.1)).sum

/-! ### Burn probability -/

namespace BurnProbability

/-- `_BETA`, but for the intercept. -/
def BETA : List (String × α) :=
  [("temperature", 25 / 10), ("wind_speed", 2), ("relative_humidity", 2), ("fuel_load", 25 / 10),
   ("drought_index", 2), ("human_activity", 15 / 10), ("historical_fire_index", 1)]

def INTERCEPT : α := -(35 / 10)

/-- The arguments of `compute_burn_occurrence_probability`, in their order. -/
def KEYS : List String :=
  ["temperature", "wind_speed", "relative_humidity", "fuel_load", "drought_index",
   "human_activity", "historical_fire_index"]

def computeBurnOccurrenceProbability (exp : α → α) (values : List (String × RawValue α)) :
    Computed α α := do
  let checked ← values.mapM fun p => do return (p.1, ← checkUnit (.indexRange p.1) p.2)
  return Lib.roundTo 4
    (sigmoid exp (linear INTERCEPT BETA fun key => (checked.lookup key).getD 0))

def compute (exp : α → α) (inputs : RawInputs α) :
    Supported α (List (Strategies.Indicator α)) := do
  let values ← lifted (entries inputs KEYS)
  let bop ← lifted (computeBurnOccurrenceProbability exp values)
  return [{ code := "burn_occurrence_probability", value := bop, unit := "probability" }]

end BurnProbability

/-! ### Burn severity -/

namespace BurnSeverity

def nbr (nir swir : α) : α := if nir + swir ≠ 0 then (nir - swir) / (nir + swir) else 0

def bai (red nir : α) : α :=
  let denom := (1 / 10 - red) ^ 2 + (6 / 100 - nir) ^ 2
  if denom ≠ 0 then 1 / denom else 0

def KEYS : List String :=
  ["nir_pre", "swir_pre", "nir_post", "swir_post", "red_pre", "red_post"]

/-- `_validate_band`. -/
def validateBand (name : String) (value : RawValue α) : Supported α α := do
  let x ← lifted value.toNumber
  if 0 ≤ x ∧ x ≤ 1 then return x else throw (.band name x)

/-- The results, of the bands by their names. -/
def burnSeverity (band : String → α) : List (String × α) :=
  let nbrPre := Lib.roundTo 4 (nbr (band "nir_pre") (band "swir_pre"))
  let nbrPost := Lib.roundTo 4 (nbr (band "nir_post") (band "swir_post"))
  let dnbr := Lib.roundTo 4 (nbrPre - nbrPost)
  let rbr := Lib.roundTo 4 (dnbr / (nbrPre + 1001 / 1000))
  let baiPre := Lib.roundTo 4 (bai (band "red_pre") (band "nir_pre"))
  let baiPost := Lib.roundTo 4 (bai (band "red_post") (band "nir_post"))
  let dbai := Lib.roundTo 4 (baiPost - baiPre)
  [("nbr_pre", nbrPre), ("nbr_post", nbrPost), ("dnbr", dnbr), ("rbr", rbr), ("bai_pre", baiPre),
   ("bai_post", baiPost), ("dbai", dbai)]

def compute (inputs : RawInputs α) : Supported α (List (Strategies.Indicator α)) := do
  let values ← lifted (entries inputs KEYS)
  let bands ← values.mapM fun p => do return (p.1, ← validateBand p.1 p.2)
  return (burnSeverity fun key => (bands.lookup key).getD 0).map fun p =>
    { code := p.1, value := p.2, unit := "index" }

end BurnSeverity

/-! ### Fire regime -/

namespace FireRegime

/-- `_BETA`, but for the intercept. -/
def BETA : List (String × α) :=
  [("temperature", 3), ("wind_speed", 2), ("relative_humidity", 25 / 10), ("fuel_load", 25 / 10),
   ("drought_index", 2), ("human_activity", 15 / 10)]

def INTERCEPT : α := -4

/-- `inputs.get(key, 0.5)`. -/
def getHalf (inputs : RawInputs α) (key : String) : RawValue α :=
  (inputs.lookup key).getD (.number (1 / 2))

/-- `date.fromisoformat(inputs[key])`, by the number of the day. -/
def dateOf (fromIsoformat : String → Option ℤ) (value : RawValue α) : Supported α ℤ :=
  match value with
  | .text s =>
    match fromIsoformat s with
    | some day => .ok day
    | none => .error (.dateFormat s)
  | _ => .error (.compute .typeError)

/-- `compute_fire_regime`; what the fires of the past do not determine is left out. -/
def computeFireRegime (exp : α → α) (read : String → RawValue α) (firstFire lastFire : ℤ) :
    Supported α (List (String × Option α)) := do
  let observationYears ← lifted (read "observation_years").toNumber
  if observationYears ≤ 0 then throw (.mustBePositive "observation_years")
  let areaKm2 ← lifted (read "area_km2").toNumber
  if areaKm2 ≤ 0 then throw (.mustBePositive "area_km2")
  let fireCount ← lifted (read "fire_count").toNumber
  if fireCount < 0 then throw (.mustNotBeNegative "fire_count")
  let totalBurnedPixels ← lifted (read "total_burned_pixels").toNumber
  if totalBurnedPixels < 0 then throw (.mustNotBeNegative "total_burned_pixels")
  let ff := Lib.roundTo 4 (fireCount / observationYears)
  let fri := if 0 < fireCount then some (Lib.roundTo 4 (observationYears / fireCount)) else none
  let fod := Lib.roundTo 4 (fireCount / areaKm2)
  let fpi ← if 0 < totalBurnedPixels then do
      let repeated ← lifted (read "repeated_burned_pixels").toNumber
      pure (Lib.roundTo 4 (repeated / totalBurnedPixels))
    else pure 0
  let bae ← lifted (read "burned_area_ha").toNumber
  let fsl : α := if firstFire ≤ lastFire then ((lastFire - firstFire : ℤ) : α) else 0
  let fsf ← if 0 < fireCount then do
      let severe ← lifted (read "high_severity_fires").toNumber
      pure (Lib.roundTo 4 (severe / fireCount))
    else pure 0
  let predictors ← BETA.mapM fun p : String × α => do
    return (p.1, ← lifted (read p.1).toNumber)
  let fop := Lib.roundTo 4
    (sigmoid exp (linear INTERCEPT BETA fun key => (predictors.lookup key).getD 0))
  return [("fire_frequency", some ff), ("fire_return_interval", fri),
    ("fire_occurrence_density", some fod), ("fire_persistence_index", some fpi),
    ("burned_area_extent", some (Lib.roundTo 4 bae)), ("fire_season_length", some fsl),
    ("fire_severity_frequency", some fsf), ("fire_occurrence_probability", some fop)]

/-- The entries that have to be there. -/
def KEYS : List String :=
  ["observation_years", "fire_count", "area_km2", "repeated_burned_pixels", "total_burned_pixels",
   "burned_area_ha", "first_fire_date", "last_fire_date", "high_severity_fires"]

def compute (exp : α → α) (fromIsoformat : String → Option ℤ) (inputs : RawInputs α) :
    Supported α (List (Strategies.Indicator α)) := do
  let given ← lifted (entries inputs (KEYS.take 6))
  let firstFire ← dateOf fromIsoformat (← lifted (item inputs "first_fire_date"))
  let lastFire ← dateOf fromIsoformat (← lifted (item inputs "last_fire_date"))
  let severe ← lifted (item inputs "high_severity_fires")
  let read := fun key => if key = "high_severity_fires" then severe else
    (given.lookup key).getD (getHalf inputs key)
  let results ← computeFireRegime exp read firstFire lastFire
  return results.filterMap fun p => p.2.map fun value => { code := p.1, value, unit := "index" }

end FireRegime

end Code

end GeoRisk.Analysis.Wrras
