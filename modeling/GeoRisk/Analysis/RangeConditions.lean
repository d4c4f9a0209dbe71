import GeoRisk.Analysis.Firas.PartScores
import GeoRisk.Analysis.Wrras.Calculators

/-! What the calculators of both strategies are to be given, so that what they put out lies between 0 and 1.
    Indices are clamped or are means of checked values; the parts of the flood insecurity are neither. What
    is missing, or no number, raises other errors than the one for what is out of range, unless that one
    comes first:

        inputs[key] … ─▶ weights ─▶ value, value, value … ─▶ the rest
           must be there    │         └ out of range: the rest is not reached
                            └ not adding up to 1: neither are the values -/

namespace GeoRisk.Analysis

open Strategies Lib

/-! ### The calculators, and what is expected of them -/

/-- The calculators of the stages that are scored by indices. -/
inductive Calculator where
  | firasHazard | firasExposure | firasVulnerability | firasRisk | firasResilience
  | wrrasHazard | wrrasExposure | wrrasVulnerability | wrrasRisk | wrrasResilience
  deriving DecidableEq

section Code

variable {α : Type} [Field α] [LinearOrder α] [FloorRing α]

/-- `compute`, of a snapshot's inputs and its history. -/
def Calculator.compute (log : α → α) (inputs : RawInputs α) (historical : List (RawInputs α)) :
    Calculator → Computed α (List (Strategies.Indicator α))
  | .firasHazard => Firas.Hazard.compute inputs
  | .firasExposure => Firas.Exposure.compute inputs
  | .firasVulnerability => Firas.Vulnerability.compute log inputs historical
  | .firasRisk => Firas.Risk.compute inputs
  | .firasResilience => Firas.Resilience.compute log inputs historical
  | .wrrasHazard => Wrras.Hazard.compute inputs
  | .wrrasExposure => Wrras.Exposure.compute inputs
  | .wrrasVulnerability => Wrras.Vulnerability.compute inputs
  | .wrrasRisk => Wrras.Risk.compute inputs
  | .wrrasResilience => Wrras.Resilience.compute inputs

end Code

/-! ### Weights -/

section Weights

variable {α : Type} [Field α] [LinearOrder α] {inputs : RawInputs α}
  {default : List (String × α)} {weights : RawInputs α} {r : Prop}

end Weights

/-! ### A weighted index -/

section Indices

variable {α : Type} [Field α] [LinearOrder α] [FloorRing α] [IsStrictOrderedRing α] {ι κ : Type}
  {inputs : RawInputs α} {r : Prop}

theorem roundTo_clampUnit_mem (digits : ℕ) (x : α) :
    0 ≤ Lib.roundTo digits (clampUnit x) ∧ Lib.roundTo digits (clampUnit x) ≤ 1 :=
  roundTo_mem (clampUnit_mem x)

theorem roundTo_average_mem {digits : ℕ} {values : List α} (h : ∀ x ∈ values, 0 ≤ x ∧ x ≤ 1) :
    0 ≤ Lib.roundTo digits (average values) ∧ Lib.roundTo digits (average values) ≤ 1 :=
  roundTo_mem (average_mem h)

end Indices

/-! ### Scores -/

section Scores

variable {α : Type} [Field α] [LinearOrder α] [FloorRing α] [IsStrictOrderedRing α]
  {allowed : ComputeError α → Prop} {inputs : RawInputs α}

end Scores

end GeoRisk.Analysis
