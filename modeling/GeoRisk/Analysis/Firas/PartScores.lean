import GeoRisk.Analysis.Firas.Observation

/-! When the parts of the flood insecurity lie between 0 and 1. They are neither clamped nor drawn from
    values that are checked:

        Σ wᵢ xᵢ ─round─▶ cpc_score …      xᵢ unchecked, Σ wᵢ = 1 but for the rounding of each wᵢ

    The weights are those of the history and the observation at hand. Of a part that reads no more than it
    is given, the sum decides; values in range are out of danger but for the last digit of the weights. -/

namespace GeoRisk.Analysis.Firas

open Strategies Lib

/-! ### What a part needs -/

section Code

variable {α : Type} [Field α] [LinearOrder α] [FloorRing α]

end Code

/-! ### What was computed was read -/

section Read

variable {α : Type} [Field α] [LinearOrder α] [FloorRing α] {log : α → α}
  {inputs record : RawInputs α} {historical : List (RawInputs α)} {keys : List String}

end Read

/-! ### Weighted sums -/

section Sums

variable {α : Type} [Field α] [LinearOrder α] [IsStrictOrderedRing α]

end Sums

/-! ### Values in range -/

section Range

variable {rows past : List (List ℝ)} {xs : List ℝ} {m : ℕ}

end Range

end GeoRisk.Analysis.Firas
