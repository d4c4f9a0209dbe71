import GeoRisk.Analysis.RangeConditions

/-! The range of what the calculators of both strategies put out: a calculator raises what it raises of
    invalid indicators, or its scores lie between 0 and 1, exactly when it is given what it needs. Each
    calculator is taken apart in its own order; what has been read when a step is reached is known from the
    steps before. -/

namespace GeoRisk.Analysis

open Strategies Lib

/-! ### Hazards -/

section Hazards

variable {α : Type} [Field α] [LinearOrder α] [FloorRing α] [IsStrictOrderedRing α]
  {inputs : RawInputs α} {historical : List (RawInputs α)} {log : α → α}

end Hazards

/-! ### Exposures -/

section Exposures

variable {α : Type} [Field α] [LinearOrder α] [FloorRing α] [IsStrictOrderedRing α]
  {inputs : RawInputs α} {historical : List (RawInputs α)} {log : α → α}

end Exposures

/-! ### Means of means -/

section Means

variable {α : Type} [Field α] [LinearOrder α] [FloorRing α] [IsStrictOrderedRing α]
  {inputs data : RawInputs α} {historical : List (RawInputs α)} {log : α → α} {r : Prop}

omit [FloorRing α] [IsStrictOrderedRing α] in
theorem validated_puts {data : RawInputs α} {key : String} : Meets (fun _ => True)
    (fun x => 0 ≤ x ∧ x ≤ 1) (Wrras.Vulnerability.validated data key) := by
  cases hx : Wrras.Vulnerability.validated data key with
  | error e => trivial
  | ok x =>
    obtain ⟨value, -, hx⟩ := Lib.bind_ok.mp hx
    exact (checkUnit_ok.mp hx).2

theorem dimensionScore_puts {data : RawInputs α} {indicators : List (String × Bool)} :
    Meets (fun _ => True) (fun x => 0 ≤ x ∧ x ≤ 1)
      (Wrras.Vulnerability.dimensionScore data indicators) := by
  refine Meets.bind (Meets.mapM (R := fun _ x => 0 ≤ x ∧ x ≤ 1) fun p _ => ?_) fun scores hscores =>
    roundTo_average_mem fun x hx => (exists_of_forall₂ hscores hx).choose_spec.2
  refine validated_puts.bind fun x hx => ?_
  cases p.2 with
  | false => exact hx
  | true => exact ⟨sub_nonneg.mpr hx.2, sub_le_self 1 hx.1⟩

theorem subScore_puts {data : RawInputs α} {keys : List String} : Meets (fun _ => True)
    (fun x => 0 ≤ x ∧ x ≤ 1) (Wrras.Vulnerability.subScore data keys) :=
  (Meets.mapM fun _ _ => validated_puts).bind fun _ hscores =>
    roundTo_average_mem fun _ hx => (exists_of_forall₂ hscores hx).choose_spec.2

omit [FloorRing α] [IsStrictOrderedRing α] in
/-- Scores of parts come under the codes of the parts, each in range. -/
theorem scores_puts {ι : Type} {parts : List (String × ι)} {score : ι → Computed α α}
    (h : ∀ p ∈ parts, Meets (fun _ => True) (fun x => 0 ≤ x ∧ x ≤ 1) (score p.2)) :
    Meets (fun _ => True) (fun scores : List (String × α) =>
        scores.map Prod.fst = parts.map Prod.fst ∧ ∀ s ∈ scores, 0 ≤ s.2 ∧ s.2 ≤ 1)
      (parts.mapM fun p => do return (p.1, ← score p.2)) := by
  refine (Meets.mapM (R := fun p (s : String × α) => s.1 = p.1 ∧ 0 ≤ s.2 ∧ s.2 ≤ 1)
    fun p hp => ?_).post fun scores hscores => ⟨?_, fun s hs => ?_⟩
  · exact (h p hp).bind fun x hx => ⟨rfl, hx⟩
  · clear h
    induction hscores with
    | nil => rfl
    | cons hs _ ih => rw [List.map_cons, List.map_cons, hs.1, ih]
  · exact (exists_of_forall₂ hscores hs).choose_spec.2.2

end Means

/-! ### Products -/

section Products

variable {α : Type} [Field α] [LinearOrder α] [FloorRing α]
  {inputs : RawInputs α} {historical : List (RawInputs α)} {log : α → α}

/-- `compute_risk` and `compute_wildfire_risk_index`, but for the names in their errors. -/
def product (names : String × String × String) (a b c : RawValue α) : Computed α α := do
  let a ← checkUnit (.indexRange names.1) a
  let b ← checkUnit (.indexRange names.2.1) b
  let c ← checkUnit (.indexRange names.2.2) c
  return Lib.roundTo 4 (clampUnit (a * b * c))

/-- `compute` of the two risk stages. -/
def productStage (inputs : RawInputs α) (names keys : String × String × String) (code : String) :
    Computed α (List (Strategies.Indicator α)) := do
  let a ← item inputs keys.1
  let b ← item inputs keys.2.1
  let c ← item inputs keys.2.2
  return [{ code, value := ← product names a b c, unit := "index" }]

def FLOOD_RISK_KEYS : String × String × String :=
  ("flood_hazard_index_input", "exposure_index_input", "flood_insecurity_index_input")

def WILDFIRE_RISK_KEYS : String × String × String :=
  ("wildfire_hazard_index_input", "wildfire_exposure_index_input",
    "wildfire_vulnerability_index_input")

end Products

/-! ### Flood insecurity and resilience -/

section Flood

variable {α : Type} [Field α] [LinearOrder α] [FloorRing α] [IsStrictOrderedRing α]
  {inputs data : RawInputs α} {historical : List (RawInputs α)} {log : α → α} {r : Prop}

end Flood

/-! ### All calculators -/

/-- An observation with one value for all indicators of vulnerability and one for those of insecurity. -/
def observation (vulnerability insecurity : ℝ) : RawInputs ℝ :=
  Firas.Vulnerability.VULNERABILITY_INDICATORS.map (fun p => (p.1, .number vulnerability)) ++
    Firas.Vulnerability.INSECURITY_INDICATORS.map fun key => (key, .number insecurity)

end GeoRisk.Analysis
