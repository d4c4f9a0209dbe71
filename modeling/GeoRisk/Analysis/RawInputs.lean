import Mathlib
import GeoRisk.Lib.Results
import GeoRisk.Lib.Rounding
import GeoRisk.SharedKernel

/-! What the calculators of the hazard strategies read and write, over exact numbers: a dictionary of raw
    values comes in, a list of indicators goes out, and what is missing, of another type or out of range
    is raised:

        inputs[key] ─▶ KeyError      0 ≤ value ─▶ TypeError      value ≤ 1 ─▶ InvalidIndicatorInputError -/

namespace GeoRisk.Analysis.Strategies

/-- A raw value: what JSON has, with exact numbers; booleans are numbers too. -/
inductive RawValue (α : Type) where
  | number (x : α)
  | null
  | text (s : String)
  | array (items : List (RawValue α))
  | object (items : List (String × RawValue α))

abbrev RawInputs (α : Type) := List (String × RawValue α)

/-- An `InvalidIndicatorInputError`, by what it says. -/
inductive InvalidIndicatorInput (α : Type) where
  | indexRange (name : String) (value : α)
  | indicatorRange (name : String) (value : α)
  | ratioRange (asset : String) (ratio : α)
  | weightSum (owner : String) (total : α)
  | negativeAmount (name : String)
  | exceedsTotal (name : String) (exposed total : α)

/-- Its text, with numbers as `str` and `:.4f` write them. -/
def InvalidIndicatorInput.message {α : Type} (str fixed4 : α → String) :
    InvalidIndicatorInput α → String
  | indexRange name value =>
    String.join ["'", name, "' must be between 0.0 and 1.0, got ", str value]
  | indicatorRange name value =>
    String.join ["Indicator '", name, "' must be between 0.0 and 1.0, got ", str value]
  | ratioRange asset ratio =>
    String.join ["Ratio '", asset, "' must be between 0.0 and 1.0, got ", str ratio]
  | weightSum owner total => String.join [owner, " weights must sum to 1.0, got ", fixed4 total]
  | negativeAmount name => String.join [name, ": values must be >= 0"]
  | exceedsTotal name exposed total =>
    String.join [name, ": exposed (", str exposed, ") cannot exceed total (", str total, ")"]

/-- What a calculator raises; exact arithmetic raises nothing itself. -/
inductive ComputeError (α : Type) where
  | invalidIndicatorInput (error : InvalidIndicatorInput α)
  | keyError (key : String)
  | typeError
  | attributeError
  | arithmeticError (message : String)

structure Indicator (α : Type) where
  code : String
  value : α
  unit : String := ""
  subIndex : Option String := none

/-- The outcome of a calculator. -/
abbrev Computed (α β : Type) := Except (ComputeError α) β

section Code

variable {α : Type}

/-- `inputs[key]`. -/
def item (inputs : RawInputs α) (key : String) : Computed α (RawValue α) :=
  match inputs.lookup key with
  | some value => .ok value
  | none => .error (.keyError key)

/-- A raw value in arithmetic. -/
def RawValue.toNumber : RawValue α → Computed α α
  | .number x => .ok x
  | _ => .error .typeError

/-- `IndicatorSet.value`. -/
def valueOf (indicators : List (Indicator α)) (code : String) : Option α :=
  (indicators.find? (·.code = code)).map (·.value)

/-- The entries of a dictionary under some keys. -/
def entries (inputs : RawInputs α) (keys : List String) : Computed α (List (String × RawValue α)) :=
  keys.mapM fun key => do return (key, ← item inputs key)

variable [Field α] [LinearOrder α]

/-- A number between 0 and 1; anything else raises what `error` says. -/
def checkUnit (error : α → InvalidIndicatorInput α) (value : RawValue α) : Computed α α := do
  let x ← value.toNumber
  if 0 ≤ x ∧ x ≤ 1 then return x else throw (.invalidIndicatorInput (error x))

/-- `min(max(x, 0.0), 1.0)`. -/
def clampUnit (x : α) : α := min (max x 0) 1

/-- `sum(values) / len(values)`. -/
def average (values : List α) : α := values.sum / values.length

/-- `weights.values()`, where weights are the default ones unless they are given. -/
def weightsOf (weights : RawValue α) (default : List (String × α)) : Computed α (RawInputs α) :=
  match weights with
  | .null => .ok (default.map fun p => (p.1, .number p.2))
  | .object items => .ok items
  | _ => .error .attributeError

/-- `_validate_weights`. -/
def validateWeights (owner : String) (weights : RawInputs α) : Computed α Unit := do
  let total := (← weights.mapM fun p => p.2.toNumber).sum
  if ¬ (999 / 1000 ≤ total ∧ total ≤ 1001 / 1000) then
    throw (.invalidIndicatorInput (.weightSum owner total))

/-- `inputs.get("weights", DEFAULT_WEIGHTS)`. -/
def givenWeights (inputs : RawInputs α) (default : List (String × α)) : RawValue α :=
  (inputs.lookup "weights").getD (.object (default.map fun p => (p.1, .number p.2)))

/-- The indicators `weight_…`, with the values of `weights.get(key, DEFAULT_WEIGHTS[key])`. -/
def weightIndicators (weights : RawValue α) (default : List (String × α)) :
    Computed α (List (Indicator α)) :=
  match weights with
  | .object items => default.mapM fun p => do
    let value ← ((items.lookup p.1).getD (.number p.2)).toNumber
    return { code := "weight_" ++ p.1, value, subIndex := some "weights" }
  | _ => .error .attributeError

end Code

/-! ### What is read -/

section Reading

variable {α : Type} {inputs data : RawInputs α} {keys : List String} {key : String}

theorem item_ok {value : RawValue α} : item inputs key = .ok value ↔ inputs.lookup key = some value := by
  unfold item
  cases inputs.lookup key with
  | none => simp
  | some found => simp

theorem toNumber_ok {value : RawValue α} {x : α} : value.toNumber = .ok x ↔ value = .number x := by
  cases value <;> simp [RawValue.toNumber]

/-- Values that are looked up under keys of whatever they are wanted for. -/
theorem items_ok {ι : Type} {f : ι → String} {ks : List ι} {values : List (ι × RawValue α)}
    (h : (ks.mapM fun k => do return (k, ← item inputs (f k))) = .ok values) :
    values.map Prod.fst = ks ∧ ∀ p ∈ values, inputs.lookup (f p.1) = some p.2 := by
  induction Lib.mapM_ok.mp h with
  | nil => simp
  | @cons k p ks values hp hrest ih =>
    obtain ⟨hkeys, hlookup⟩ := ih (Lib.mapM_ok.mpr hrest)
    obtain ⟨value, hvalue, hp⟩ := Lib.bind_ok.mp hp
    cases hp
    refine ⟨by rw [List.map_cons, hkeys], fun q hq => ?_⟩
    rcases List.mem_cons.mp hq with rfl | hq
    · exact item_ok.mp hvalue
    · exact hlookup q hq

/-- The entries under some keys are those of the dictionary. -/
theorem entries_ok (h : entries inputs keys = .ok data) :
    data.map Prod.fst = keys ∧ ∀ p ∈ data, inputs.lookup p.1 = some p.2 :=
  items_ok (f := fun key => key) h

theorem lookup_entries (h : entries inputs keys = .ok data) (hkey : key ∈ keys) :
    data.lookup key = inputs.lookup key := by
  obtain ⟨hkeys, hlookup⟩ := entries_ok h
  obtain ⟨value, hvalue, hmem⟩ := exists_lookup (hkeys ▸ hkey : key ∈ data.map Prod.fst)
  rw [hvalue, hlookup _ hmem]

/-- An indicator is found under its code, unless one before it has the code. -/
theorem valueOf_append {before after : List (Indicator α)} {i : Indicator α}
    (h : ∀ j ∈ before, j.code ≠ i.code) : valueOf (before ++ i :: after) i.code = some i.value := by
  have hnone : before.find? (·.code = i.code) = none :=
    List.find?_eq_none.mpr fun j hj hcode => h j hj (of_decide_eq_true hcode)
  rw [valueOf, List.find?_append, hnone, Option.none_or, List.find?_cons, decide_eq_true rfl,
    Option.map_some]

variable [Field α] [LinearOrder α]

/-- The number under a key. -/
def readNumber (inputs : RawInputs α) (key : String) : α :=
  match inputs.lookup key with
  | some (.number x) => x
  | _ => 0

omit [LinearOrder α] in
theorem readNumber_of_lookup {x : α} (h : inputs.lookup key = some (.number x)) :
    readNumber inputs key = x := by
  rw [readNumber, h]

theorem checkUnit_ok {error : α → InvalidIndicatorInput α} {value : RawValue α} {x : α} :
    checkUnit error value = .ok x ↔ value = .number x ∧ 0 ≤ x ∧ x ≤ 1 := by
  constructor
  · intro h
    obtain ⟨y, hy, h⟩ := Lib.bind_ok.mp h
    split at h
    · next hunit =>
      cases h
      exact ⟨toNumber_ok.mp hy, hunit⟩
    · cases h
  · rintro ⟨rfl, hunit⟩
    exact Lib.bind_ok.mpr ⟨x, rfl, if_pos hunit⟩

end Reading

/-! ### Averages and clamps -/

section Bounds

variable {α : Type} [Field α] [LinearOrder α] [IsStrictOrderedRing α]

theorem clampUnit_mem (x : α) : clampUnit x ∈ Set.Icc 0 1 :=
  ⟨le_min (le_max_right x 0) zero_le_one, min_le_right _ _⟩

omit [IsStrictOrderedRing α] in
theorem clampUnit_mono {x y : α} (h : x ≤ y) : clampUnit x ≤ clampUnit y :=
  min_le_min_right 1 (max_le_max_right 0 h)

theorem average_mono {ι : Type} {f g : ι → α} {items : List ι} (h : ∀ i ∈ items, f i ≤ g i) :
    average (items.map f) ≤ average (items.map g) := by
  rw [average, average, List.length_map, List.length_map]
  exact div_le_div_of_nonneg_right (List.sum_le_sum h) (Nat.cast_nonneg _)

theorem average_mem {values : List α} (h : ∀ x ∈ values, x ∈ Set.Icc 0 1) :
    average values ∈ Set.Icc 0 1 := by
  have hsum : values.sum ≤ values.length • (1 : α) :=
    List.sum_le_card_nsmul values 1 fun v hv => (h v hv).2
  rw [nsmul_eq_mul, mul_one] at hsum
  exact ⟨div_nonneg (List.sum_nonneg fun v hv => (h v hv).1) (Nat.cast_nonneg _),
    div_le_one_of_le₀ hsum (Nat.cast_nonneg _)⟩

theorem roundTo_mem [FloorRing α] {digits : ℕ} {x : α} (h : x ∈ Set.Icc 0 1) :
    Lib.roundTo digits x ∈ Set.Icc 0 1 :=
  ⟨Lib.roundTo_nonneg h.1, Lib.roundTo_le_one h.2⟩

end Bounds

end GeoRisk.Analysis.Strategies
