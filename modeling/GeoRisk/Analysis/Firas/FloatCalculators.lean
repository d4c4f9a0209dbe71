import GeoRisk.Analysis.Firas.Calculators
import GeoRisk.Analysis.Handlers
import GeoRisk.PyNumber

/-! The two stages that are compared with a history, with the numbers of Python: what is read is an `int`
    or a `float`, what is computed is a `float`, and arithmetic that is undefined raises.

        upload ─▶ inputs ──────────────┐
        JSONB ─▶ rows of the history ──┴─▶ compute ─▶ indicators

    A JSON column keeps numbers as decimals: a great `float` comes back as the `int` of its digits. -/

namespace GeoRisk.Analysis.Firas.Floats

open Strategies

/-! ### Numbers -/

/-- What arithmetic raises. -/
def arithmetic {β : Type} : Except String β → Computed PyNumber β
  | .ok b => .ok b
  | .error message => .error (.arithmeticError message)

/-- A raw value in an operation with a `float`. -/
def toFloat (value : RawValue PyNumber) : Computed PyNumber PyFloat := do
  arithmetic (← value.toNumber).toFloat

/-- `sum(column)`. -/
def sumOf (column : List (RawValue PyNumber)) : Computed PyNumber PyNumber := do
  let s ← column.foldlM (fun (s : PyNumber.SumState) v => do arithmetic (s.step (← v.toNumber)))
    (.whole 0)
  return s.value

/-- `sum(w * v for w, v in zip(weights, values, strict=True))`. -/
def weightedSum (weights : List PyFloat) (values : List (RawValue PyNumber)) :
    Computed PyNumber PyFloat := do
  return PyFloat.sum (← (weights.zip values).mapM fun (w, v) => do return w * (← toFloat v))

/-- `min(max(x, 0.0), 1.0)`. -/
def clampUnit (x : PyFloat) : PyFloat := PyFloat.minimum (PyFloat.maximum x [0]) [1]

/-! ### `compute_weights` -/

def equalWeights (m : ℕ) : List PyFloat :=
  List.replicate m (PyFloat.roundTo 6 (PyFloat.quotient 1 (PyFloat.ofRat m)))

def colSum (matrix : List (List (RawValue PyNumber))) (j : ℕ) : Computed PyNumber PyNumber := do
  let s ← sumOf (matrix.map fun row => row.getD j .null)
  return if s.isZero then .float 1e-12 else s

def proportion (x : RawValue PyNumber) (colSum : PyNumber) : Computed PyNumber PyFloat := do
  arithmetic ((← x.toNumber).truediv colSum)

def entropy (log : PyFloat → PyFloat) (k : PyFloat) (proportions : List PyFloat) : PyFloat :=
  -k * proportions.foldl
    (fun total p => total + if PyFloat.lt 0 p then p * log p else 0) 0

/-- `compute_weights`, but for the confidence, which nobody reads of it. -/
def computeWeights (log : PyFloat → PyFloat) (matrix : List (List (RawValue PyNumber))) :
    Computed PyNumber (List PyFloat) := do
  let n := matrix.length
  let m := (matrix.headD []).length
  if n < 2 ∨ m = 0 then return equalWeights m
  else
    let colSums ← (List.range m).mapM (colSum matrix)
    let proportions ← matrix.mapM fun row => (row.zip colSums).mapM fun (x, s) => proportion x s
    let k ← arithmetic (PyFloat.truediv 1 (log (PyFloat.ofRat n)))
    let divergence := (List.range m).map fun j =>
      1 - entropy log k (proportions.map fun row => row.getD j 0)
    let divergenceTotal := PyFloat.sum divergence
    if divergenceTotal.isZero then return equalWeights m
    else return divergence.map fun d => PyFloat.roundTo 6 (PyFloat.quotient d divergenceTotal)

/-! ### Vulnerability and insecurity -/

namespace Vulnerability

open Firas.Vulnerability (VULNERABILITY_INDICATORS SUB_INDEX_KEYS INSECURITY_INDICATORS forInsecurity)

/-- `_validate_indicator`. -/
def validateIndicator (name : String) (value : RawValue PyNumber) : Computed PyNumber PyNumber := do
  let x ← value.toNumber
  if x.inUnit then return x else throw (.invalidIndicatorInput (.indicatorRange name x))

/-- `apply_inverse`. -/
def applyInverse (inverse : Bool) (x : PyNumber) : Computed PyNumber PyNumber :=
  if inverse then do return .float (PyFloat.roundTo 4 (1 - (← arithmetic x.toFloat))) else return x

/-- `_transformed_row`. -/
def transformedRow (record : RawInputs PyNumber) : Computed PyNumber (List (RawValue PyNumber)) :=
  VULNERABILITY_INDICATORS.mapM fun p => do
    let raw ← validateIndicator p.1 (← item record p.1)
    return .number (← applyInverse p.2 raw)

/-- The index, and the weights of the indicators. -/
def computeFloodVulnerabilityIndex (log : PyFloat → PyFloat) (data : RawInputs PyNumber)
    (historical : List (RawInputs PyNumber)) : Computed PyNumber (PyFloat × List PyFloat) := do
  let past ← historical.mapM transformedRow
  let current ← transformedRow data
  let weights ← computeWeights log (past ++ [current])
  return (PyFloat.roundTo 4 (clampUnit (← weightedSum weights current)), weights)

/-- A part of insecurity. -/
def subScore (log : PyFloat → PyFloat) (data : RawInputs PyNumber)
    (historical : List (RawInputs PyNumber)) (keys : List String) : Computed PyNumber PyFloat := do
  let past ← historical.mapM fun record => rowOf record keys
  let current ← rowOf data keys
  let weights ← computeWeights log (past ++ [current])
  return PyFloat.roundTo 6 (← weightedSum weights current)

/-- A row of the matrix of insecurity: what the parts leave to 1, and the vulnerability. -/
def insecurityRow (record : RawInputs PyNumber) : Computed PyNumber (List (RawValue PyNumber)) := do
  let complements ← SUB_INDEX_KEYS.mapM fun s => do
    return .number (.float (1 - (← toFloat (← item record s.1))))
  return complements ++ [← item record "flood_vulnerability_index_input"]

/-- The parts, and the index. -/
def computeInsecurity (log : PyFloat → PyFloat) (data : RawInputs PyNumber)
    (historical : List (RawInputs PyNumber)) :
    Computed PyNumber (List (String × PyFloat) × PyFloat) := do
  let scores ← SUB_INDEX_KEYS.mapM fun s => do return (s.1, ← subScore log data historical s.2)
  let past ← historical.mapM insecurityRow
  let current := scores.map (fun s => .number (.float (1 - s.2))) ++
    [← item data "flood_vulnerability_index_input"]
  let weights ← computeWeights log (past ++ [current])
  return (scores, PyFloat.roundTo 4 (clampUnit (← weightedSum weights current)))

def compute (log : PyFloat → PyFloat) (inputs : RawInputs PyNumber)
    (historical : List (RawInputs PyNumber)) :
    Computed PyNumber (List (Strategies.Indicator PyFloat)) := do
  let vulnerabilityCurrent ← entries inputs (VULNERABILITY_INDICATORS.map (·.1))
  let (fvi, weights) ← computeFloodVulnerabilityIndex log vulnerabilityCurrent historical
  let insecurityCurrent ← entries inputs INSECURITY_INDICATORS
  let (scores, fii) ← computeInsecurity log
    (setItem insecurityCurrent "flood_vulnerability_index_input" (.number (.float fvi)))
    (historical.map forInsecurity)
  return [{ code := "flood_vulnerability_index", value := fvi, unit := "index" }] ++
    List.zipWith (fun p w =>
      { code := "fvi_weight_" ++ p.1, value := w, subIndex := some "weights" })
      VULNERABILITY_INDICATORS weights ++
    scores.map (fun s => { code := s.1, value := s.2, subIndex := some "fii" }) ++
    [{ code := "flood_insecurity_index", value := fii, unit := "index" }]

end Vulnerability

/-! ### Resilience -/

namespace Resilience

open Firas.Resilience (SUB_INDEX_KEYS)

/-- The weights, and the index. -/
def computeResilience (log : PyFloat → PyFloat) (insecurity : RawInputs PyNumber)
    (historical : List (RawInputs PyNumber)) : Computed PyNumber (List PyFloat × PyFloat) := do
  let past ← historical.mapM fun record => rowOf record (SUB_INDEX_KEYS.map (·.1))
  let current ← rowOf insecurity (SUB_INDEX_KEYS.map (·.1))
  let weights ← computeWeights log (past ++ [current])
  return (weights, PyFloat.roundTo 4 (clampUnit (← weightedSum weights current)))

def compute (log : PyFloat → PyFloat) (inputs : RawInputs PyNumber)
    (historical : List (RawInputs PyNumber)) :
    Computed PyNumber (List (Strategies.Indicator PyFloat)) := do
  let insecurity ← entries inputs (SUB_INDEX_KEYS.map (·.1))
  let (weights, cri) ← computeResilience log insecurity historical
  return List.zipWith (fun k w => { code := k.2, value := w, subIndex := some "weights" })
      SUB_INDEX_KEYS weights ++
    [{ code := "community_resilience_index", value := cri, unit := "index" }]

end Resilience

/-! ### Registration -/

/-- A value as the calculators see it; what is nested they do not look into. -/
def numberValue : Json → RawValue PyNumber
  | .null => .null
  | .bool b => .number (.int (if b then 1 else 0))
  | .int n => .number (.int n)
  | .float x => .number (.float x)
  | .str s => .text s
  | .arr _ => .array []
  | .obj _ => .object []

/-- What the strategy takes from the libraries and from the database: the logarithm of a number from 2 on
    is not zero, and a `float` comes back from a JSON column as a number that is it as a `float`. -/
structure FloatLibrary where
  log : PyFloat → PyFloat
  log_ne_zero : ∀ n : ℕ, 2 ≤ n → (log (PyFloat.ofRat n)).isZero = false
  stored : PyFloat → PyNumber
  stored_toFloat : ∀ x, (stored x).toFloat = .ok x
  describe : ComputeError PyNumber → String

/-- A value that comes back from a JSON column. -/
def FloatLibrary.storedValue (lib : FloatLibrary) : Json → RawValue PyNumber
  | .float x => .number (lib.stored x)
  | value => numberValue value

def numberFields (inputs : Inputs) : RawInputs PyNumber := inputs.map fun p => (p.1, numberValue p.2)

def FloatLibrary.storedFields (lib : FloatLibrary) (inputs : Inputs) : RawInputs PyNumber :=
  inputs.map fun p => (p.1, lib.storedValue p.2)

theorem lookup_fields {α : Type} (f : Json → RawValue α) (inputs : Inputs) (key : String) :
    (inputs.map fun p => (p.1, f p.2)).lookup key = (inputs.lookup key).map f := by
  induction inputs with
  | nil => rfl
  | cons p inputs ih =>
    rw [List.map_cons, List.lookup_cons, List.lookup_cons, ih]
    cases key == p.1 <;> rfl

theorem lookup_numberFields (inputs : Inputs) (key : String) :
    (numberFields inputs).lookup key = (inputs.lookup key).map numberValue := lookup_fields _ inputs key

theorem FloatLibrary.lookup_storedFields (lib : FloatLibrary) (inputs : Inputs) (key : String) :
    (lib.storedFields inputs).lookup key = (inputs.lookup key).map lib.storedValue :=
  lookup_fields _ inputs key

/-- An indicator as the aggregates have it. -/
def floatIndicator (i : Strategies.Indicator PyFloat) : Indicator where
  code := i.code
  value := i.value
  unit := i.unit
  subIndex := i.subIndex

/-- What a calculator answers the handler. -/
def FloatLibrary.answer (lib : FloatLibrary) :
    Computed PyNumber (List (Strategies.Indicator PyFloat)) → Except String IndicatorSet
  | .ok indicators => .ok ⟨indicators.map floatIndicator⟩
  | .error e => .error (lib.describe e)

theorem FloatLibrary.answer_ok {lib : FloatLibrary}
    {x : Computed PyNumber (List (Strategies.Indicator PyFloat))} {indicators : IndicatorSet} :
    lib.answer x = .ok indicators ↔ ∃ out, x = .ok out ∧ indicators = ⟨out.map floatIndicator⟩ := by
  cases x with
  | ok out => simp [FloatLibrary.answer, eq_comm]
  | error e => simp [FloatLibrary.answer]

/-- `FIRASVulnerabilityCalculator`; the history comes from the database. -/
def FIRASVulnerabilityCalculator (lib : FloatLibrary) : StageCalculator where
  compute snapshot := lib.answer (Vulnerability.compute lib.log (numberFields snapshot.inputs)
    (snapshot.historical.map lib.storedFields))
  formulaVersion := "fvi-entropy-weighted-v2"

/-- `FIRASResilienceCalculator`; the scores of the stage before come from the database too. -/
def FIRASResilienceCalculator (lib : FloatLibrary) : StageCalculator where
  compute snapshot := lib.answer (Resilience.compute lib.log (lib.storedFields snapshot.inputs)
    (snapshot.historical.map lib.storedFields))
  formulaVersion := "cri-ewm-v1"

/-- The flood strategy, over any calculators of its other stages. -/
def FIRASHazardStrategy (lib : FloatLibrary) (others : StageType → Except String StageCalculator) :
    HazardStrategy where
  supportedStages := [.hazard, .exposure, .vulnerability, .risk, .resilience]
  getCalculator
    | .vulnerability => .ok (FIRASVulnerabilityCalculator lib)
    | .resilience => .ok (FIRASResilienceCalculator lib)
    | stageType => others stageType
  inputDependencies
    | .risk =>
      [(.hazard, [("flood_hazard_index", "flood_hazard_index_input")]),
       (.exposure, [("flood_exposure_index", "exposure_index_input")]),
       (.vulnerability, [("flood_insecurity_index", "flood_insecurity_index_input")])]
    | .resilience =>
      [(.vulnerability, [("cpc_score", "cpc_score"), ("ewe_score", "ewe_score"),
        ("kf_score", "kf_score"), ("dre_score", "dre_score"), ("rc_score", "rc_score")])]
    | _ => []
  historicalStages := [.vulnerability, .resilience]
  strategyVersion := "firas-2.0"

end GeoRisk.Analysis.Firas.Floats
