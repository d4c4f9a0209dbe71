import Mathlib
import GeoRisk.Lib.Results
import GeoRisk.Lib.Table
import GeoRisk.Prediction.PredictionRun

/-! The handler that runs a prediction. It reads a selection of variables, the size of a sampling
    campaign and the observations through three ports, and computes a correlation or a regression;
    whatever is raised on the way becomes a failed run:

        selection ▶ confirmed ▶ sample count ▶ observations ▶ correlate │ regress ─▶ COMPLETED
            └────────────┴────────────┴──────────────┴──────────────────┴───────▶ FAILED

    The arithmetic on floats is taken as it is, as two functions that return or raise; what is
    checked before it, and which variable each of its numbers is filed under, is the handler's. -/

namespace GeoRisk.Prediction

/-- An observation: the value of each variable under its code. -/
abbrev Row := List (String × PyFloat)

/-- `MlrFitResult` of `k` predictors. -/
structure MlrFitResult (k : ℕ) where
  intercept : PyFloat
  coefficients : Fin k → PyFloat
  standardizedCoefficients : Fin k → PyFloat
  standardErrors : Fin k → PyFloat
  tStatistics : Fin k → PyFloat
  pValues : Fin k → PyFloat
  r2 : PyFloat
  adjustedR2 : PyFloat
  rmse : PyFloat
  mae : PyFloat
  mse : PyFloat
  fStatistic : PyFloat

/-- The collaborators of the handler, during one call; the text of what one of them raises. -/
structure Ports where
  getSelection : TenantId → Spelled UUID → Except String (Option VariableSelectionInfo)
  getSampleCount : TenantId → Spelled UUID → Except String (Option ℕ)
  generateObservations : TenantId → Option String → List PredictorVariableInfo → (sampleCount : ℕ) →
    (seed : ℕ) → Except String (List Row)
  /-- The first eight digits of the SHA-256 hash of the joined parts. -/
  deterministicSeed : List String → ℕ
  /-- `_METHOD_FUNCTIONS`, on two columns of one length. -/
  coefficient : PredictionMethod → List PyFloat → List PyFloat → Except String PyFloat
  /-- The normal equations, solved for enough observations. -/
  fit : (featureMatrix : List (List PyFloat)) → (yValues : List PyFloat) →
    (featureNames : List String) → Except String (MlrFitResult featureNames.length)

/-! ### Repository -/

structure Db where
  predictionRuns : Lib.Table PredictionRun.id
  outbox : List (OutboxEvent PredictionEvent)

namespace Db

def empty : Db := ⟨.empty, []⟩

/-- `coalesce(max(version), 0) + 1` over the runs of one selection and method on an assessment. -/
def nextVersion (db : Db) (c : RunPrediction) : ℕ :=
  ((db.predictionRuns.rows.filter fun r =>
    r.tenantId = c.tenantId ∧ r.assessmentId.id = c.assessmentId.id ∧
      r.variableSelectionId.id = c.variableSelectionId.id ∧ r.method = c.method).map
    (·.version)).foldl max 0 + 1

/-- A new row, and the event that goes with it. -/
def save (db : Db) (run : PredictionRun) (event : PredictionEvent) (now : Timestamp) : Db where
  predictionRuns := db.predictionRuns.put run
  outbox := appendEvent db.outbox "PredictionRun" (toString run.id) event (some run.tenantId) now

end Db

/-! ### Correlation -/

/-- `row[code]`; the text of a `KeyError` is the key as `repr` writes it. -/
def item (row : Row) (code : String) : Except String PyFloat :=
  match row.lookup code with
  | some value => .ok value
  | none => .error (pyRepr code)

/-- The column of each code. -/
def dataOf (infos : List PredictorVariableInfo) (rows : List Row) :
    Except String (List (String × List PyFloat)) :=
  infos.foldlM (fun data info => do
    return setItem data info.code (← rows.mapM fun row => item row info.code)) []

def sortedKeys (data : List (String × List PyFloat)) : List String :=
  (data.map Prod.fst).insertionSort (· ≤ ·)

/-- Every code with each one after it. -/
def pairsOf : List String → List (String × String)
  | [] => []
  | a :: rest => rest.map (a, ·) ++ pairsOf rest

/-- `_validate_equal_length`. -/
def validateEqualLength (x y : List PyFloat) : Except String Unit :=
  if x.length ≠ y.length then
    .error s!"x and y must have the same length, got {x.length} and {y.length}"
  else if x.length < 2 then .error "Correlation requires at least 2 observations"
  else .ok ()

def computeCorrelationPairs (ports : Ports) (data : List (String × List PyFloat))
    (method : PredictionMethod) : Except String (List CorrelationPair) :=
  (pairsOf (sortedKeys data)).mapM fun codes => do
    let x := (data.lookup codes.1).getD []
    let y := (data.lookup codes.2).getD []
    validateEqualLength x y
    return ⟨codes.1, codes.2, ← ports.coefficient method x y, x.length⟩

/-- `_run_correlation`. -/
def runCorrelation (ports : Ports) (method : PredictionMethod)
    (infos : List PredictorVariableInfo) (rows : List Row) (now : Timestamp) :
    Except String (ModelMetadata × CorrelationResult) := do
  let data ← dataOf infos rows
  let pairs ← computeCorrelationPairs ports data method
  let metadata ← ModelMetadata.make method method.formulaVersion (sortedKeys data) none
    rows.length now
  return (metadata, ⟨pairs⟩)

/-! ### Regression -/

/-- `compute_multiple_linear_regression`. -/
def computeMultipleLinearRegression (ports : Ports) (featureMatrix : List (List PyFloat))
    (yValues : List PyFloat) (featureNames : List String) :
    Except String (MlrFitResult featureNames.length) :=
  let n := yValues.length
  let k := featureNames.length
  if n < k + 2 then
    .error s!"Need at least {k + 2} observations for {k} predictors (have {n})"
  else ports.fit featureMatrix yValues featureNames

/-- `_run_regression`. -/
def runRegression (ports : Ports) (infos : List PredictorVariableInfo) (rows : List Row)
    (now : Timestamp) : Except String (ModelMetadata × RegressionResult) :=
  match infos.filter (·.variableRole = "DEPENDENT") with
  | [dependent] => do
    let predictors := infos.filter (·.variableRole ≠ "DEPENDENT")
    if predictors = [] then
      throw "Multiple Linear Regression requires at least one non-DEPENDENT predictor variable"
    let featureNames := predictors.map (·.code)
    let featureMatrix ← rows.mapM fun row => featureNames.mapM (item row)
    let yValues ← rows.mapM fun row => item row dependent.code
    let fit ← computeMultipleLinearRegression ports featureMatrix yValues featureNames
    let variableResults := List.ofFn fun i => {
      code := featureNames[i]
      coefficient := fit.coefficients i
      standardizedCoefficient := fit.standardizedCoefficients i
      standardError := fit.standardErrors i
      tStatistic := fit.tStatistics i
      pValue := fit.pValues i : RegressionVariableResult }
    let metadata ← ModelMetadata.make .multipleLinearRegression
      PredictionMethod.multipleLinearRegression.formulaVersion featureNames (some dependent.code)
      rows.length now
    return (metadata, {
      intercept := fit.intercept, variableResults, rSquared := fit.r2
      adjustedRSquared := fit.adjustedR2, rmse := fit.rmse, mae := fit.mae
      fStatistic := fit.fStatistic, mse := fit.mse })
  | dependents => .error ("Multiple Linear Regression requires exactly one DEPENDENT variable in " ++
      s!"the VariableSelection, found {dependents.length}")

/-! ### The handler -/

/-- The selection and the observations of its variables. -/
def observe (ports : Ports) (c : RunPrediction) :
    Except String (VariableSelectionInfo × List Row) := do
  match ← ports.getSelection c.tenantId c.variableSelectionId with
  | none => throw s!"VariableSelection {c.variableSelectionId.text} not found"
  | some selection =>
    if selection.status ≠ "CONFIRMED" then
      throw (s!"VariableSelection {c.variableSelectionId.text} is not CONFIRMED " ++
        "— Variables must be selected from a confirmed VariableSelection")
    match ← ports.getSampleCount c.tenantId c.samplingCampaignId with
    | none =>
      throw s!"SamplingCampaign {c.samplingCampaignId.text} has no generated sample points"
    | some sampleCount =>
      let seed := ports.deterministicSeed
        [c.variableSelectionId.text, c.samplingCampaignId.text, c.method.value]
      let rows ← ports.generateObservations c.tenantId selection.hazardType
        selection.variableInfos sampleCount seed
      return (selection, rows)

/-- The run of a command, and its event; it is a failed one if anything is raised. -/
def resultOf (ports : Ports) (c : RunPrediction) (id : PredictionRunId) (version : ℕ)
    (now : Timestamp) : PredictionRun × PredictionEvent :=
  let outcome : Except String (PredictionRun × PredictionRunCompleted) := do
    let (selection, rows) ← observe ports c
    if c.method = .multipleLinearRegression then
      let (metadata, result) ← runRegression ports selection.variableInfos rows now
      return PredictionRun.completeRegression c id version metadata result now
    else
      let (metadata, result) ← runCorrelation ports c.method selection.variableInfos rows now
      return PredictionRun.completeCorrelation c id version metadata result now
  match outcome with
  | .ok (run, event) => (run, .predictionRunCompleted event)
  | .error e =>
    let (run, event) := PredictionRun.failed c id version e now
    (run, .predictionRunFailed event)

/-- `RunPredictionHandler.handle`. -/
def runPrediction (ports : Ports) (c : RunPrediction) (id : PredictionRunId) (now : Timestamp)
    (db : Db) : Db × PredictionRun :=
  let (run, event) := resultOf ports c id (db.nextVersion c) now
  (db.save run event now, run)

/-! ### Which variables a run names -/

variable {ports ports' : Ports} {c : RunPrediction} {now : Timestamp} {db : Db}
  {infos : List PredictorVariableInfo} {rows : List Row}

theorem mem_pairsOf {codes : List String} {p : String × String} (h : p ∈ pairsOf codes) :
    p.1 ∈ codes ∧ p.2 ∈ codes := by
  induction codes with
  | nil => cases h
  | cons a rest ih =>
    rcases List.mem_append.mp h with h | h
    · obtain ⟨b, hb, rfl⟩ := List.mem_map.mp h
      exact ⟨List.mem_cons_self .., List.mem_cons_of_mem _ hb⟩
    · exact ⟨List.mem_cons_of_mem _ (ih h).1, List.mem_cons_of_mem _ (ih h).2⟩

/-- The keys of the data are codes of the variables. -/
theorem mem_sortedKeys {data : List (String × List PyFloat)} (h : dataOf infos rows = .ok data)
    {code : String} (hcode : code ∈ sortedKeys data) : ∃ info ∈ infos, info.code = code := by
  have hkeys : ∀ code ∈ data.map Prod.fst, ∃ info ∈ infos, info.code = code := by
    refine Lib.foldlM_inv
      (P := fun d => ∀ code ∈ d.map Prod.fst, ∃ info ∈ infos, info.code = code) ?_ (by simp) h
    intro info hinfo d d' hd hstep code hcode
    obtain ⟨column, -, hstep⟩ := Lib.bind_ok.mp hstep
    cases hstep
    rcases mem_setItem_keys.mp hcode with hcode | rfl
    · exact hd code hcode
    · exact ⟨info, hinfo, rfl⟩
  exact hkeys code ((List.perm_insertionSort _ _).subset hcode)

theorem ModelMetadata.make_ok {modelType : PredictionMethod} {formulaVersion : String}
    {codes : List String} {dependent : Option String} {n : ℕ} {metadata : ModelMetadata}
    (h : ModelMetadata.make modelType formulaVersion codes dependent n now = .ok metadata) :
    metadata.predictorVariableCodes = codes ∧ metadata.dependentVariableCode = dependent := by
  unfold ModelMetadata.make at h
  split at h
  · cases h
  · split at h
    · cases h
      exact ⟨rfl, rfl⟩
    · cases h

/-- What a correlation names. -/
theorem runCorrelation_codes {method : PredictionMethod} {metadata : ModelMetadata}
    {result : CorrelationResult}
    (h : runCorrelation ports method infos rows now = .ok (metadata, result)) :
    (∀ code ∈ metadata.predictorVariableCodes, ∃ info ∈ infos, info.code = code) ∧
    metadata.dependentVariableCode = none ∧
    ∀ p ∈ result.pairs, (∃ info ∈ infos, info.code = p.variableA) ∧
      ∃ info ∈ infos, info.code = p.variableB := by
  obtain ⟨data, hdata, h⟩ := Lib.bind_ok.mp h
  obtain ⟨pairs, hpairs, h⟩ := Lib.bind_ok.mp h
  obtain ⟨metadata, hmetadata, h⟩ := Lib.bind_ok.mp h
  cases h
  obtain ⟨hcodes, hdependent⟩ := ModelMetadata.make_ok hmetadata
  refine ⟨fun code hcode => ?_, hdependent, fun p hp => ?_⟩
  · rw [hcodes] at hcode
    exact mem_sortedKeys hdata hcode
  · obtain ⟨codes, hmem, hp⟩ := Lib.mem_of_mapM_ok hpairs p hp
    obtain ⟨-, -, hp⟩ := Lib.bind_ok.mp hp
    obtain ⟨coefficient, -, hp⟩ := Lib.bind_ok.mp hp
    cases hp
    obtain ⟨ha, hb⟩ := mem_pairsOf hmem
    exact ⟨mem_sortedKeys hdata ha, mem_sortedKeys hdata hb⟩

/-- What a regression names. -/
theorem runRegression_codes {metadata : ModelMetadata} {result : RegressionResult}
    (h : runRegression ports infos rows now = .ok (metadata, result)) :
    (∀ code ∈ metadata.predictorVariableCodes, ∃ info ∈ infos, info.code = code) ∧
    (∀ code ∈ metadata.dependentVariableCode, ∃ info ∈ infos, info.code = code) ∧
    ∀ r ∈ result.variableResults, ∃ info ∈ infos, info.code = r.code := by
  unfold runRegression at h
  split at h
  · next dependent hdependent =>
    have hmem : dependent ∈ infos := by
      refine List.mem_of_mem_filter (p := (·.variableRole = "DEPENDENT")) ?_
      rw [hdependent]
      exact List.mem_singleton_self dependent
    have hnames : ∀ code ∈ (infos.filter (·.variableRole ≠ "DEPENDENT")).map (·.code),
        ∃ info ∈ infos, info.code = code := by
      intro code hcode
      obtain ⟨info, hinfo, rfl⟩ := List.mem_map.mp hcode
      exact ⟨info, List.mem_of_mem_filter hinfo, rfl⟩
    simp only at h
    split at h
    · cases h
    obtain ⟨featureMatrix, -, h⟩ := Lib.bind_ok.mp h
    obtain ⟨yValues, -, h⟩ := Lib.bind_ok.mp h
    obtain ⟨fit, -, h⟩ := Lib.bind_ok.mp h
    obtain ⟨metadata, hmetadata, h⟩ := Lib.bind_ok.mp h
    cases h
    obtain ⟨hcodes, hcode⟩ := ModelMetadata.make_ok hmetadata
    refine ⟨fun code h => hnames code (hcodes ▸ h), fun code h => ?_, fun r hr => ?_⟩
    · rw [hcode] at h
      cases h
      exact ⟨dependent, hmem, rfl⟩
    · obtain ⟨i, rfl⟩ := List.mem_ofFn.mp hr
      exact hnames _ (List.getElem_mem i.isLt)
  · cases h

theorem getSelection_of_observe {selection : VariableSelectionInfo}
    (h : observe ports c = .ok (selection, rows)) :
    ports.getSelection c.tenantId c.variableSelectionId = .ok (some selection) := by
  obtain ⟨found, hfound, h⟩ := Lib.bind_ok.mp h
  cases found with
  | none => cases h
  | some info =>
    simp only at h
    split at h
    · cases h
    obtain ⟨count, -, h⟩ := Lib.bind_ok.mp h
    cases count with
    | none => cases h
    | some n =>
      obtain ⟨rows, -, h⟩ := Lib.bind_ok.mp h
      cases h
      exact hfound

/-- All codes that the run of a command names are codes of variables of its selection. -/
theorem mem_codes_resultOf {id : PredictionRunId} {version : ℕ} {code : String}
    (hcode : code ∈ (resultOf ports c id version now).1.codes) :
    ∃ selection, ports.getSelection c.tenantId c.variableSelectionId = .ok (some selection) ∧
      ∃ info ∈ selection.variableInfos, info.code = code := by
  unfold resultOf at hcode
  simp only at hcode
  split at hcode
  · next run event houtcome =>
    obtain ⟨⟨selection, rows⟩, hobserve, h⟩ := Lib.bind_ok.mp houtcome
    refine ⟨selection, getSelection_of_observe hobserve, ?_⟩
    split at h
    · obtain ⟨⟨metadata, result⟩, hrun, h⟩ := Lib.bind_ok.mp h
      cases h
      obtain ⟨hcodes, hdependent, hresults⟩ := runRegression_codes hrun
      simp only [PredictionRun.codes, PredictionRun.ofCommand,
        Option.elim, List.append_nil, List.mem_append, Option.mem_toList] at hcode
      rcases hcode with (hcode | hcode) | hcode
      · exact hcodes code hcode
      · exact hdependent code hcode
      · obtain ⟨r, hr, rfl⟩ := List.mem_map.mp hcode
        exact hresults r hr
    · obtain ⟨⟨metadata, result⟩, hrun, h⟩ := Lib.bind_ok.mp h
      cases h
      obtain ⟨hcodes, hdependent, hpairs⟩ := runCorrelation_codes hrun
      simp only [PredictionRun.codes, PredictionRun.ofCommand,
        Option.elim, hdependent, Option.toList_none, List.append_nil, List.mem_append] at hcode
      rcases hcode with hcode | hcode
      · exact hcodes code hcode
      · obtain ⟨p, hp, hcode⟩ := List.mem_flatMap.mp hcode
        obtain ⟨ha, hb⟩ := hpairs p hp
        rcases List.mem_pair.mp hcode with rfl | rfl
        · exact ha
        · exact hb
  · cases hcode

/-- Only the selection of the command is asked for. -/
theorem runPrediction_congr {id : PredictionRunId}
    (getSelection : TenantId → Spelled UUID → Except String (Option VariableSelectionInfo))
    (h : getSelection c.tenantId c.variableSelectionId =
      ports.getSelection c.tenantId c.variableSelectionId) :
    runPrediction { ports with getSelection } c id now db = runPrediction ports c id now db := by
  have hobserve : observe { ports with getSelection } c = observe ports c := by
    simp only [observe, h]
  have hregression : ∀ infos rows, runRegression { ports with getSelection } infos rows now =
      runRegression ports infos rows now := fun _ _ => rfl
  have hcorrelation : ∀ infos rows, runCorrelation { ports with getSelection } c.method infos rows
      now = runCorrelation ports c.method infos rows now := fun _ _ => rfl
  unfold runPrediction resultOf
  simp only [hobserve, hregression, hcorrelation]

end GeoRisk.Prediction
