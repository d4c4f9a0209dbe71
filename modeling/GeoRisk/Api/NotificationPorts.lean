import Mathlib
import GeoRisk.Analysis.Handlers
import GeoRisk.Api.LatestValidation
import GeoRisk.Notification.AlertsOnRecord
import GeoRisk.Orchestration.Entity
import GeoRisk.Prediction.Handlers

/-! The metrics that alert rules watch, as the composition root reads them: of the latest result of a
    stage, of the latest regression, or of the latest validation. The last two look the code up among
    the attributes of an object, where there is more than numbers:

        metric_code   rmse ─▶ 0.4      variables ─▶ (…)      coefficient ─▶ a method
                              fires or not      └── TypeError ──┘ -/

namespace GeoRisk.Api

open EarlyWarning

/-! ### Attributes -/

/-- What every frozen dataclass with slots has besides its fields, each with the name of its type. -/
def dataclassAttributes : List (String × String) :=
  [("__annotations__", "dict"), ("__class__", "type"), ("__dataclass_fields__", "dict"),
    ("__dataclass_params__", "_DataclassParams"), ("__delattr__", "method"),
    ("__dir__", "builtin_function_or_method"), ("__doc__", "str"), ("__eq__", "method"),
    ("__format__", "builtin_function_or_method"), ("__ge__", "method-wrapper"),
    ("__getattribute__", "method-wrapper"), ("__getstate__", "method"),
    ("__gt__", "method-wrapper"), ("__hash__", "method"), ("__init__", "method"),
    ("__init_subclass__", "builtin_function_or_method"), ("__le__", "method-wrapper"),
    ("__lt__", "method-wrapper"), ("__match_args__", "tuple"), ("__module__", "str"),
    ("__ne__", "method-wrapper"), ("__new__", "builtin_function_or_method"),
    ("__reduce__", "builtin_function_or_method"), ("__reduce_ex__", "builtin_function_or_method"),
    ("__repr__", "method"), ("__setattr__", "method"), ("__setstate__", "method"),
    ("__sizeof__", "builtin_function_or_method"), ("__slots__", "tuple"),
    ("__str__", "method-wrapper"), ("__subclasshook__", "builtin_function_or_method")]

/-- What a `RegressionResult` has besides its numbers. -/
def regressionResultObjects : List (String × String) :=
  [("variables", "tuple"), ("coefficient", "method")] ++ dataclassAttributes

/-- What a `MetricSet` has besides its numbers. -/
def metricSetObjects : List (String × String) :=
  [("confusion_matrix", "ConfusionMatrix"), ("roc_points", "tuple")] ++ dataclassAttributes

/-- An attribute that is not a number. -/
def objectAttribute (objects : List (String × String)) (code : String) : Option MetricValue :=
  (objects.lookup code).map .object

/-- `getattr(regression_result, code, None)`. -/
def regressionResultAttribute (self : Prediction.RegressionResult) (code : String) :
    Option MetricValue :=
  if code = "intercept" then some (.float self.intercept)
  else if code = "r_squared" then some (.float self.rSquared)
  else if code = "adjusted_r_squared" then some (.float self.adjustedRSquared)
  else if code = "rmse" then some (.float self.rmse)
  else if code = "mae" then some (.float self.mae)
  else if code = "f_statistic" then some (.float self.fStatistic)
  else if code = "mse" then some (.float self.mse)
  else objectAttribute regressionResultObjects code

/-- `getattr(regression_metrics, code, None)`. -/
def regressionMetricsAttribute (self : Validation.RegressionMetricSet) (code : String) :
    Option MetricValue :=
  if code = "sample_size" then some (.int self.sampleSize)
  else match self.attribute code with
    | some x => some (.float x)
    | none => objectAttribute dataclassAttributes code

/-- `getattr(metrics, code, None)`. -/
def metricsAttribute (self : Validation.MetricSet) (code : String) : Option MetricValue :=
  if code = "sample_size" then some (.int self.sampleSize)
  else match self.attribute code with
    | some x => some (.float x)
    | none => objectAttribute metricSetObjects code

/-! ### The reader -/

/-- What the contexts hold that a metric is read from. -/
structure Evidence where
  analysis : Analysis.Db
  prediction : Prediction.Db
  validation : Validation.Db

/-- `StageType(stage_type)`. -/
def stageTypeOf (text : String) : Option Analysis.StageType :=
  [.hazard, .exposure, .vulnerability, .risk, .resilience, .validation, .fireRegime,
    .burnOccurrenceProbability, .burnSeverity].find? fun stageType => stageType.value = text

section Reader

variable (evidence : Evidence) (tenantId : TenantId) (assessmentId : UUID)

/-- `_read_stage_result_metric`. -/
def readStageResultMetric (stageType : Option String) (metricCode : String) : Option MetricValue :=
  if missing stageType then none
  else match stageTypeOf (stageType.getD "") with
    | none => none
    | some stageType =>
      match (evidence.analysis.getLatest ⟨tenantId, assessmentId, stageType⟩).bind (·.indicators) with
      | none => none
      | some indicators => (indicators.value metricCode).map .float

/-- `SqlAlchemyPredictionRunRepository.list_by_assessment`, newest first; of runs of one time it is not
    said which comes first. -/
def predictionRuns : List Prediction.PredictionRun :=
  (evidence.prediction.predictionRuns.rows.filter fun run =>
    run.tenantId = tenantId ∧ run.assessmentId.id = assessmentId).insertionSort
      fun run run' => run'.createdAt ≤ run.createdAt

/-- The fit of the newest completed run that has one. -/
def latestRegression : Option Prediction.RegressionResult :=
  (predictionRuns evidence tenantId assessmentId).findSome? fun run =>
    if run.status ≠ .completed then none else run.regressionResult

/-- `_read_prediction_metric`. -/
def readPredictionMetric (metricCode : String) : Option MetricValue :=
  (latestRegression evidence tenantId assessmentId).bind (regressionResultAttribute · metricCode)

def latestValidation : Option Validation.ValidationRun :=
  (completedRuns evidence.validation tenantId assessmentId).getLast?

/-- `_read_validation_metric`. -/
def readValidationMetricValue (metricCode : String) : Option MetricValue :=
  match latestValidation evidence tenantId assessmentId with
  | none => none
  | some latest =>
    match latest.regressionMetrics.bind (regressionMetricsAttribute · metricCode) with
    | some value => some value
    | none => latest.metrics.bind (metricsAttribute · metricCode)

/-- `CompositionRootAlertMetricReader.get_metric_value`. -/
def getMetricValue (subjectType : AlertSubjectType) (stageType : Option String)
    (metricCode : String) : Option MetricValue :=
  match subjectType with
  | .stageResult => readStageResultMetric evidence tenantId assessmentId stageType metricCode
  | .prediction => readPredictionMetric evidence tenantId assessmentId metricCode
  | .validation => readValidationMetricValue evidence tenantId assessmentId metricCode

end Reader

/-! ### The engine as it is wired -/

/-- What the engine runs on: the assessments, with names from their column; the evidence when the
    `i`-th metric is read; the channels; and the identifiers and times that it draws. -/
structure Platform where
  assessments : Lib.Table Orchestration.Assessment.id
  evidence : (i : ℕ) → Evidence
  channels : NotificationChannelType → Option NotificationChannel
  newId : ℕ → Notifications.NotificationId
  clock : ℕ → Timestamp
  names_storable : ∀ a ∈ assessments.rows, DataAcquisition.storable a.name = true

namespace Platform

/-- `CompositionRootAssessmentReader.get_assessment_info`. -/
def getAssessmentInfo (self : Platform) (c : EvaluateAlertRules) : Option AssessmentInfo :=
  match self.assessments.get ⟨c.assessmentId.id⟩ with
  | none => none
  | some assessment =>
    if assessment.tenantId ≠ c.tenantId then none
    else some { assessmentId := toString assessment.id, name := assessment.name
                hazardType := assessment.hazardType.value }

def ports (self : Platform) (c : EvaluateAlertRules) : Ports where
  assessmentInfo := self.getAssessmentInfo c
  metricValue i rule := getMetricValue (self.evidence i) c.tenantId c.assessmentId.id
    rule.subjectType rule.stageType rule.metricCode
  channels := self.channels
  newId := self.newId
  clock := self.clock
  name_storable info hinfo := by
    unfold getAssessmentInfo at hinfo
    split at hinfo
    · cases hinfo
    · next assessment hget =>
      split at hinfo
      · cases hinfo
      · cases hinfo
        exact self.names_storable assessment (Lib.Table.mem_of_get hget)

end Platform

/-! ### Which codes name an object -/

theorem objectAttribute_eq_none {objects : List (String × String)} {code : String} :
    objectAttribute objects code = none ↔ code ∉ objects.map Prod.fst := by
  rw [objectAttribute, Option.map_eq_none_iff, List.lookup_eq_none_iff]
  simp only [List.mem_map, not_exists, not_and, bne_iff_ne, ne_eq]
  exact ⟨fun h p hp heq => h p hp heq.symm, fun h p hp heq => h p hp heq.symm⟩

theorem objectAttribute_object {objects : List (String × String)} {code : String} {v : MetricValue}
    (h : objectAttribute objects code = some v) : v.number = none := by
  obtain ⟨typeName, -, rfl⟩ := Option.map_eq_some_iff.mp h
  rfl

/-- An attribute that is no number is one of the objects. -/
theorem mem_objects_iff {objects : List (String × String)} {code : String} :
    (∃ v, objectAttribute objects code = some v ∧ v.number = none) ↔
      code ∈ objects.map Prod.fst := by
  constructor
  · rintro ⟨v, hv, -⟩
    by_contra hnot
    rw [objectAttribute_eq_none.mpr hnot] at hv
    cases hv
  · intro hmem
    cases hv : objectAttribute objects code with
    | none => exact absurd hmem (objectAttribute_eq_none.mp hv)
    | some v => exact ⟨v, rfl, objectAttribute_object hv⟩

theorem regressionResultAttribute_object {self : Prediction.RegressionResult} {code : String} :
    (∃ v, regressionResultAttribute self code = some v ∧ v.number = none) ↔
      code ∈ regressionResultObjects.map Prod.fst := by
  constructor
  · rintro ⟨v, hv, hnumber⟩
    unfold regressionResultAttribute at hv
    split_ifs at hv
    any_goals
      cases hv
      cases hnumber
    exact mem_objects_iff.mp ⟨v, hv, hnumber⟩
  · intro hmem
    have hne : ∀ name ∉ regressionResultObjects.map Prod.fst, code ≠ name := by
      rintro name hname rfl
      exact hname hmem
    have heq : regressionResultAttribute self code = objectAttribute regressionResultObjects code := by
      unfold regressionResultAttribute
      rw [if_neg (hne _ (by decide)), if_neg (hne _ (by decide)), if_neg (hne _ (by decide)),
        if_neg (hne _ (by decide)), if_neg (hne _ (by decide)), if_neg (hne _ (by decide)),
        if_neg (hne _ (by decide))]
    rw [heq]
    exact mem_objects_iff.mpr hmem

/-- No code of an object is the code of a number. -/
theorem regressionMetrics_attribute_eq_none {self : Validation.RegressionMetricSet} {code : String}
    (h : code ∈ metricSetObjects.map Prod.fst) : self.attribute code = none := by
  have hne : ∀ name ∉ metricSetObjects.map Prod.fst, code ≠ name := by
    rintro name hname rfl
    exact hname h
  unfold Validation.RegressionMetricSet.attribute
  rw [if_neg (hne _ (by decide)), if_neg (hne _ (by decide)), if_neg (hne _ (by decide)),
    if_neg (hne _ (by decide)), if_neg (hne _ (by decide)), if_neg (hne _ (by decide))]

theorem metrics_attribute_eq_none {self : Validation.MetricSet} {code : String}
    (h : code ∈ metricSetObjects.map Prod.fst) : self.attribute code = none := by
  have hne : ∀ name ∉ metricSetObjects.map Prod.fst, code ≠ name := by
    rintro name hname rfl
    exact hname h
  unfold Validation.MetricSet.attribute
  rw [if_neg (hne _ (by decide)), if_neg (hne _ (by decide)), if_neg (hne _ (by decide)),
    if_neg (hne _ (by decide)), if_neg (hne _ (by decide)), if_neg (hne _ (by decide)),
    if_neg (hne _ (by decide)), if_neg (hne _ (by decide)), if_neg (hne _ (by decide))]

theorem regressionMetricsAttribute_none {self : Validation.RegressionMetricSet} {code : String}
    (h : code ∈ metricSetObjects.map Prod.fst) :
    regressionMetricsAttribute self code = objectAttribute dataclassAttributes code := by
  have hsize : code ≠ "sample_size" := by
    rintro rfl
    exact absurd h (by decide)
  rw [regressionMetricsAttribute, if_neg hsize, regressionMetrics_attribute_eq_none h]

theorem metricsAttribute_none {self : Validation.MetricSet} {code : String}
    (h : code ∈ metricSetObjects.map Prod.fst) :
    metricsAttribute self code = objectAttribute metricSetObjects code := by
  have hsize : code ≠ "sample_size" := by
    rintro rfl
    exact absurd h (by decide)
  rw [metricsAttribute, if_neg hsize, metrics_attribute_eq_none h]

/-- Of a number and an object, only the object is no number. -/
theorem mem_objects_of_attribute {size : ℕ} {number : Option PyFloat}
    {objects : List (String × String)} {code : String} {v : MetricValue}
    (h : (if code = "sample_size" then some (MetricValue.int size)
      else match number with
        | some x => some (.float x)
        | none => objectAttribute objects code) = some v)
    (hv : v.number = none) : code ∈ objects.map Prod.fst := by
  split at h
  · cases h
    cases hv
  · cases number with
    | some x =>
      cases h
      cases hv
    | none => exact mem_objects_iff.mp ⟨v, h, hv⟩

section Conditions

variable (evidence : Evidence) (tenantId : TenantId) (assessmentId : UUID)

/-- The code names, on the result it is read from, an attribute that is not a number. -/
def NamesObject (subjectType : AlertSubjectType) (metricCode : String) : Prop :=
  match subjectType with
  | .stageResult => False
  | .prediction => (latestRegression evidence tenantId assessmentId).isSome = true ∧
      metricCode ∈ regressionResultObjects.map Prod.fst
  | .validation => ∃ latest, latestValidation evidence tenantId assessmentId = some latest ∧
      (latest.regressionMetrics.isSome = true ∧ metricCode ∈ dataclassAttributes.map Prod.fst ∨
        latest.metrics.isSome = true ∧ metricCode ∈ metricSetObjects.map Prod.fst)

variable {evidence tenantId assessmentId}

theorem readStageResultMetric_number {stageType : Option String} {code : String} {v : MetricValue}
    (h : readStageResultMetric evidence tenantId assessmentId stageType code = some v) :
    ∃ x, v = .float x := by
  unfold readStageResultMetric at h
  split at h
  · cases h
  · split at h
    · cases h
    · split at h
      · cases h
      · obtain ⟨x, -, hx⟩ := Option.map_eq_some_iff.mp h
        exact ⟨x, hx.symm⟩

theorem readPredictionMetric_object {code : String} :
    (∃ v, readPredictionMetric evidence tenantId assessmentId code = some v ∧ v.number = none) ↔
      NamesObject evidence tenantId assessmentId .prediction code := by
  simp only [NamesObject, readPredictionMetric]
  cases latestRegression evidence tenantId assessmentId with
  | none => simp
  | some result =>
    simp only [Option.bind_some, Option.isSome_some, true_and]
    exact regressionResultAttribute_object

theorem readValidationMetricValue_object {code : String} :
    (∃ v, readValidationMetricValue evidence tenantId assessmentId code = some v ∧
      v.number = none) ↔ NamesObject evidence tenantId assessmentId .validation code := by
  have hsub : ∀ {name}, name ∈ dataclassAttributes.map Prod.fst →
      name ∈ metricSetObjects.map Prod.fst := by
    intro name hname
    rw [metricSetObjects, List.map_append]
    exact List.mem_append_right _ hname
  simp only [NamesObject, readValidationMetricValue]
  cases latestValidation evidence tenantId assessmentId with
  | none => simp
  | some latest =>
    simp only [Option.some.injEq, exists_eq_left']
    constructor
    · rintro ⟨v, hv, hnumber⟩
      cases hregression : latest.regressionMetrics.bind (regressionMetricsAttribute · code) with
      | some w =>
        rw [hregression] at hv
        cases hv
        obtain ⟨regression, hsome, hattribute⟩ := Option.bind_eq_some_iff.mp hregression
        exact Or.inl ⟨by rw [hsome]; rfl, mem_objects_of_attribute hattribute hnumber⟩
      | none =>
        rw [hregression] at hv
        obtain ⟨metrics, hsome, hattribute⟩ := Option.bind_eq_some_iff.mp hv
        exact Or.inr ⟨by rw [hsome]; rfl, mem_objects_of_attribute hattribute hnumber⟩
    · intro h
      have hmem : code ∈ metricSetObjects.map Prod.fst := h.elim (fun h => hsub h.2) And.right
      cases hregression : latest.regressionMetrics.bind (regressionMetricsAttribute · code) with
      | some w =>
        obtain ⟨regression, -, hattribute⟩ := Option.bind_eq_some_iff.mp hregression
        rw [regressionMetricsAttribute_none hmem] at hattribute
        exact ⟨w, rfl, objectAttribute_object hattribute⟩
      | none =>
        rcases h with ⟨hsome, hdataclass⟩ | ⟨hsome, -⟩
        · obtain ⟨regression, hregressions⟩ := Option.isSome_iff_exists.mp hsome
          rw [hregressions, Option.bind_some, regressionMetricsAttribute_none hmem,
            objectAttribute_eq_none] at hregression
          exact absurd hdataclass hregression
        · obtain ⟨metrics, hmetrics⟩ := Option.isSome_iff_exists.mp hsome
          rw [hmetrics, Option.bind_some, metricsAttribute_none hmem]
          exact mem_objects_iff.mpr hmem

/-- A metric that is found is a number iff its code does not name an object. -/
theorem namesObject_iff {subjectType : AlertSubjectType} {stageType : Option String}
    {code : String} :
    (∃ v, getMetricValue evidence tenantId assessmentId subjectType stageType code = some v ∧
      v.number = none) ↔ NamesObject evidence tenantId assessmentId subjectType code := by
  cases subjectType with
  | stageResult =>
    refine iff_of_false ?_ id
    rintro ⟨v, hv, hnumber⟩
    obtain ⟨x, rfl⟩ := readStageResultMetric_number hv
    cases hnumber
  | prediction => exact readPredictionMetric_object
  | validation => exact readValidationMetricValue_object

theorem number_regressionMetricsAttribute (self : Validation.RegressionMetricSet) (code : String) :
    (regressionMetricsAttribute self code).bind MetricValue.number = self.attribute code := by
  unfold regressionMetricsAttribute
  split
  · next hsize => simp [hsize, MetricValue.number, Validation.RegressionMetricSet.attribute]
  · cases self.attribute code with
    | some x => rfl
    | none => exact Option.bind_eq_none_iff.mpr fun v hv => objectAttribute_object hv

theorem number_metricsAttribute (self : Validation.MetricSet) (code : String) :
    (metricsAttribute self code).bind MetricValue.number = self.attribute code := by
  unfold metricsAttribute
  split
  · next hsize => simp [hsize, MetricValue.number, Validation.MetricSet.attribute]
  · cases self.attribute code with
    | some x => rfl
    | none => exact Option.bind_eq_none_iff.mpr fun v hv => objectAttribute_object hv

/-- The numbers among the values are those that `readValidationMetric` finds. -/
theorem readValidationMetric_eq (code : String) :
    readValidationMetric evidence.validation tenantId assessmentId code =
      (readValidationMetricValue evidence tenantId assessmentId code).bind MetricValue.number := by
  unfold readValidationMetric readValidationMetricValue latestValidation
  cases (completedRuns evidence.validation tenantId assessmentId).getLast? with
  | none => rfl
  | some latest =>
    have hnumber : latest.regressionMetrics.bind (·.attribute code) =
        (latest.regressionMetrics.bind (regressionMetricsAttribute · code)).bind
          MetricValue.number := by
      rw [Option.bind_assoc]
      simp only [number_regressionMetricsAttribute]
    rw [Option.bind_some, metricValue, hnumber]
    dsimp only
    cases hvalue : latest.regressionMetrics.bind (regressionMetricsAttribute · code) with
    | none =>
      simp only [Option.bind_none, Option.bind_assoc, number_metricsAttribute]
    | some v =>
      rw [Option.bind_some]
      cases hv : v.number with
      | some x => rfl
      | none =>
        obtain ⟨regression, -, hattribute⟩ := Option.bind_eq_some_iff.mp hvalue
        have hcode : code ∈ metricSetObjects.map Prod.fst := by
          rw [metricSetObjects, List.map_append]
          exact List.mem_append_right _ (mem_objects_of_attribute hattribute hv)
        refine Option.bind_eq_none_iff.mpr fun metrics _ => ?_
        rw [metrics_attribute_eq_none hcode]

end Conditions

/-! ### Which alerts are on record -/

/-- In no run does a rule that applies name an object. -/
def NamesNumbers (platform : Platform) (c : EvaluateAlertRules) (db : EarlyWarning.Db) : Prop :=
  ∀ info, platform.getAssessmentInfo c = some info →
    ∀ p ∈ (applicableRules c db info).zipIdx,
      ¬ NamesObject (platform.evidence p.2) c.tenantId c.assessmentId.id p.1.subjectType p.1.metricCode

theorem comparable_iff_namesNumbers (platform : Platform) (c : EvaluateAlertRules)
    (db : EarlyWarning.Db) :
    Comparable (platform.ports c) c db ↔ NamesNumbers platform c db := by
  unfold Comparable NamesNumbers
  refine forall₂_congr fun info _ => forall₂_congr fun p _ => ?_
  rw [← @namesObject_iff _ _ _ _ p.1.stageType, not_exists]
  exact forall_congr' fun value => by
    rw [not_and]
    exact Iff.rfl

/-- A run of the engine has every alert on record, one notification for each triple that is due and
    none else, iff no rule of it names an attribute that is not a number, and what is recorded can be
    stored; or no alert is due at all. -/
theorem onRecord_iff (platform : Platform) (c : EvaluateAlertRules) (db : EarlyWarning.Db) :
    OnRecord (platform.ports c) c db ↔
      (NamesNumbers platform c db ∧ ErrorsStorable (platform.ports c) c db ∧
        NewIds (platform.ports c) c db) ∨
      ∀ info i r s channelType, ¬ Due (platform.ports c) c db info i r s channelType := by
  rw [onRecord_iff_due, comparable_iff_namesNumbers]

/-! ### A rule that names a tuple -/

/-- A regression with a coefficient of determination. -/
def fittedRun : Prediction.PredictionRun where
  id := ⟨1⟩
  tenantId := ⟨1⟩
  assessmentId := ⟨UUID.str 1, 1⟩
  variableSelectionId := ⟨UUID.str 2, 2⟩
  samplingCampaignId := ⟨UUID.str 3, 3⟩
  method := .multipleLinearRegression
  version := 1
  status := .completed
  modelMetadata := none
  correlationResult := none
  regressionResult := some
    { intercept := .finite 0, variableResults := [], rSquared := .finite (1 / 4)
      adjustedRSquared := .finite 0, rmse := .finite 1, mae := .finite 1, fStatistic := .finite 1
      mse := .finite 1 }
  error := none
  issuedBy := "analyst"
  createdAt := 0

/-- A rule on the regression, which fires below a half. -/
def regressionRule (id : UUID) (metricCode : String) : AlertRule where
  id := ⟨id⟩
  tenantId := ⟨1⟩
  name := "Weak fit"
  subjectType := .prediction
  hazardType := none
  stageType := none
  metricCode := metricCode
  operator := .lessThan
  threshold := .finite (1 / 2)
  severity := .high
  isActive := true
  createdBy := "analyst"
  createdAt := 0
  updatedAt := 0

/-- A subscription to what appears in the application. -/
def inAppSubscription : NotificationSubscription where
  id := ⟨1, by decide⟩
  tenantId := ⟨1⟩
  userId := ⟨1⟩
  hazardType := none
  channels := [.inApp]
  emailAddress := none
  phoneNumber := none
  isActive := true
  createdAt := 0
  nodup := by decide

/-- A rule on `r_squared`, and after it one on `variables`. -/
def twoRules : EarlyWarning.Db where
  alertRules := ⟨[regressionRule 1 "r_squared", regressionRule 2 "variables"], by decide⟩
  subscriptions := ⟨[inAppSubscription], by decide⟩
  notifications := .empty
  outbox := []
  rules_accepted := by
    intro r hr
    rcases List.mem_pair.mp hr with rfl | rfl
    · exact ⟨by decide, by decide, by decide⟩
    · exact ⟨by decide, by decide, by decide⟩
  subscriptions_accepted := by
    intro s hs
    rw [List.mem_singleton.mp hs]
    exact ⟨by decide, by decide, by decide, nofun, nofun⟩

/-- One assessment with the regression, and the channel of the application. -/
def onePlatform : Platform where
  assessments := ⟨[{ id := ⟨1⟩, tenantId := ⟨1⟩, name := "Basin", hazardType := .flood
                     status := .draft, createdBy := ⟨1⟩, createdAt := 0, updatedAt := 0 }], by decide⟩
  evidence _ := { analysis := .empty, prediction := { Prediction.Db.empty with
                    predictionRuns := ⟨[fittedRun], by decide⟩ }, validation := ⟨.empty⟩ }
  channels := fun
    | .inApp => some inAppNotificationChannel
    | _ => none
  newId n := ⟨n % 2 ^ 128, mod_isUuid n⟩
  clock _ := 0
  names_storable := by
    intro a ha
    rw [List.mem_singleton.mp ha]
    decide

/-- The first alert is delivered, the second rule compares a tuple, and the record of the first is
    lost. -/
theorem delivered_not_on_record : ¬ ∀ (platform : Platform) (c : EvaluateAlertRules)
    (db : EarlyWarning.Db), OnRecord (platform.ports c) c db := by
  intro h
  let c : EvaluateAlertRules := ⟨⟨1⟩, ⟨UUID.str 1, 1⟩⟩
  have hinfo : onePlatform.getAssessmentInfo c = some ⟨UUID.str 1, "Basin", "FLOOD"⟩ := rfl
  have hdue : Due (onePlatform.ports c) c twoRules ⟨UUID.str 1, "Basin", "FLOOD"⟩ 0
      (regressionRule 1 "r_squared") inAppSubscription .inApp :=
    { assessment := hinfo
      rule := List.mem_cons_self
      fires := ⟨.float (.finite (1 / 4)), by rfl, by decide +kernel⟩
      subscription := List.mem_cons_self
      channel := List.mem_cons_self
      recipient := ⟨_, rfl⟩
      configured := ⟨_, rfl⟩ }
  rcases (onRecord_iff_due twoRules).mp (h onePlatform c twoRules) with ⟨hcomparable, -⟩ | hnone
  · have hrule : (regressionRule 2 "variables", 1) ∈
        (applicableRules c twoRules ⟨UUID.str 1, "Basin", "FLOOD"⟩).zipIdx :=
      List.mem_cons_of_mem _ List.mem_cons_self
    exact hcomparable _ hinfo _ hrule (.object "tuple") (by rfl) rfl
  · exact hnone _ _ _ _ _ hdue

end GeoRisk.Api
