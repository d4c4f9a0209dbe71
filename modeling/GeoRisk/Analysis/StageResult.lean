import Mathlib
import GeoRisk.SharedKernel

/-! The aggregates of the analysis context: the result of one stage of an assessment, and the risk
    layer that is drawn from a result of the risk stage. Both are written once, under the next version
    of their assessment and stage:

        complete ─▶ COMPLETE  indicators, confidence, snapshot ──▶ risk layer
        failed   ─▶ FAILED    error -/

namespace GeoRisk.Analysis

structure StageResultId where
  value : UUID
  deriving DecidableEq

structure RiskLayerId where
  value : UUID
  deriving DecidableEq

instance : ToString StageResultId := ⟨fun i => UUID.str i.value⟩
instance : ToString RiskLayerId := ⟨fun i => UUID.str i.value⟩

inductive HazardType where
  | flood | wildfire | drought | landslide
  deriving DecidableEq

def HazardType.value : HazardType → String
  | .flood => "FLOOD"
  | .wildfire => "WILDFIRE"
  | .drought => "DROUGHT"
  | .landslide => "LANDSLIDE"

instance : ToString HazardType := ⟨HazardType.value⟩

inductive StageType where
  | hazard | exposure | vulnerability | risk | resilience | validation | fireRegime
  | burnOccurrenceProbability | burnSeverity
  deriving DecidableEq

def StageType.value : StageType → String
  | .hazard => "HAZARD"
  | .exposure => "EXPOSURE"
  | .vulnerability => "VULNERABILITY"
  | .risk => "RISK"
  | .resilience => "RESILIENCE"
  | .validation => "VALIDATION"
  | .fireRegime => "FIRE_REGIME"
  | .burnOccurrenceProbability => "BURN_OCCURRENCE_PROBABILITY"
  | .burnSeverity => "BURN_SEVERITY"

instance : ToString StageType := ⟨StageType.value⟩

inductive StageResultStatus where
  | complete | failed
  deriving DecidableEq

inductive ConfidenceTier where
  | low | moderate | high
  deriving DecidableEq

def ConfidenceTier.value : ConfidenceTier → String
  | .low => "LOW"
  | .moderate => "MODERATE"
  | .high => "HIGH"

def confidenceTierForSampleSize (n : ℕ) : ConfidenceTier :=
  if 5 ≤ n then .high else if 2 ≤ n then .moderate else .low

/-! ### Indicators and inputs -/

structure Indicator where
  code : String
  value : PyFloat
  unit : String := ""
  subIndex : Option String := none
  deriving DecidableEq

structure IndicatorSet where
  indicators : List Indicator
  deriving DecidableEq

namespace IndicatorSet

def get (self : IndicatorSet) (code : String) : Option Indicator :=
  self.indicators.find? (·.code = code)

def value (self : IndicatorSet) (code : String) : Option PyFloat := (self.get code).map (·.value)

def asDict (self : IndicatorSet) : List (String × PyFloat) :=
  self.indicators.foldl (fun d i => setItem d i.code i.value) []

end IndicatorSet

/-- A dictionary of raw values. -/
abbrev Inputs := List (String × Json)

/-- `{**inputs, **values}`. -/
def Inputs.update (inputs : Inputs) (values : List (String × PyFloat)) : Inputs :=
  values.foldl (fun d p => setItem d p.1 (.float p.2)) inputs

structure ComputationSnapshot where
  inputs : Inputs
  historical : List Inputs := []
  historicalCount : ℕ := 0

/-! ### Events -/

structure StageResultComputed where
  stageResultId : StageResultId
  tenantId : TenantId
  assessmentId : String
  hazardType : HazardType
  stageType : StageType
  version : ℕ
  confidenceTier : ConfidenceTier
  indicators : List (String × PyFloat)
  strategyVersion : String
  formulaVersion : String

structure StageResultFailed where
  stageResultId : StageResultId
  tenantId : TenantId
  assessmentId : String
  hazardType : HazardType
  stageType : StageType
  version : ℕ
  error : String

structure RiskLayerGenerated where
  riskLayerId : RiskLayerId
  tenantId : TenantId
  assessmentId : String
  hazardType : HazardType
  stageType : StageType
  datasetId : String
  featureCount : ℕ
  version : ℕ

inductive AnalysisEvent where
  | stageResultComputed (e : StageResultComputed)
  | stageResultFailed (e : StageResultFailed)
  | riskLayerGenerated (e : RiskLayerGenerated)

/-! ### Stage results -/

structure StageResult where
  id : StageResultId
  tenantId : TenantId
  assessmentId : Spelled UUID
  hazardType : HazardType
  stageType : StageType
  version : ℕ
  status : StageResultStatus
  indicators : Option IndicatorSet
  confidenceTier : Option ConfidenceTier
  snapshot : ComputationSnapshot
  error : Option String
  issuedBy : String
  createdAt : Timestamp
  strategyVersion : Option String
  formulaVersion : Option String

/-- `RecordStageResultCommand`, its hazard and stage read by `HazardType` and `StageType`. -/
structure RecordStageResult where
  tenantId : TenantId
  assessmentId : Spelled UUID
  hazardType : HazardType
  stageType : StageType
  issuedBy : String

namespace StageResult

def complete (c : RecordStageResult) (id : StageResultId) (version : ℕ) (indicators : IndicatorSet)
    (confidenceTier : ConfidenceTier) (snapshot : ComputationSnapshot)
    (strategyVersion formulaVersion : String) (now : Timestamp) : StageResult × StageResultComputed :=
  ({ id, tenantId := c.tenantId, assessmentId := c.assessmentId, hazardType := c.hazardType
     stageType := c.stageType, version, status := .complete, indicators := some indicators
     confidenceTier := some confidenceTier, snapshot, error := none, issuedBy := c.issuedBy
     createdAt := now, strategyVersion := some strategyVersion
     formulaVersion := some formulaVersion },
   { stageResultId := id, tenantId := c.tenantId, assessmentId := c.assessmentId.text
     hazardType := c.hazardType, stageType := c.stageType, version, confidenceTier
     indicators := indicators.asDict, strategyVersion, formulaVersion })

def failed (c : RecordStageResult) (id : StageResultId) (version : ℕ) (snapshot : ComputationSnapshot)
    (error : String) (strategyVersion formulaVersion : Option String) (now : Timestamp) :
    StageResult × StageResultFailed :=
  ({ id, tenantId := c.tenantId, assessmentId := c.assessmentId, hazardType := c.hazardType
     stageType := c.stageType, version, status := .failed, indicators := none
     confidenceTier := none, snapshot, error := some error, issuedBy := c.issuedBy
     createdAt := now, strategyVersion, formulaVersion },
   { stageResultId := id, tenantId := c.tenantId, assessmentId := c.assessmentId.text
     hazardType := c.hazardType, stageType := c.stageType, version, error })

end StageResult

/-! ### Risk layers -/

/-- A feature of an uploaded geometry. -/
structure Feature where
  geometry : List (String × Json)
  properties : Json

/-- `RiskLayerFeatureCollection`. -/
structure RiskLayerFeatureCollection where
  geojson : Json
  featureCount : ℕ
  geometryType : String
  boundingBox : PyFloat × PyFloat × PyFloat × PyFloat
  riskIndex : PyFloat
  riskLevel : String
  classification : String

structure RiskLayer where
  id : RiskLayerId
  tenantId : TenantId
  assessmentId : Spelled UUID
  hazardType : HazardType
  stageType : StageType
  stageResultId : StageResultId
  datasetId : String
  version : ℕ
  geometryType : String
  featureCount : ℕ
  boundingBox : PyFloat × PyFloat × PyFloat × PyFloat
  crs : String
  riskIndex : PyFloat
  riskLevel : String
  classification : String
  formulaVersion : String
  geojson : Json
  generatedAt : Timestamp

structure GenerateRiskLayer where
  tenantId : TenantId
  assessmentId : Spelled UUID
  stageResultId : Spelled StageResultId
  datasetId : String
  geometryType : String
  crs : String
  features : List Feature
  issuedBy : String

def RiskLayer.generate (c : GenerateRiskLayer) (stageResult : StageResult) (id : RiskLayerId)
    (version : ℕ) (built : RiskLayerFeatureCollection) (formulaVersion : String) (now : Timestamp) :
    RiskLayer × RiskLayerGenerated :=
  ({ id, tenantId := c.tenantId, assessmentId := c.assessmentId, hazardType := stageResult.hazardType
     stageType := stageResult.stageType, stageResultId := stageResult.id, datasetId := c.datasetId
     version, geometryType := built.geometryType, featureCount := built.featureCount
     boundingBox := built.boundingBox, crs := c.crs, riskIndex := built.riskIndex
     riskLevel := built.riskLevel, classification := built.classification, formulaVersion
     geojson := built.geojson, generatedAt := now },
   { riskLayerId := id, tenantId := c.tenantId, assessmentId := c.assessmentId.text
     hazardType := stageResult.hazardType, stageType := stageResult.stageType
     datasetId := c.datasetId, featureCount := built.featureCount, version })

end GeoRisk.Analysis
