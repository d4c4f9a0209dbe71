import Mathlib
import GeoRisk.DataAcquisition.Handlers
import GeoRisk.Prediction.Handlers

/-! The composition root of the prediction context: the selection of variables that a prediction works
    with is read from the tables of the data acquisition context. The selection must be the tenant's;
    whose its variables are is not asked:

        selection id ──tenant_id = T──▶ selection ──ids──▶ get_by_id ──▶ variables -/

namespace GeoRisk.Api

open DataAcquisition Prediction

def variableInfo (v : PredictorVariable) : PredictorVariableInfo where
  predictorVariableId := toString v.id
  code := v.code
  name := v.name
  variableRole := v.variableRole.value
  valueMin := v.valueMin
  valueMax := v.valueMax

/-- The variables of a list of identifiers; what is not registered is left out. -/
def resolve (db : DataAcquisition.Db) (ids : List PredictorVariableId) : List PredictorVariable :=
  ids.filterMap db.predictorVariables.get

/-- `CompositionRootVariableSelectionReader.get_selection`. -/
def getSelection (db : DataAcquisition.Db) (tenantId : TenantId)
    (variableSelectionId : Spelled UUID) : Option VariableSelectionInfo :=
  match db.variableSelections.get ⟨variableSelectionId.id⟩ with
  | none => none
  | some selection =>
    if selection.tenantId ≠ tenantId then none
    else some {
      variableSelectionId := toString selection.id
      status := selection.status.value
      hazardType := selection.hazardType
      variableInfos := (resolve db selection.selectedVariableIds).map variableInfo }

/-- A prediction, its selection read by the composition root. -/
def predict (ports : Ports) (acquisition : DataAcquisition.Db) (c : RunPrediction)
    (id : PredictionRunId) (now : Timestamp) (db : Prediction.Db) : Prediction.Db × PredictionRun :=
  runPrediction { ports with
    getSelection := fun tenantId variableSelectionId =>
      .ok (getSelection acquisition tenantId variableSelectionId) } c id now db

end GeoRisk.Api
