import Mathlib
import GeoRisk.Lib.Runs
import GeoRisk.DataAcquisition.Writes
import GeoRisk.Api.PredictionPorts

/-! Do predictor variables keep tenants apart? A listing shows a tenant the shared variables and its
    own. A selection is made of bare identifiers, which nobody looks up before they are resolved, and
    then without asking whose the variables are. So a tenant's predictions see exactly what its
    selections name, and the private variables of others stay out iff no selection names them, nor an
    identifier under which one could still be registered. -/

namespace GeoRisk.Api

open DataAcquisition Prediction

/-- The rule of `list_available`: a variable is shared, or the tenant's own. -/
def VisibleTo (tenantId : TenantId) (v : PredictorVariable) : Prop :=
  v.tenantId = none ∨ v.tenantId = some tenantId

instance (tenantId : TenantId) (v : PredictorVariable) : Decidable (VisibleTo tenantId v) :=
  inferInstanceAs (Decidable (_ ∨ _))

/-- The tables differ at most in variables that the tenant does not see. -/
structure SameVisible (tenantId : TenantId) (db db' : DataAcquisition.Db) : Prop where
  rest : db' = { db with predictorVariables := db'.predictorVariables }
  visible : db'.predictorVariables.rows.filter (fun v => VisibleTo tenantId v) =
    db.predictorVariables.rows.filter fun v => VisibleTo tenantId v

/-- The variables that a prediction of the tenant works with, and those it names, are visible to the
    tenant, and neither depends on variables that are not. -/
structure Isolated (tenantId : TenantId) (db : DataAcquisition.Db) : Prop where
  infos : ∀ selectionId info, getSelection db tenantId selectionId = some info →
    ∀ i ∈ info.variableInfos, ∃ v ∈ db.predictorVariables.rows,
      VisibleTo tenantId v ∧ i = variableInfo v
  infos_same : ∀ db', SameVisible tenantId db db' → ∀ selectionId,
    getSelection db' tenantId selectionId = getSelection db tenantId selectionId
  runs : ∀ ports c id now predictions, c.tenantId = tenantId →
    ∀ code ∈ (predict ports db c id now predictions).2.codes, ∃ v ∈ db.predictorVariables.rows,
      VisibleTo tenantId v ∧ v.code = code
  runs_same : ∀ db', SameVisible tenantId db db' → ∀ ports c id now predictions,
    c.tenantId = tenantId →
      predict ports db' c id now predictions = predict ports db c id now predictions

/-- Under each of the identifiers there is a variable that the tenant sees. -/
def AllVisible (db : DataAcquisition.Db) (tenantId : TenantId) (ids : List PredictorVariableId) :
    Prop :=
  ∀ i ∈ ids, ∃ v, db.predictorVariables.get i = some v ∧ VisibleTo tenantId v

/-- What the selections of the tenant name, the tenant sees. -/
def Scoped (tenantId : TenantId) (db : DataAcquisition.Db) : Prop :=
  ∀ s ∈ db.variableSelections.rows, s.tenantId = tenantId →
    AllVisible db tenantId s.selectedVariableIds

variable {tenantId : TenantId} {db db' : DataAcquisition.Db} {ids : List PredictorVariableId}

/-! ### Resolution -/

/-- With fewer variables, fewer are resolved. -/
theorem resolve_of_filter {p : PredictorVariable → Bool}
    (h : db'.predictorVariables.rows = db.predictorVariables.rows.filter p) :
    resolve db' ids = (resolve db ids).filter p := by
  have hget : db'.predictorVariables.get = fun i => (db.predictorVariables.get i).filter p :=
    funext fun i => Lib.Table.get_of_filter h i
  rw [resolve, resolve, hget, List.filter_filterMap]

theorem mem_resolve {v : PredictorVariable} :
    v ∈ resolve db ids ↔ ∃ i ∈ ids, db.predictorVariables.get i = some v :=
  List.mem_filterMap

theorem AllVisible.visible (h : AllVisible db tenantId ids) {v : PredictorVariable}
    (hv : v ∈ resolve db ids) : v ∈ db.predictorVariables.rows ∧ VisibleTo tenantId v := by
  obtain ⟨i, hi, hget⟩ := mem_resolve.mp hv
  obtain ⟨v', hget', hvisible⟩ := h i hi
  obtain rfl : v = v' := Option.some.inj (hget.symm.trans hget')
  exact ⟨Lib.Table.mem_of_get hget, hvisible⟩

/-- A variable that is visible is found in both. -/
theorem SameVisible.get (hsame : SameVisible tenantId db db') {i : PredictorVariableId}
    {v : PredictorVariable} (hget : db.predictorVariables.get i = some v)
    (hvisible : VisibleTo tenantId v) : db'.predictorVariables.get i = some v := by
  have hmem : v ∈ db.predictorVariables.rows.filter fun v => VisibleTo tenantId v :=
    List.mem_filter.mpr ⟨Lib.Table.mem_of_get hget, decide_eq_true hvisible⟩
  rw [← hsame.visible] at hmem
  rw [← Lib.Table.key_of_get hget]
  exact Lib.Table.get_of_mem (List.mem_of_mem_filter hmem)

/-- What is visible resolves to the same variables. -/
theorem SameVisible.resolve (hsame : SameVisible tenantId db db') (h : AllVisible db tenantId ids) :
    resolve db' ids = resolve db ids := by
  refine List.filterMap_congr fun i hi => ?_
  obtain ⟨v, hget, hvisible⟩ := h i hi
  rw [hsame.get hget hvisible, hget]

theorem SameVisible.variableSelections (hsame : SameVisible tenantId db db') :
    db'.variableSelections = db.variableSelections := by
  rw [hsame.rest]

/-- A selection of the tenant, as a prediction reads it. -/
theorem getSelection_of_mem {s : VariableSelection} (hs : s ∈ db.variableSelections.rows)
    (htenant : s.tenantId = tenantId) (text : String) :
    getSelection db tenantId ⟨text, s.id.value⟩ = some {
      variableSelectionId := toString s.id, status := s.status.value, hazardType := s.hazardType
      variableInfos := (Api.resolve db s.selectedVariableIds).map variableInfo } := by
  have hget : db.variableSelections.get ⟨s.id.value⟩ = some s := Lib.Table.get_of_mem hs
  simp only [getSelection, hget, htenant, ne_eq, not_true_eq_false, if_false]

/-- Every selection that is read is one of the tenant. -/
theorem getSelection_cases (db : DataAcquisition.Db) (tenantId : TenantId)
    (selectionId : Spelled UUID) :
    (∀ db' : DataAcquisition.Db, db'.variableSelections = db.variableSelections →
      getSelection db' tenantId selectionId = none) ∨
    ∃ s ∈ db.variableSelections.rows, s.tenantId = tenantId ∧ s.id.value = selectionId.id := by
  cases hget : db.variableSelections.get ⟨selectionId.id⟩ with
  | none => exact Or.inl fun db' h => by simp only [getSelection, h, hget]
  | some s =>
    by_cases htenant : s.tenantId = tenantId
    · have hid : s.id = ⟨selectionId.id⟩ := Lib.Table.key_of_get hget
      exact Or.inr ⟨s, Lib.Table.mem_of_get hget, htenant, by rw [hid]⟩
    · exact Or.inl fun db' h => by simp only [getSelection, h, hget, ne_eq, htenant,
        not_false_eq_true, if_true]

/-! ### When variables are isolated -/

/-- Selections that name visible variables only keep the tenant's predictions isolated. -/
theorem Scoped.isolated (h : Scoped tenantId db) : Isolated tenantId db := by
  have hinfos : ∀ selectionId info, getSelection db tenantId selectionId = some info →
      ∀ i ∈ info.variableInfos, ∃ v ∈ db.predictorVariables.rows,
        VisibleTo tenantId v ∧ i = variableInfo v := by
    rintro ⟨text, id⟩ info hinfo i hi
    rcases getSelection_cases db tenantId ⟨text, id⟩ with hnone | ⟨s, hs, htenant, rfl⟩
    · exact nomatch (hnone db rfl).symm.trans hinfo
    · rw [getSelection_of_mem hs htenant] at hinfo
      cases hinfo
      obtain ⟨v, hv, rfl⟩ := List.mem_map.mp hi
      obtain ⟨hmem, hvisible⟩ := (h s hs htenant).visible hv
      exact ⟨v, hmem, hvisible, rfl⟩
  have hsame : ∀ db', SameVisible tenantId db db' → ∀ selectionId,
      getSelection db' tenantId selectionId = getSelection db tenantId selectionId := by
    rintro db' hsame ⟨text, id⟩
    have hrows := hsame.variableSelections
    rcases getSelection_cases db tenantId ⟨text, id⟩ with hnone | ⟨s, hs, htenant, rfl⟩
    · rw [hnone db' hrows, hnone db rfl]
    · have hs' : s ∈ db'.variableSelections.rows := by rw [hrows]; exact hs
      rw [getSelection_of_mem hs htenant, getSelection_of_mem hs' htenant,
        hsame.resolve (h s hs htenant)]
  refine ⟨hinfos, hsame, ?_, ?_⟩
  · rintro ports c id now predictions rfl code hcode
    obtain ⟨info, hinfo, i, hi, rfl⟩ := mem_codes_resultOf hcode
    obtain ⟨v, hv, hvisible, rfl⟩ := hinfos _ info (Except.ok.inj hinfo) i hi
    exact ⟨v, hv, hvisible, rfl⟩
  · rintro db' hdb' ports c id now predictions rfl
    set found : TenantId → Spelled UUID → Except String (Option VariableSelectionInfo) :=
      fun tenantId selectionId => .ok (getSelection db tenantId selectionId)
    exact @runPrediction_congr { ports with getSelection := found } _ _ _ _ _
      (congrArg Except.ok (hsame db' hdb' c.variableSelectionId))

/-- In isolation a selection of the tenant resolves to as many variables whatever else there is. -/
theorem Isolated.resolve_length (h : Isolated tenantId db) (hsame : SameVisible tenantId db db')
    {s : VariableSelection} (hs : s ∈ db.variableSelections.rows) (htenant : s.tenantId = tenantId) :
    (resolve db' s.selectedVariableIds).length = (resolve db s.selectedVariableIds).length := by
  have hs' : s ∈ db'.variableSelections.rows := by rw [hsame.variableSelections]; exact hs
  have hinfo := h.infos_same db' hsame ⟨"", s.id.value⟩
  rw [getSelection_of_mem hs htenant, getSelection_of_mem hs' htenant] at hinfo
  have hlength := congrArg (fun info : VariableSelectionInfo => info.variableInfos.length)
    (Option.some.inj hinfo)
  simpa using hlength

/-- Somebody else's variable under an identifier. -/
def foreignVariable (tenantId : TenantId) (id : PredictorVariableId) : PredictorVariable where
  id := id
  tenantId := some ⟨tenantId.value + 1⟩
  name := ""
  code := ""
  category := .other
  variableRole := .independent
  dataType := .continuous
  unit := ""
  valueMin := none
  valueMax := none
  isRequiredForMlr := false
  linkedDatasetId := none
  isActive := true
  createdBy := ""
  createdAt := 0

theorem not_visibleTo_foreignVariable (id : PredictorVariableId) :
    ¬ VisibleTo tenantId (foreignVariable tenantId id) := by
  rintro (h | h)
  · cases h
  · have hvalue : tenantId.value + 1 = tenantId.value :=
      congrArg TenantId.value (Option.some.inj h)
    exact Nat.succ_ne_self _ hvalue

theorem Isolated.scoped (h : Isolated tenantId db) : Scoped tenantId db := by
  intro s hs htenant i hi
  cases hget : db.predictorVariables.get i with
  | some v =>
    refine ⟨v, rfl, ?_⟩
    -- without the variables that the tenant does not see, as many are resolved
    set db' : DataAcquisition.Db := { db with
      predictorVariables := db.predictorVariables.filter fun v => VisibleTo tenantId v } with hdb'
    have hsame : SameVisible tenantId db db' := ⟨rfl, by simp [hdb', Lib.Table.filter]⟩
    have hlength := h.resolve_length hsame hs htenant
    have hresolve : resolve db' s.selectedVariableIds =
        (resolve db s.selectedVariableIds).filter fun v => VisibleTo tenantId v :=
      resolve_of_filter rfl
    rw [hresolve, List.length_filter_eq_length_iff] at hlength
    exact of_decide_eq_true (hlength v (mem_resolve.mpr ⟨i, hi, hget⟩))
  | none =>
    -- somebody else may register a variable under the identifier
    exfalso
    set w := foreignVariable tenantId i with hw
    set db' : DataAcquisition.Db := { db with
      predictorVariables := db.predictorVariables.put w } with hdb'
    have hrows : db'.predictorVariables.rows = db.predictorVariables.rows ++ [w] :=
      Lib.Table.put_rows_of_fresh hget
    have hsame : SameVisible tenantId db db' := by
      refine ⟨rfl, ?_⟩
      rw [hrows, List.filter_append]
      simp [hw, not_visibleTo_foreignVariable]
    have hfilter : db.predictorVariables.rows =
        db'.predictorVariables.rows.filter fun v => v.id ≠ i := by
      rw [hrows, List.filter_append]
      have hall : ∀ v ∈ db.predictorVariables.rows, v.id ≠ i := by
        rintro v hv rfl
        cases hget.symm.trans (Lib.Table.get_of_mem hv)
      have hwid : w.id = i := rfl
      rw [List.filter_eq_self.mpr fun v hv => decide_eq_true (hall v hv)]
      simp [hwid]
    have hlength := h.resolve_length hsame hs htenant
    rw [resolve_of_filter hfilter, eq_comm, List.length_filter_eq_length_iff] at hlength
    have hmem : w ∈ resolve db' s.selectedVariableIds :=
      mem_resolve.mpr ⟨i, hi, Lib.Table.get_put_self db.predictorVariables w⟩
    exact of_decide_eq_true (hlength w hmem) rfl

theorem isolated_iff_scoped : Isolated tenantId db ↔ Scoped tenantId db :=
  ⟨Isolated.scoped, Scoped.isolated⟩

/-! ### Runs -/

/-- The command passes every check of its handler, none of which looks at a variable. -/
structure Accepted (c : CreateVariableSelection) (id : VariableSelectionId)
    (db : DataAcquisition.Db) : Prop where
  fresh : db.variableSelections.get id = none
  selects : c.selectedVariableIds ≠ []
  fits : (fits 200 c.name && fits 20 (c.hazardType.getD "") && fits 200 c.issuedBy) = true

/-- A selection that the tenant creates names variables that it sees. -/
def SelectsVisible (tenantId : TenantId) (db : DataAcquisition.Db) :
    Timestamp × DataAcquisition.Command → Prop
  | (_, .createVariableSelection c id) =>
    c.tenantId = tenantId → Accepted c id db → AllVisible db tenantId c.selectedVariableIds
  | _ => True

variable {now : Timestamp}

theorem step_createVariableSelection {c : CreateVariableSelection} {id : VariableSelectionId} :
    (¬ Accepted c id db ∧ db.step (now, .createVariableSelection c id) = db) ∨
    Accepted c id db ∧ ∃ s outbox, s.id = id ∧ s.tenantId = c.tenantId ∧
      s.selectedVariableIds = c.selectedVariableIds ∧
      db.step (now, .createVariableSelection c id) =
        { db with variableSelections := db.variableSelections.put s, outbox } := by
  by_cases hfresh : db.variableSelections.get id = none
  case neg =>
    refine Or.inl ⟨fun h => hfresh h.fresh, ?_⟩
    exact if_pos (Option.isSome_iff_ne_none.mpr hfresh)
  have hstep : db.step (now, .createVariableSelection c id) =
      db.commit (createVariableSelection c id now db) := if_neg (by simp [hfresh])
  rw [hstep]
  cases hr : createVariableSelection c id now db with
  | ok r =>
    obtain ⟨db', s⟩ := r
    obtain ⟨hid, htenant, hids, outbox, rfl⟩ := createVariableSelection_ok hr
    refine Or.inr ⟨?_, s, outbox, hid, htenant, hids, rfl⟩
    obtain ⟨⟨selection, event⟩, hcreate, h⟩ := Lib.bind_ok.mp hr
    obtain ⟨u, hfits, h⟩ := Lib.bind_ok.mp h
    unfold VariableSelection.create at hcreate
    split at hcreate
    · cases hcreate
    · next hne =>
      cases hcreate
      exact ⟨hfresh, hne, flushed_ok.mp hfits⟩
  | error e =>
    refine Or.inl ⟨?_, rfl⟩
    rintro ⟨-, hne, hfits⟩
    have hcreate : ∃ r, VariableSelection.create id c.tenantId c.name c.hazardType
        c.selectedVariableIds c.issuedBy now = .ok r ∧ r.1.fits = true :=
      ⟨_, if_neg hne, hfits⟩
    obtain ⟨r, hcreate, hfits⟩ := hcreate
    have hok : ∃ r, createVariableSelection c id now db = .ok r := by
      refine Lib.exists_bind_ok.mpr ⟨r, hcreate, ?_⟩
      exact Lib.exists_bind_ok.mpr ⟨(), flushed_ok.mpr hfits, _, rfl⟩
    obtain ⟨r, hok⟩ := hok
    cases hr.symm.trans hok

theorem Scoped.congr (h : Scoped tenantId db)
    (hselections : db'.variableSelections = db.variableSelections)
    (hvariables : ∀ i v, db.predictorVariables.get i = some v →
      db'.predictorVariables.get i = some v) : Scoped tenantId db' := by
  intro s hs htenant i hi
  rw [hselections] at hs
  obtain ⟨v, hget, hvisible⟩ := h s hs htenant i hi
  exact ⟨v, hvariables i v hget, hvisible⟩

/-- A new selection is scoped iff it names variables that the tenant sees. -/
theorem Scoped.create_iff (h : Scoped tenantId db) {s : VariableSelection}
    (hfresh : db.variableSelections.get s.id = none)
    {outbox : List (OutboxEvent AcquisitionEvent)} :
    Scoped tenantId { db with variableSelections := db.variableSelections.put s, outbox } ↔
      (s.tenantId = tenantId → AllVisible db tenantId s.selectedVariableIds) := by
  have hrows := Lib.Table.put_rows_of_fresh hfresh
  constructor
  · intro hscoped htenant
    refine hscoped s ?_ htenant
    rw [hrows]
    exact List.mem_append_right _ (List.mem_singleton_self s)
  · intro hs s' hs' htenant
    rw [hrows] at hs'
    rcases List.mem_append.mp hs' with hs' | hs'
    · exact h s' hs' htenant
    · obtain rfl := List.mem_singleton.mp hs'
      exact hs htenant

/-- Every command but `CreateVariableSelection` keeps the selections scoped. -/
theorem Scoped.step (h : Scoped tenantId db) {command : DataAcquisition.Command}
    (hcommand : ∀ c id, command ≠ .createVariableSelection c id) :
    Scoped tenantId (db.step (now, command)) := by
  cases command with
  | registerDatasetSource c id =>
    refine Db.of_drawn h fun _ db' _ hr => ?_
    obtain ⟨outbox, rfl⟩ := registerDatasetSource_ok hr
    exact h.congr rfl fun _ _ hget => hget
  | catalogDataset c id =>
    refine Db.of_drawn h fun _ db' _ hr => ?_
    obtain ⟨outbox, rfl⟩ := catalogDataset_ok hr
    exact h.congr rfl fun _ _ hget => hget
  | reviseDataset c id tie =>
    refine Db.of_drawn h fun _ db' _ hr => ?_
    obtain ⟨datasets, outbox, rfl⟩ := reviseDataset_ok hr
    exact h.congr rfl fun _ _ hget => hget
  | registerPredictorVariable c id =>
    refine Db.of_drawn h fun hfresh db' _ hr => ?_
    obtain ⟨rfl, -, outbox, rfl⟩ := registerPredictorVariable_ok hr
    refine h.congr rfl fun i v hget => (Lib.Table.get_put_of_ne _ ?_).trans hget
    rintro rfl
    exact nomatch hfresh.symm.trans hget
  | createVariableSelection c id => exact absurd rfl (hcommand c id)
  | confirmVariableSelection c =>
    refine Db.of_commit h fun db' _ hr => ?_
    obtain ⟨s, hget, -, rfl, outbox, rfl⟩ := confirmVariableSelection_ok hr
    intro s' hs' htenant
    rcases Lib.Table.mem_put_rows.mp hs' with rfl | ⟨hs', -⟩
    · exact h s (Lib.Table.mem_of_get hget) htenant
    · exact h s' hs' htenant
  | scheduleAcquisitionJob c id =>
    refine Db.of_drawn h fun _ db' _ hr => ?_
    obtain ⟨-, -, outbox, -, -, rfl⟩ := scheduleAcquisitionJob_ok hr
    exact h.congr rfl fun _ _ hget => hget
  | executeAcquisitionJob w c id tie finished =>
    simp only [Db.step]
    split
    · exact h
    · obtain ⟨datasets, acquisitionJobs, outbox, heq⟩ :=
        @executeAcquisitionJob_writes db now w c id tie finished
      rw [heq]
      exact h.congr rfl fun _ _ hget => hget

theorem scoped_step_iff (h : Scoped tenantId db) {t : Timestamp × DataAcquisition.Command} :
    Scoped tenantId (db.step t) ↔ SelectsVisible tenantId db t := by
  obtain ⟨now, command⟩ := t
  by_cases hcreate : ∃ c id, command = .createVariableSelection c id
  · obtain ⟨c, id, rfl⟩ := hcreate
    rcases @step_createVariableSelection db now c id with
      ⟨hrefused, hstep⟩ | ⟨haccepted, s, outbox, rfl, htenant, hids, hstep⟩
    · rw [hstep]
      exact iff_of_true h fun _ haccepted => absurd haccepted hrefused
    · rw [hstep, h.create_iff haccepted.fresh, htenant, hids]
      exact ⟨fun hs htenant _ => hs htenant, fun hs htenant => hs htenant haccepted⟩
  · have hother : ∀ c id, command ≠ .createVariableSelection c id :=
      fun c id heq => hcreate ⟨c, id, heq⟩
    have hselects : SelectsVisible tenantId db (now, command) := by
      cases command with
      | createVariableSelection c id => exact absurd rfl (hother c id)
      | _ => trivial
    exact iff_of_true (h.step hother) hselects

/-- Throughout a run of commands the predictions of a tenant are isolated, iff every selection that
    the tenant creates names only variables that it sees. -/
theorem isolated_iff_selects_visible (tenantId : TenantId) (hdb : Isolated tenantId db)
    (commands : List (Timestamp × DataAcquisition.Command)) :
    Lib.AllStates Db.step (Isolated tenantId) db commands ↔
      Lib.AllSteps Db.step (SelectsVisible tenantId) db commands := by
  refine Lib.allStates_iff_allSteps (J := fun _ => True) (fun db t _ h => ?_)
    (fun _ _ _ _ _ => trivial) trivial hdb
  rw [isolated_iff_scoped]
  exact scoped_step_iff h.scoped

/-! ### A variable of somebody else -/

/-- A variable that tenant 2 keeps to itself. -/
def privateVariable : Timestamp × DataAcquisition.Command :=
  (0, .registerPredictorVariable {
    tenantId := some ⟨2⟩, name := "Canal level", code := "canal_level", category := .other
    variableRole := .independent, dataType := .continuous } ⟨7⟩)

def sharedVariable : Timestamp × DataAcquisition.Command :=
  (1, .registerPredictorVariable {
    tenantId := none, name := "Rainfall", code := "rainfall", category := .meteorological
    variableRole := .independent, dataType := .continuous } ⟨8⟩)

/-- Tenant 1 selects the variable of an identifier, and confirms the selection. -/
def selecting (id : PredictorVariableId) : List (Timestamp × DataAcquisition.Command) :=
  [(2, .createVariableSelection ⟨⟨1⟩, "all", none, [id], ""⟩ ⟨9⟩),
    (3, .confirmVariableSelection ⟨⟨1⟩, ⟨9⟩⟩)]

theorem isolated_iff_selects_visible_sample :
    Lib.AllStates Db.step (Isolated ⟨1⟩) Db.empty
      (privateVariable :: sharedVariable :: selecting ⟨8⟩) := by
  have hempty : Scoped ⟨1⟩ Db.empty := by
    intro s hs
    cases hs
  refine (isolated_iff_selects_visible ⟨1⟩ hempty.isolated _).mpr
    ⟨trivial, trivial, fun _ _ => ?_, trivial, trivial⟩
  intro i hi
  obtain rfl := List.mem_singleton.mp hi
  exact ⟨_, rfl, Or.inl rfl⟩

/-- The identifier of a private variable is enough to see it. -/
theorem private_variable_selected : ¬ ∀ (tenantId : TenantId) commands,
    Lib.AllStates Db.step (Isolated tenantId) Db.empty commands := by
  intro h
  have hlast := (h ⟨1⟩ (privateVariable :: sharedVariable :: selecting ⟨7⟩)).last
  obtain ⟨v, hv, hvisible, hinfo⟩ := hlast.infos ⟨"", 9⟩ _ rfl _ (List.mem_singleton_self _)
  have hcode : v.code = "canal_level" := (congrArg PredictorVariableInfo.code hinfo).symm
  revert v
  decide

end GeoRisk.Api
