import Mathlib
import GeoRisk.Orchestration.Template

/-! What `WorkflowTemplate.create` accepts. A list of definitions says which stage requires which;
    the check reads it through a dictionary, so of a type defined twice only the last definition
    is looked at. On lists that define each type once that is the whole list.

        definitions ──last of each type──▶ dictionary ──Kahn──▶ acyclic? -/

namespace GeoRisk.Orchestration

/-- `p` is a required predecessor of `s` in some definition of the list. -/
def RequiredIn (defs : List StageDefinition) (p s : StageType) : Prop :=
  ∃ sd ∈ defs, sd.stageType = s ∧ p ∈ sd.requiredPredecessors

/-- The definition of a stage type that a later one does not replace. -/
def lastDefinition (defs : List StageDefinition) (st : StageType) : Option StageDefinition :=
  defs.reverse.find? (·.stageType = st)

/-- `p` is a required predecessor of `s` in the last definition of `s`. -/
def RequiredLast (defs : List StageDefinition) (p s : StageType) : Prop :=
  ∃ sd, lastDefinition defs s = some sd ∧ p ∈ sd.requiredPredecessors

/-- Every required predecessor is one of the defined stage types. -/
def PredecessorsKnown (defs : List StageDefinition) : Prop :=
  ∀ sd ∈ defs, ∀ p ∈ sd.requiredPredecessors, ∃ sd' ∈ defs, sd'.stageType = p

/-- A template worth having: a name, and a graph of stages, each defined once and none of which
    waits for itself. -/
structure Sound (name : String) (defs : List StageDefinition) : Prop where
  named : isBlank name = false
  nonempty : defs ≠ []
  distinct : (defs.map (·.stageType)).Nodup
  known : PredecessorsKnown defs
  acyclic : Lib.Acyclic (RequiredIn defs)

section LastDefinition

variable {defs : List StageDefinition} {sd : StageDefinition} {st : StageType}

theorem lastDefinition_concat : lastDefinition (defs ++ [sd]) st =
    if sd.stageType = st then some sd else lastDefinition defs st := by
  rw [lastDefinition, List.reverse_concat, List.find?_cons]
  by_cases h : sd.stageType = st <;> simp [h, lastDefinition]

theorem lastDefinition_some (h : lastDefinition defs st = some sd) :
    sd ∈ defs ∧ sd.stageType = st :=
  ⟨List.mem_reverse.mp (List.mem_of_find?_eq_some h), by simpa using List.find?_some h⟩

theorem isSome_lastDefinition : (lastDefinition defs st).isSome ↔ ∃ sd ∈ defs, sd.stageType = st := by
  simp [lastDefinition]

/-- Defined once, a stage type's definition is its last. -/
theorem lastDefinition_of_mem (hd : (defs.map (·.stageType)).Nodup) (h : sd ∈ defs) :
    lastDefinition defs sd.stageType = some sd := by
  obtain ⟨sd', hsd'⟩ := Option.isSome_iff_exists.mp (isSome_lastDefinition.mpr ⟨sd, h, rfl⟩)
  obtain ⟨hm, hst⟩ := lastDefinition_some hsd'
  rw [hsd', List.inj_on_of_nodup_map hd hm h hst]

theorem requiredLast_eq_requiredIn (hd : (defs.map (·.stageType)).Nodup) :
    RequiredLast defs = RequiredIn defs := by
  funext p s
  refine propext ⟨?_, ?_⟩
  · rintro ⟨sd, h, hp⟩
    obtain ⟨hm, hst⟩ := lastDefinition_some h
    exact ⟨sd, hm, hst, hp⟩
  · rintro ⟨sd, hm, rfl, hp⟩
    exact ⟨sd, lastDefinition_of_mem hd hm, hp⟩

end LastDefinition

/-! ### The dictionary -/

namespace WorkflowTemplate

variable {T : WorkflowTemplate}

/-- The dictionary holds the last definition of each type. -/
theorem predecessors_get (T : WorkflowTemplate) (st : StageType) : T.predecessors.get st =
    (lastDefinition T.stageDefinitions st).map fun sd =>
      (sd.stageType, sd.requiredPredecessors) := by
  rw [predecessors]
  induction T.stageDefinitions using List.reverseRecOn with
  | nil => rfl
  | append_singleton defs sd ih =>
    rw [List.foldl_concat, lastDefinition_concat, Lib.Table.get_put]
    by_cases h : sd.stageType = st
    · rw [if_pos h.symm, if_pos h]; rfl
    · rw [if_neg (Ne.symm h), if_neg h, ih]

theorem mem_predecessors_rows {st : StageType} {preds : Finset StageType} :
    (st, preds) ∈ T.predecessors.rows ↔
      ∃ sd, lastDefinition T.stageDefinitions st = some sd ∧ sd.requiredPredecessors = preds := by
  have hget : (st, preds) ∈ T.predecessors.rows ↔ T.predecessors.get st = some (st, preds) :=
    ⟨fun h => @Lib.Table.get_of_mem _ _ _ Prod.fst _ _ h, Lib.Table.mem_of_get⟩
  rw [hget, predecessors_get, Option.map_eq_some_iff]
  refine exists_congr fun sd => and_congr_right fun h => ?_
  rw [(lastDefinition_some h).2]
  simp

theorem requires_predecessors :
    Lib.Requires T.predecessors.rows = RequiredLast T.stageDefinitions := by
  funext p s
  simp only [Lib.Requires, mem_predecessors_rows, RequiredLast, eq_iff_iff]
  constructor
  · rintro ⟨preds, ⟨sd, h, rfl⟩, hp⟩; exact ⟨sd, h, hp⟩
  · rintro ⟨sd, h, hp⟩; exact ⟨_, ⟨sd, h, rfl⟩, hp⟩

theorem subset_required_iff {sts : Finset StageType} : sts ⊆ T.requiredStageTypes ↔
    ∀ p ∈ sts, ∃ sd ∈ T.stageDefinitions, sd.stageType = p :=
  forall_congr' fun p => by rw [mem_requiredStageTypes]

/-- Kahn's loop leaves nothing over iff the last definitions have no cycle. -/
theorem resolved_iff (hknown : PredecessorsKnown T.stageDefinitions) :
    (Lib.resolveAll T.predecessors.rows.length T.predecessors.rows []).1 = [] ↔
      Lib.Acyclic (RequiredLast T.stageDefinitions) := by
  rw [← requires_predecessors]
  refine @Lib.resolveAll_eq_nil_iff _ _
    (fun st => ((T.predecessors.get st).map Prod.snd).getD ∅) _ ?_ ?_
  · intro q hq
    rw [Lib.Table.get_of_mem hq]; rfl
  · rintro ⟨st, preds⟩ hq p hp
    obtain ⟨sd, hsd, rfl⟩ := mem_predecessors_rows.mp hq
    obtain ⟨sd', hsd', hst⟩ := hknown sd (lastDefinition_some hsd).1 p hp
    obtain ⟨sl, hsl⟩ := Option.isSome_iff_exists.mp (isSome_lastDefinition.mpr ⟨sd', hsd', hst⟩)
    exact List.mem_map.mpr ⟨(p, sl.requiredPredecessors), mem_predecessors_rows.mpr ⟨sl, hsl, rfl⟩,
      rfl⟩

theorem validateDag_ok_iff : T.validateDag = .ok () ↔ PredecessorsKnown T.stageDefinitions ∧
    Lib.Acyclic (RequiredLast T.stageDefinitions) := by
  constructor
  · intro h
    obtain ⟨hsub, hleft⟩ := validateDag_ok h
    have hknown : PredecessorsKnown T.stageDefinitions :=
      fun sd hsd => subset_required_iff.mp (hsub sd hsd)
    exact ⟨hknown, (resolved_iff hknown).mp hleft⟩
  · rintro ⟨hknown, hacyclic⟩
    have hnone : T.stageDefinitions.find?
        (fun sd => ¬ sd.requiredPredecessors ⊆ T.requiredStageTypes) = none := by
      rw [List.find?_eq_none]
      intro sd hsd
      simpa using subset_required_iff.mpr (hknown sd hsd)
    rw [validateDag, hnone]
    exact if_pos ((resolved_iff hknown).mpr hacyclic)

/-! ### Acceptance -/

variable {id : WorkflowTemplateId} {hazardType : HazardType} {name : String}
  {defs : List StageDefinition} {version : ℕ} {now : Timestamp}

/-- `create` returns a template. -/
def Succeeds (id : WorkflowTemplateId) (hazardType : HazardType) (name : String)
    (defs : List StageDefinition) (version : ℕ) (now : Timestamp) : Prop :=
  ∃ T ev, create id hazardType name defs version now = .ok (T, ev)

/-- What `create` checks: of a type defined again, the last definition alone. -/
theorem succeeds_iff : Succeeds id hazardType name defs version now ↔
    isBlank name = false ∧ defs ≠ [] ∧ PredecessorsKnown defs ∧
      Lib.Acyclic (RequiredLast defs) := by
  constructor
  · rintro ⟨T, ev, h⟩
    obtain ⟨rfl, hname, hne, hdag⟩ := create_ok h
    exact ⟨hname, hne, validateDag_ok_iff.mp hdag⟩
  · rintro ⟨hname, hne, hdag⟩
    have hok := (validateDag_ok_iff (T := {
      id, hazardType, name, version, status := .draft, stageDefinitions := defs
      createdAt := now })).mpr hdag
    rw [Succeeds, create, if_neg (by simp [hname]), if_neg hne]
    simp only [hok]
    exact ⟨_, _, rfl⟩

/-- On lists that define each stage once `create` accepts the sound templates. -/
theorem succeeds_iff_sound_of_distinct (hd : (defs.map (·.stageType)).Nodup) :
    Succeeds id hazardType name defs version now ↔ Sound name defs := by
  rw [succeeds_iff, requiredLast_eq_requiredIn hd]
  exact ⟨fun ⟨hname, hne, hk, ha⟩ => ⟨hname, hne, hd, hk, ha⟩,
    fun h => ⟨h.named, h.nonempty, h.known, h.acyclic⟩⟩

/-- The check takes the right templates unless a stage type is repeated and nothing else gives the
    list away. -/
theorem acceptance_exact_iff :
    (Succeeds id hazardType name defs version now ↔ Sound name defs) ↔
      (defs.map (·.stageType)).Nodup ∨ isBlank name = true ∨ defs = [] ∨
        ¬ PredecessorsKnown defs ∨ ¬ Lib.Acyclic (RequiredLast defs) := by
  by_cases hd : (defs.map (·.stageType)).Nodup
  · exact iff_of_true (succeeds_iff_sound_of_distinct hd) (.inl hd)
  · have hns : ¬ Sound name defs := fun h => hd h.distinct
    rw [iff_false_right hns, succeeds_iff, not_and_or, not_and_or, not_and_or]
    simp [hd]

/-- A cycle that a later definition of one of its stages hides. -/
theorem hidden_cycle_accepted : ¬ (Succeeds ⟨1⟩ .flood "Cyclic"
      [{ stageType := .hazard, requiredPredecessors := {.exposure} },
       { stageType := .exposure, requiredPredecessors := {.hazard} },
       { stageType := .hazard }] 1 0 ↔
    Sound "Cyclic"
      [{ stageType := .hazard, requiredPredecessors := {.exposure} },
       { stageType := .exposure, requiredPredecessors := {.hazard} },
       { stageType := .hazard }]) := by
  rintro ⟨h, -⟩
  exact absurd (h ⟨_, _, rfl⟩).distinct (by decide)

end WorkflowTemplate

end GeoRisk.Orchestration
