import Mathlib
import GeoRisk.Analysis.Handlers

/-! The indicators of a tenant and a hazard, one dictionary for each assessment. The complete results are
    walked by assessment, stage and version, and each updates the dictionary of its assessment:

        (A, EXPOSURE, 1) (A, HAZARD, 1) (A, HAZARD, 2) (B, EXPOSURE, 1) …
           └──update──────▶└──update─────▶└─▶ A            └─▶ B

    So under every key is what the last result records that has the key, of whatever version. -/

namespace GeoRisk.Analysis

/-- `d.update(inputs)`. -/
def updateWith (d inputs : Inputs) : Inputs := inputs.foldl (fun d p => setItem d p.1 p.2) d

/-- `merged.setdefault(assessment_id, {}).update(inputs)`. -/
def mergeInto (merged : List (UUID × Inputs)) (r : StageResult) : List (UUID × Inputs) :=
  if r.assessmentId.id ∈ merged.map Prod.fst then
    merged.map fun p => if p.1 = r.assessmentId.id then (p.1, updateWith p.2 r.snapshot.inputs) else p
  else merged ++ [(r.assessmentId.id, updateWith [] r.snapshot.inputs)]

namespace StageResult

/-- `ORDER BY assessment_id, stage_type, version`. -/
def sortKey (r : StageResult) : UUID ×ₗ String ×ₗ ℕ :=
  toLex (r.assessmentId.id, toLex (r.stageType.value, r.version))

/-- What a result records under a code; of equal keys the last counts. -/
def recorded (r : StageResult) (code : String) : Option Json := r.snapshot.inputs.reverse.lookup code

end StageResult

namespace Db

/-- The complete results of a tenant and a hazard, in the order of the query. -/
def completeResults (db : Db) (tenantId : TenantId) (hazardType : HazardType) : List StageResult :=
  (db.stageResults.rows.filter fun r =>
    r.tenantId = tenantId ∧ r.hazardType = hazardType ∧ r.status = .complete).insertionSort
      fun r r' => r.sortKey ≤ r'.sortKey

/-- `list_all_indicators_by_assessment`, with the assessments of its dictionaries. -/
def mergedByAssessment (db : Db) (tenantId : TenantId) (hazardType : HazardType) :
    List (UUID × Inputs) :=
  (db.completeResults tenantId hazardType).foldl mergeInto []

def listAllIndicatorsByAssessment (db : Db) (tenantId : TenantId) (hazardType : HazardType)
    (limit : ℕ := 200) : List Inputs :=
  ((db.mergedByAssessment tenantId hazardType).map Prod.snd).take limit

end Db

/-! ### What is in the dictionaries -/

theorem lookup_updateWith (d inputs : Inputs) (code : String) :
    (updateWith d inputs).lookup code = (inputs.reverse.lookup code).or (d.lookup code) := by
  induction inputs using List.reverseRecOn with
  | nil => rfl
  | append_singleton inputs p ih =>
    rw [updateWith, List.foldl_append, List.foldl_cons, List.foldl_nil, lookup_setItem,
      List.reverse_concat, List.lookup_cons]
    by_cases hcode : code = p.1
    · simp [hcode]
    · rw [if_neg hcode, beq_eq_false_iff_ne.mpr hcode]
      exact ih

/-! ### Assessments -/

section Merge

variable {rows : List StageResult} {merged : List (UUID × Inputs)}

/-- What the last result of an assessment records under a code that records it. -/
def lastRecorded (rows : List StageResult) (assessment : UUID) (code : String) : Option Json :=
  (rows.filter (·.assessmentId.id = assessment)).reverse.findSome? (·.recorded code)

/-- The assessments of some results, in their order. -/
def assessmentsOf (rows : List StageResult) : List UUID :=
  (rows.map (·.assessmentId.id)).toFinset.sort (· ≤ ·)

theorem lookup_foldl_updateWith (rows : List StageResult) (d : Inputs) (code : String) :
    (rows.foldl (fun d r => updateWith d r.snapshot.inputs) d).lookup code =
      (rows.reverse.findSome? (·.recorded code)).or (d.lookup code) := by
  induction rows using List.reverseRecOn with
  | nil => rfl
  | append_singleton rows r ih =>
    rw [List.foldl_append, List.foldl_cons, List.foldl_nil, lookup_updateWith, ih,
      List.reverse_concat, List.findSome?_cons, StageResult.recorded]
    cases r.snapshot.inputs.reverse.lookup code with
    | none => rfl
    | some value => rfl

/-- The dictionaries after a run over some results: one for each assessment, with all its updates. -/
structure MergeOf (rows : List StageResult) (merged : List (UUID × Inputs)) : Prop where
  sublist : (merged.map Prod.fst).Sublist (rows.map (·.assessmentId.id))
  nodup : (merged.map Prod.fst).Nodup
  covers : ∀ r ∈ rows, r.assessmentId.id ∈ merged.map Prod.fst
  value : ∀ p ∈ merged, p.2 = (rows.filter (·.assessmentId.id = p.1)).foldl
    (fun d r => updateWith d r.snapshot.inputs) []

theorem mergeOf_step (h : MergeOf rows merged) (r : StageResult) :
    MergeOf (rows ++ [r]) (mergeInto merged r) := by
  have hsame : ∀ a, r.assessmentId.id ≠ a → (rows ++ [r]).filter (·.assessmentId.id = a) =
      rows.filter (·.assessmentId.id = a) := by
    intro a ha
    rw [List.filter_append, List.filter_singleton, decide_eq_false ha]
    exact List.append_nil _
  have hupdate : ((rows ++ [r]).filter (·.assessmentId.id = r.assessmentId.id)).foldl
      (fun d r => updateWith d r.snapshot.inputs) [] = updateWith
        ((rows.filter (·.assessmentId.id = r.assessmentId.id)).foldl
          (fun d r => updateWith d r.snapshot.inputs) []) r.snapshot.inputs := by
    rw [List.filter_append, List.filter_singleton, decide_eq_true rfl, List.foldl_append]
    rfl
  unfold mergeInto
  split
  · next hmem =>
    have hkeys : (merged.map fun p => if p.1 = r.assessmentId.id then
        (p.1, updateWith p.2 r.snapshot.inputs) else p).map Prod.fst = merged.map Prod.fst := by
      rw [List.map_map]
      refine List.map_congr_left fun p _ => ?_
      simp only [Function.comp_apply]
      split <;> rfl
    refine ⟨?_, hkeys ▸ h.nodup, fun r' hr' => ?_, fun p hp => ?_⟩
    · rw [hkeys, List.map_append]
      exact h.sublist.trans (List.sublist_append_left _ _)
    · rw [hkeys]
      rcases List.mem_append.mp hr' with hr' | hr'
      · exact h.covers r' hr'
      · exact List.mem_singleton.mp hr' ▸ hmem
    · obtain ⟨q, hq, rfl⟩ := List.mem_map.mp hp
      by_cases hqr : q.1 = r.assessmentId.id
      · rw [if_pos hqr]
        simp only [hqr]
        rw [hupdate, h.value q hq, hqr]
      · rw [if_neg hqr, hsame _ (Ne.symm hqr)]
        exact h.value q hq
  · next hmem =>
    have hnone : rows.filter (·.assessmentId.id = r.assessmentId.id) = [] := by
      refine List.filter_eq_nil_iff.mpr fun r' hr' heq => hmem ?_
      exact of_decide_eq_true heq ▸ h.covers r' hr'
    refine ⟨?_, ?_, fun r' hr' => ?_, fun p hp => ?_⟩
    · rw [List.map_append, List.map_append]
      exact h.sublist.append_right _
    · rw [List.map_append, List.nodup_append]
      refine ⟨h.nodup, List.nodup_singleton _, fun a ha b hb => ?_⟩
      rintro rfl
      exact hmem ((List.mem_singleton.mp hb : a = r.assessmentId.id) ▸ ha)
    · rw [List.map_append, List.mem_append]
      rcases List.mem_append.mp hr' with hr' | hr'
      · exact .inl (h.covers r' hr')
      · exact .inr (List.mem_singleton.mp hr' ▸ List.mem_singleton_self _)
    · rcases List.mem_append.mp hp with hp | hp
      · have hpr : r.assessmentId.id ≠ p.1 := fun heq => hmem (heq ▸ List.mem_map_of_mem hp)
        rw [hsame _ hpr]
        exact h.value p hp
      · rw [List.mem_singleton.mp hp, hupdate, hnone]
        rfl

theorem mergeOf_foldl (rows : List StageResult) : MergeOf rows (rows.foldl mergeInto []) := by
  induction rows using List.reverseRecOn with
  | nil => exact ⟨List.Sublist.refl _, List.nodup_nil, by simp, by simp⟩
  | append_singleton rows r ih =>
    rw [List.foldl_concat]
    exact mergeOf_step ih r

/-- The assessments of the dictionaries are those of the results, in order. -/
theorem MergeOf.keys_eq (h : MergeOf rows merged)
    (hsorted : rows.Pairwise fun r r' => r.assessmentId.id ≤ r'.assessmentId.id) :
    merged.map Prod.fst = assessmentsOf rows := by
  have hmem : ∀ a, a ∈ merged.map Prod.fst ↔ a ∈ rows.map (·.assessmentId.id) := by
    intro a
    refine ⟨fun ha => h.sublist.subset ha, fun ha => ?_⟩
    obtain ⟨r, hr, rfl⟩ := List.mem_map.mp ha
    exact h.covers r hr
  have hle : (merged.map Prod.fst).Pairwise (· ≤ ·) :=
    (List.pairwise_map.mpr hsorted).sublist h.sublist
  refine @List.Perm.eq_of_pairwise _ (· ≤ ·) _ _ (fun a b _ _ => le_antisymm) hle
    (Finset.pairwise_sort _ _) ?_
  refine (List.perm_ext_iff_of_nodup h.nodup (Finset.sort_nodup _ _)).mpr fun a => ?_
  rw [hmem, Finset.mem_sort, List.mem_toFinset]

theorem MergeOf.lookup (h : MergeOf rows merged) {p : UUID × Inputs} (hp : p ∈ merged)
    (code : String) : p.2.lookup code = lastRecorded rows p.1 code := by
  rw [h.value p hp, lookup_foldl_updateWith, List.lookup_nil, Option.or_none, lastRecorded]

end Merge

/-- The query returns the results by assessment. -/
theorem sorted_completeResults (db : Db) (tenantId : TenantId) (hazardType : HazardType) :
    (db.completeResults tenantId hazardType).Pairwise fun r r' =>
      r.assessmentId.id ≤ r'.assessmentId.id := by
  have hsorted : (db.completeResults tenantId hazardType).Pairwise fun r r' =>
      r.sortKey ≤ r'.sortKey := 
    List.pairwise_insertionSort (fun r r' : StageResult => r.sortKey ≤ r'.sortKey) _
  refine hsorted.imp fun {r r'} hle => ?_
  rcases Prod.Lex.le_iff.mp hle with hlt | ⟨heq, -⟩
  · exact hlt.le
  · exact heq.le

end GeoRisk.Analysis
