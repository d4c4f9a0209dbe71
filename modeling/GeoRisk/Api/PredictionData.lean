import Mathlib
import GeoRisk.Lib.Results
import GeoRisk.Analysis.MergedIndicators

/-! The observations of a prediction, read from the stage results of a hazard. The dictionaries of the
    assessments are cut to the number that is asked for, and only then those with every code are kept:

        A  B  C  D  E  …        sample_count = 3
        └──┴──┘  cut ──────▶ A  B  C ──complete──▶ A  C      D and E are not looked at

    What is read under a code is what the last result has recorded, of whatever version. -/

namespace GeoRisk.Api

open Analysis

/-- `isinstance(value, int | float)`. -/
def isNumber : Json → Bool
  | .bool _ | .int _ | .float _ => true
  | _ => false

/-- Every code is in a dictionary, with a number. -/
def isComplete (codes : List String) (row : Inputs) : Bool :=
  codes.all fun code => (row.lookup code).any isNumber

/-- `{code: row[code] for code in codes}`. -/
def selectCodes (codes : List String) (row : Inputs) : Inputs :=
  codes.foldl (fun d code => (row.lookup code).elim d (setItem d code)) []

/-- `AnalysisHazardType(value)`. -/
def readHazardType (value : String) : Except String HazardType :=
  match [HazardType.flood, .wildfire, .drought, .landslide].find? (·.value = value) with
  | some hazardType => .ok hazardType
  | none => .error s!"{pyRepr value} is not a valid HazardType"

/-- `CompositionRootPredictionDataProvider.generate_observations`. -/
def generateObservations (db : Db) (tenantId : TenantId) (hazardType : Option String)
    (codes : List String) (sampleCount : ℕ) : Except String (List Inputs) :=
  match hazardType with
  | none => .error ("Cannot resolve real Analysis outputs for a VariableSelection with no " ++
      "hazard_type — real observations are read from one specific hazard " ++
      "strategy's completed StageResults.")
  | some value => do
    let hazardType ← readHazardType value
    let rows := db.listAllIndicatorsByAssessment tenantId hazardType sampleCount
    return ((rows.filter (isComplete codes)).map (selectCodes codes)).take sampleCount

/-! ### Which assessments are usable -/

section Usable

variable (rows : List StageResult) (codes : List String) (sampleCount : ℕ)

/-- No result of the stage of a result is of a later version. -/
def IsLatest (r : StageResult) : Prop :=
  ∀ r' ∈ rows, r'.assessmentId.id = r.assessmentId.id → r'.stageType = r.stageType →
    r'.version ≤ r.version

/-- A value that the latest version of some stage of an assessment records under a code. -/
def FromLatest (assessment : UUID) (code : String) (value : Json) : Prop :=
  ∃ r ∈ rows, r.assessmentId.id = assessment ∧ IsLatest rows r ∧ r.recorded code = some value

/-- Every code has a number in the latest version of some stage. -/
def Usable (assessment : UUID) : Prop :=
  ∀ code ∈ codes, ∃ value, FromLatest rows assessment code value ∧ isNumber value = true

/-- Every code has a number in the last result of the assessment that records it. -/
def LastComplete (assessment : UUID) : Prop :=
  ∀ code ∈ codes, ∃ value, lastRecorded rows assessment code = some value ∧ isNumber value = true

/-- What the last results record under the codes is what the latest version of some stage records. -/
def LastIsLatest (assessment : UUID) : Prop :=
  ∀ code ∈ codes, ∀ value, lastRecorded rows assessment code = some value →
    FromLatest rows assessment code value

open Classical in
/-- The number of usable assessments. -/
noncomputable def usableCount : ℕ := ((assessmentsOf rows).filter fun a => Usable rows codes a).length

/-- The dictionaries that are kept, with their assessments. -/
def observed (merged : List (UUID × Inputs)) : List (UUID × Inputs) :=
  (merged.take sampleCount).filter fun p => isComplete codes p.2

/-- No usable observation is dropped, and all that is returned comes from latest versions. -/
structure NoneDropped (merged : List (UUID × Inputs)) : Prop where
  count : (observed codes sampleCount merged).length = min sampleCount (usableCount rows codes)
  distinct : ((observed codes sampleCount merged).map Prod.fst).Nodup
  latest : ∀ p ∈ observed codes sampleCount merged, ∀ code ∈ codes, ∃ value,
    (selectCodes codes p.2).lookup code = some value ∧ FromLatest rows p.1 code value

end Usable

/-! ### What is kept -/

section Kept

variable {rows : List StageResult} {codes : List String} {sampleCount : ℕ}
  {merged : List (UUID × Inputs)}

theorem lookup_selectCodes {row : Inputs} {code : String} (h : code ∈ codes) :
    (selectCodes codes row).lookup code = row.lookup code := by
  have hfold : ∀ (codes : List String) (d : Inputs),
      (codes.foldl (fun d code => (row.lookup code).elim d (setItem d code)) d).lookup code =
        if code ∈ codes then (row.lookup code).or (d.lookup code) else d.lookup code := by
    intro codes
    induction codes with
    | nil => simp
    | cons c codes ih =>
      intro d
      rw [List.foldl_cons, ih]
      by_cases hc : code = c
      · subst hc
        cases hrow : row.lookup code with
        | none => simp
        | some value => simp [lookup_setItem]
      · have hstep : ((row.lookup c).elim d (setItem d c)).lookup code = d.lookup code := by
          cases row.lookup c with
          | none => rfl
          | some value => rw [Option.elim_some, lookup_setItem, if_neg hc]
        simp [hstep, hc]
  rw [selectCodes, hfold, if_pos h, List.lookup_nil, Option.or_none]

theorem isComplete_iff (h : MergeOf rows merged) {p : UUID × Inputs} (hp : p ∈ merged) :
    isComplete codes p.2 = true ↔ LastComplete rows codes p.1 := by
  rw [isComplete, List.all_eq_true]
  refine forall₂_congr fun code _ => ?_
  rw [h.lookup hp]
  cases lastRecorded rows p.1 code with
  | none => simp
  | some value => simp

theorem map_fst_observed (h : MergeOf rows merged)
    (hsorted : rows.Pairwise fun r r' => r.assessmentId.id ≤ r'.assessmentId.id) [DecidablePred
      (LastComplete rows codes)] :
    (observed codes sampleCount merged).map Prod.fst =
      ((assessmentsOf rows).take sampleCount).filter fun a => LastComplete rows codes a := by
  rw [← h.keys_eq hsorted, ← List.map_take, List.filter_map, observed]
  congr 1
  refine List.filter_congr fun p hp => ?_
  rw [Function.comp_apply, Bool.eq_iff_iff, decide_eq_true_iff]
  exact isComplete_iff h (List.mem_of_mem_take hp)

/-- Of a list cut to a number, all that have a property are all there are, or fill the number, iff no one
    with the property is behind the cut, or the cut is full of them. -/
theorem length_filter_take {ι : Type} [DecidableEq ι] {items : List ι} (hnodup : items.Nodup)
    {n : ℕ} {p q : ι → Prop} [DecidablePred p] [DecidablePred q]
    (hpq : ∀ i ∈ items.take n, p i → q i) :
    ((items.take n).filter fun i => p i).length = min n (items.filter fun i => q i).length ↔
      (∀ i ∈ items, q i → i ∈ items.take n ∧ p i) ∨
        n ≤ items.length ∧ ∀ i ∈ items.take n, p i := by
  have hsub : ((items.take n).filter fun i => p i) ⊆ items.filter fun i => q i := by
    intro i hi
    obtain ⟨hi, hp⟩ := List.mem_filter.mp hi
    exact List.mem_filter.mpr ⟨List.mem_of_mem_take hi,
      decide_eq_true (hpq i hi (of_decide_eq_true hp))⟩
  have hkept : ((items.take n).filter fun i => p i).Nodup :=
    (hnodup.sublist (List.take_sublist n items)).filter _
  have hle := (List.Nodup.subperm hkept hsub).length_le
  have hcut := List.length_filter_le (fun i => decide (p i)) (items.take n)
  rw [List.length_take] at hcut
  constructor
  · intro h
    rcases Nat.le_total n (items.filter fun i => q i).length with hfull | hall
    · rw [min_eq_left hfull] at h
      refine .inr ⟨by omega, fun i hi => ?_⟩
      have hlength : ((items.take n).filter fun i => p i).length = (items.take n).length := by
        rw [List.length_take]
        omega
      exact of_decide_eq_true (List.length_filter_eq_length_iff.mp hlength i hi)
    · rw [min_eq_right hall] at h
      refine .inl fun i hi hq => ?_
      have hperm := (List.Nodup.subperm hkept hsub).perm_of_length_le h.ge
      have hmem := hperm.mem_iff.mpr (List.mem_filter.mpr ⟨hi, decide_eq_true hq⟩)
      obtain ⟨htake, hp⟩ := List.mem_filter.mp hmem
      exact ⟨htake, of_decide_eq_true hp⟩
  · rintro (hall | ⟨hlen, hfull⟩)
    · have hsub' : (items.filter fun i => q i) ⊆ (items.take n).filter fun i => p i := by
        intro i hi
        obtain ⟨hi, hq⟩ := List.mem_filter.mp hi
        obtain ⟨htake, hp⟩ := hall i hi (of_decide_eq_true hq)
        exact List.mem_filter.mpr ⟨htake, decide_eq_true hp⟩
      have hge := (List.Nodup.subperm (hnodup.filter _) hsub').length_le
      omega
    · have hlength : ((items.take n).filter fun i => p i).length = n := by
        rw [List.filter_eq_self.mpr fun i hi => decide_eq_true (hfull i hi), List.length_take]
        omega
      omega

theorem readHazardType_value (hazardType : HazardType) :
    readHazardType hazardType.value = .ok hazardType := by
  cases hazardType <;> rfl

/-- The rows that are returned are those of the kept dictionaries. -/
theorem generateObservations_eq (db : Db) (tenantId : TenantId) (hazardType : HazardType)
    (codes : List String) (sampleCount : ℕ) :
    generateObservations db tenantId (some hazardType.value) codes sampleCount =
      .ok ((observed codes sampleCount (db.mergedByAssessment tenantId hazardType)).map fun p =>
        selectCodes codes p.2) := by
  refine Lib.bind_ok.mpr ⟨hazardType, readHazardType_value hazardType, ?_⟩
  have hlength : (((db.listAllIndicatorsByAssessment tenantId hazardType sampleCount).filter
      (isComplete codes)).map (selectCodes codes)).length ≤ sampleCount := by
    rw [List.length_map]
    refine (List.length_filter_le _ _).trans ?_
    rw [Db.listAllIndicatorsByAssessment, List.length_take]
    exact min_le_left _ _
  change Except.ok (List.take _ _) = _
  rw [List.take_of_length_le hlength, Db.listAllIndicatorsByAssessment, ← List.map_take,
    List.filter_map, List.map_map]
  rfl

open Classical in
/-- Everything usable is returned, and nothing superseded, iff in every assessment that is looked at the
    last recorded values are those of latest versions, and either no usable assessment is cut off or
    incomplete, or the cut is full of complete ones. -/
theorem generateObservations_noneDropped (db : Db) (tenantId : TenantId) (hazardType : HazardType)
    (codes : List String) (sampleCount : ℕ) :
    generateObservations db tenantId (some hazardType.value) codes sampleCount =
      .ok ((observed codes sampleCount (db.mergedByAssessment tenantId hazardType)).map fun p =>
        selectCodes codes p.2) ∧
    (NoneDropped (db.completeResults tenantId hazardType) codes sampleCount
        (db.mergedByAssessment tenantId hazardType) ↔
      (∀ a ∈ (assessmentsOf (db.completeResults tenantId hazardType)).take sampleCount,
        LastComplete (db.completeResults tenantId hazardType) codes a →
          LastIsLatest (db.completeResults tenantId hazardType) codes a) ∧
      ((∀ a ∈ assessmentsOf (db.completeResults tenantId hazardType),
        Usable (db.completeResults tenantId hazardType) codes a →
          a ∈ (assessmentsOf (db.completeResults tenantId hazardType)).take sampleCount ∧
          LastComplete (db.completeResults tenantId hazardType) codes a) ∨
        sampleCount ≤ (assessmentsOf (db.completeResults tenantId hazardType)).length ∧
        ∀ a ∈ (assessmentsOf (db.completeResults tenantId hazardType)).take sampleCount,
          LastComplete (db.completeResults tenantId hazardType) codes a)) := by
  refine ⟨generateObservations_eq db tenantId hazardType codes sampleCount, ?_⟩
  have hmerge : MergeOf (db.completeResults tenantId hazardType)
      (db.mergedByAssessment tenantId hazardType) := mergeOf_foldl _
  have hsorted := sorted_completeResults db tenantId hazardType
  generalize db.completeResults tenantId hazardType = rows at hmerge hsorted ⊢
  generalize db.mergedByAssessment tenantId hazardType = merged at hmerge ⊢
  have hnodup : (assessmentsOf rows).Nodup := Finset.sort_nodup _ _
  have hfst := @map_fst_observed rows codes sampleCount merged hmerge hsorted _
  have hcount : (observed codes sampleCount merged).length =
      (((assessmentsOf rows).take sampleCount).filter fun a => LastComplete rows codes a).length := by
    rw [← hfst, List.length_map]
  have hmem : ∀ p ∈ observed codes sampleCount merged, p ∈ merged := fun p hp =>
    List.mem_of_mem_take (List.mem_of_mem_filter hp)
  -- complete and of latest versions is usable
  have husable : (∀ a ∈ (assessmentsOf rows).take sampleCount, LastComplete rows codes a →
      LastIsLatest rows codes a) → ∀ a ∈ (assessmentsOf rows).take sampleCount,
        LastComplete rows codes a → Usable rows codes a := by
    intro h a ha hcomplete code hcode
    obtain ⟨value, hvalue, hnumber⟩ := hcomplete code hcode
    exact ⟨value, h a ha hcomplete code hcode value hvalue, hnumber⟩
  constructor
  · rintro ⟨hlen, -, hlatest⟩
    have hfresh : ∀ a ∈ (assessmentsOf rows).take sampleCount, LastComplete rows codes a →
        LastIsLatest rows codes a := by
      intro a ha hcomplete code hcode value hvalue
      have hobserved : a ∈ (observed codes sampleCount merged).map Prod.fst :=
        hfst ▸ List.mem_filter.mpr ⟨ha, decide_eq_true hcomplete⟩
      obtain ⟨p, hp, rfl⟩ := List.mem_map.mp hobserved
      obtain ⟨found, hfound, hfrom⟩ := hlatest p hp code hcode
      rw [lookup_selectCodes hcode, hmerge.lookup (hmem p hp), hvalue] at hfound
      exact Option.some.inj hfound ▸ hfrom
    refine ⟨hfresh, ?_⟩
    rw [hcount] at hlen
    exact (length_filter_take hnodup (husable hfresh)).mp hlen
  · rintro ⟨hfresh, hwhole⟩
    refine ⟨?_, ?_, fun p hp code hcode => ?_⟩
    · rw [hcount]
      exact (length_filter_take hnodup (husable hfresh)).mpr hwhole
    · rw [hfst]
      exact (hnodup.sublist (List.take_sublist _ _)).filter _
    · obtain ⟨htake, hcomplete⟩ := List.mem_filter.mp (hfst ▸ List.mem_map_of_mem hp :
        p.1 ∈ ((assessmentsOf rows).take sampleCount).filter fun a => LastComplete rows codes a)
      have hcomplete := of_decide_eq_true hcomplete
      obtain ⟨value, hvalue, -⟩ := hcomplete code hcode
      refine ⟨value, ?_, hfresh p.1 htake hcomplete code hcode value hvalue⟩
      rw [lookup_selectCodes hcode, hmerge.lookup (hmem p hp), hvalue]

end Kept

/-! ### A value that is left over -/

/-- A hazard result of one assessment, with these raw inputs. -/
def hazardResult (id version : ℕ) (inputs : Inputs) : StageResult where
  id := ⟨id⟩
  tenantId := ⟨1⟩
  assessmentId := ⟨UUID.str 7, 7⟩
  hazardType := .flood
  stageType := .hazard
  version := version
  status := .complete
  indicators := some ⟨[]⟩
  confidenceTier := some .low
  snapshot := { inputs }
  error := none
  issuedBy := "analyst"
  createdAt := version
  strategyVersion := none
  formulaVersion := none

/-- The first upload has a moisture of 1, the second has none. -/
def leftOver : Db where
  stageResults := ⟨[hazardResult 1 1 [("moisture", .int 1)], hazardResult 2 2 []], by decide⟩
  riskLayers := .empty
  outbox := []

/-- The moisture of the first version is returned, though the second has superseded it. -/
theorem leftOver_not_noneDropped :
    ¬ NoneDropped (leftOver.completeResults ⟨1⟩ .flood) ["moisture"] 1
      (leftOver.mergedByAssessment ⟨1⟩ .flood) := by
  intro h
  have hmerged : leftOver.mergedByAssessment ⟨1⟩ .flood = [(7, [("moisture", .int 1)])] := rfl
  have hmem : (7, [("moisture", Json.int 1)]) ∈ observed ["moisture"] 1
      (leftOver.mergedByAssessment ⟨1⟩ .flood) := by
    rw [hmerged]
    exact List.mem_singleton_self _
  obtain ⟨value, -, r, hr, -, hlatest, hrecorded⟩ := h.latest _ hmem "moisture" (by simp)
  have hrows : leftOver.completeResults ⟨1⟩ .flood =
      [hazardResult 1 1 [("moisture", .int 1)], hazardResult 2 2 []] := rfl
  rw [hrows] at hr hlatest
  rcases List.mem_pair.mp hr with rfl | rfl
  · exact absurd (hlatest (hazardResult 2 2 []) (by simp) rfl rfl) (by decide)
  · cases hrecorded

end GeoRisk.Api
