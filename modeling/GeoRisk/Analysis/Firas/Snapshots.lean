import GeoRisk.Analysis.Computation
import GeoRisk.Analysis.Firas.Observation

/-! What a complete result of the flood strategy keeps. The snapshot is the inputs of the stage and what
    was computed from them, in one dictionary; what was computed goes in last:

        inputs      key  ↦ raw value ─┐
                                      ├─▶ snapshot
        indicators  code ↦ value     ─┘

    The keys that later runs read of a row are no codes of its stage, so they are there as they were
    given. -/

namespace GeoRisk.Analysis

/-! ### Snapshots -/

section Snapshots

variable {d : List (String × Json)} {values : List (String × PyFloat)} {code : String}

theorem lookup_update (inputs : Inputs) (h : (values.map Prod.fst).Nodup) :
    (inputs.update values).lookup code =
      ((values.lookup code).map .float).or (inputs.lookup code) := by
  unfold Inputs.update
  induction values generalizing inputs with
  | nil => rfl
  | cons p values ih =>
    rw [List.map_cons, List.nodup_cons] at h
    rw [List.foldl_cons, ih _ h.2, lookup_setItem]
    by_cases hcode : code = p.1
    · have hnone : values.lookup code = none := by
        refine List.lookup_eq_none_iff.mpr fun q hq => bne_iff_ne.mpr ?_
        rintro rfl
        exact h.1 (hcode ▸ List.mem_map_of_mem hq)
      rw [hnone, if_pos hcode, lookup_cons_eq hcode]
      rfl
    · rw [if_neg hcode, lookup_cons_ne hcode]

variable {self : IndicatorSet}

theorem asDict_keys (code : String) :
    code ∈ self.asDict.map Prod.fst ↔ code ∈ self.indicators.map (·.code) := by
  suffices h : ∀ d : List (String × PyFloat), code ∈ (self.indicators.foldl
      (fun d i => setItem d i.code i.value) d).map Prod.fst ↔
        code ∈ d.map Prod.fst ∨ code ∈ self.indicators.map (·.code) by
    rw [IndicatorSet.asDict, h, List.map_nil]
    simp
  induction self.indicators with
  | nil => simp
  | cons i indicators ih =>
    intro d
    rw [List.foldl_cons, ih, mem_setItem_keys, List.map_cons, List.mem_cons, or_assoc]

theorem asDict_keys_nodup : (self.asDict.map Prod.fst).Nodup := by
  suffices h : ∀ d : List (String × PyFloat), (d.map Prod.fst).Nodup → ((self.indicators.foldl
      (fun d i => setItem d i.code i.value) d).map Prod.fst).Nodup from h [] List.nodup_nil
  induction self.indicators with
  | nil => exact fun d hd => hd
  | cons i indicators ih => exact fun d hd => ih _ (setItem_keys_nodup hd)

/-- Of indicators with different codes the dictionary has the values. -/
theorem lookup_asDict (h : (self.indicators.map (·.code)).Nodup) (code : String) :
    self.asDict.lookup code = self.value code := by
  obtain ⟨indicators⟩ := self
  suffices hall : ∀ d : List (String × PyFloat), (indicators.foldl
      (fun d i => setItem d i.code i.value) d).lookup code =
        ((indicators.find? (·.code = code)).map (·.value)).or (d.lookup code) by
    rw [IndicatorSet.asDict, hall, List.lookup_nil, Option.or_none]
    rfl
  dsimp only at h
  induction indicators with
  | nil => exact fun d => rfl
  | cons i indicators ih =>
    intro d
    rw [List.map_cons, List.nodup_cons] at h
    rw [List.foldl_cons, ih h.2, lookup_setItem, List.find?_cons]
    by_cases hcode : i.code = code
    · have hnone : indicators.find? (·.code = code) = none := by
        refine List.find?_eq_none.mpr fun j hj hjcode => h.1 ?_
        rw [hcode, ← of_decide_eq_true hjcode]
        exact List.mem_map_of_mem hj
      rw [hnone, if_pos hcode.symm, decide_eq_true hcode]
      rfl
    · rw [if_neg (Ne.symm hcode), decide_eq_false hcode]

/-- A snapshot has the indicators under their codes, and the inputs under all other keys. -/
theorem lookup_snapshot (inputs : Inputs) (code : String) :
    (inputs.update self.asDict).lookup code =
      ((self.asDict.lookup code).map .float).or (inputs.lookup code) :=
  lookup_update inputs asDict_keys_nodup

theorem lookup_snapshot_of_ne {inputs : Inputs} (h : code ∉ self.indicators.map (·.code)) :
    (inputs.update self.asDict).lookup code = inputs.lookup code := by
  have hnone : self.asDict.lookup code = none := by
    refine List.lookup_eq_none_iff.mpr fun p hp => bne_iff_ne.mpr ?_
    rintro rfl
    exact h ((asDict_keys _).mp (List.mem_map_of_mem hp))
  rw [lookup_snapshot, hnone]
  rfl

/-- Every code has a value. -/
theorem exists_value (h : code ∈ self.indicators.map (·.code)) : ∃ x, self.value code = some x := by
  obtain ⟨i, hi, rfl⟩ := List.mem_map.mp h
  have hsome : (self.indicators.find? (·.code = i.code)).isSome :=
    List.find?_isSome.mpr ⟨i, hi, decide_eq_true rfl⟩
  obtain ⟨j, hj⟩ := Option.isSome_iff_exists.mp hsome
  exact ⟨j.value, by rw [IndicatorSet.value, IndicatorSet.get, hj]; rfl⟩

end Snapshots

namespace Firas

/-! ### What the stages put out -/

section Codes

/-- The codes of the vulnerability stage. -/
def VULNERABILITY_CODES : List String :=
  ["flood_vulnerability_index"] ++
    Vulnerability.VULNERABILITY_INDICATORS.map (fun p => "fvi_weight_" ++ p.1) ++
    Vulnerability.SUB_INDEX_KEYS.map Prod.fst ++ ["flood_insecurity_index"]

theorem codes_nodup : VULNERABILITY_CODES.Nodup := by decide +kernel

/-- The keys that are read of a row, but for the index. -/
def READ_KEYS : List String :=
  Vulnerability.VULNERABILITY_INDICATORS.map Prod.fst ++ Vulnerability.INSECURITY_INDICATORS

theorem readKeys_not_codes : ∀ key ∈ INPUT_KEY :: READ_KEYS, key ∉ VULNERABILITY_CODES := by
  decide +kernel

theorem resilienceKeys_not_codes : ∀ k ∈ Resilience.SUB_INDEX_KEYS, ∀ k' ∈ Resilience.SUB_INDEX_KEYS,
    k.1 ≠ k'.2 ∧ k.1 ≠ "community_resilience_index" := by decide +kernel

/-- An upload with all indicators one half. -/
def halves : Inputs := READ_KEYS.map fun key => (key, .float (.finite (1 / 2)))

variable {α : Type} {fvi fii : α} {weights : List α} {scores : List (String × α)}

theorem indicatorsOf_codes
    (hweights : weights.length = Vulnerability.VULNERABILITY_INDICATORS.length)
    (hscores : scores.map Prod.fst = Vulnerability.SUB_INDEX_KEYS.map Prod.fst) :
    (indicatorsOf fvi weights scores fii).map (·.code) = VULNERABILITY_CODES := by
  have hzip : (List.zipWith (fun p w =>
      ({ code := "fvi_weight_" ++ p.1, value := w, subIndex := some "weights" } :
        Strategies.Indicator α)) Vulnerability.VULNERABILITY_INDICATORS weights).map (·.code) =
      Vulnerability.VULNERABILITY_INDICATORS.map fun p => "fvi_weight_" ++ p.1 := by
    rw [List.map_zipWith]
    clear hscores
    generalize Vulnerability.VULNERABILITY_INDICATORS = keys at hweights
    induction keys generalizing weights with
    | nil => rfl
    | cons p keys ih =>
      cases weights with
      | nil => cases hweights
      | cons w weights =>
        rw [List.zipWith_cons_cons, ih (by simpa using hweights), List.map_cons]
  rw [indicatorsOf, List.map_append, List.map_append, List.map_append, hzip, List.map_map,
    show (scores.map ((·.code) ∘ fun s => ({ code := s.1, value := s.2, subIndex := some "fii" } :
      Strategies.Indicator α))) = scores.map Prod.fst from rfl, hscores]
  rfl

/-- The scores are no codes of the stage that reads them. -/
theorem scores_not_codes {cri : α} {k : String × String} (hk : k ∈ Resilience.SUB_INDEX_KEYS) :
    k.1 ∉ (resilienceIndicators weights cri).map (·.code) := by
  rw [resilienceIndicators, List.map_append, List.mem_append]
  rintro (hweight | hindex)
  · obtain ⟨i, hi, hcode⟩ := List.mem_map.mp hweight
    rw [← List.map_uncurry_zip_eq_zipWith] at hi
    obtain ⟨p, hp, rfl⟩ := List.mem_map.mp hi
    exact (resilienceKeys_not_codes k hk p.1 (List.of_mem_zip hp).1).1 hcode.symm
  · exact (resilienceKeys_not_codes k hk k hk).2 (List.mem_singleton.mp hindex)

end Codes

/-- The scores a resilience stage is given are under their own codes. -/
theorem lookup_givenScores (indicators : IndicatorSet) : ∀ k ∈ Resilience.SUB_INDEX_KEYS,
    (givenOf [("cpc_score", "cpc_score"), ("ewe_score", "ewe_score"), ("kf_score", "kf_score"),
      ("dre_score", "dre_score"), ("rc_score", "rc_score")] indicators []).lookup k.1 =
        some ((indicators.value k.1).elim .null .float) := by
  intro k hk
  simp only [Resilience.SUB_INDEX_KEYS, List.mem_cons, List.not_mem_nil, or_false] at hk
  rcases hk with rfl | rfl | rfl | rfl | rfl <;> rfl

end Firas

end GeoRisk.Analysis
