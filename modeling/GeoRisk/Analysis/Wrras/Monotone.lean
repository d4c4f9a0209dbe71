import Mathlib
import GeoRisk.Analysis.Wrras.Calculators

/-! The wildfire risk grows with what is bad, through every stage and every rounding. A stage that is
    accepted computes its index from the numbers it reads, by steps that keep the order and the range:

        read ─▶ orient ─▶ mean ─▶ round ─▶ mean ─▶ round ─▶ product ─▶ round
          ≤        ≤        ≤       ≤        ≤       ≤         ≤         ≤       all within [0, 1] -/

namespace GeoRisk.Analysis.Wrras

open Strategies

variable {α : Type} [Field α] [LinearOrder α] [FloorRing α]
  {inputs : RawInputs α} {out : List (Strategies.Indicator α)}

/-- The entry under a key is a number between 0 and 1. -/
def InUnit (inputs : RawInputs α) (key : String) : Prop :=
  inputs.lookup key = some (.number (readNumber inputs key)) ∧ readNumber inputs key ∈ Set.Icc 0 1

omit [FloorRing α] in
theorem inUnit_of_check {error : α → InvalidIndicatorInput α} {key : String} {value : RawValue α}
    {x : α} (hvalue : inputs.lookup key = some value) (h : checkUnit error value = .ok x) :
    InUnit inputs key ∧ x = readNumber inputs key := by
  obtain ⟨rfl, hunit⟩ := checkUnit_ok.mp h
  have hread := readNumber_of_lookup hvalue
  exact ⟨⟨hread ▸ hvalue, hread ▸ hunit⟩, hread.symm⟩

/-! ### The index of each stage -/

/-- The hazard index of the numbers under the keys, with the default weights. -/
def hazardIndex (read : String → α) : α :=
  Lib.roundTo 4 (clampUnit (Hazard.INDEX_KEYS.map fun key =>
    (Hazard.DEFAULT_WEIGHTS.lookup key).getD 0 * Hazard.oriented key (read key)).sum)

def exposureRatio (exposed total : α) : α :=
  if total = 0 then 0 else Lib.roundTo 4 (exposed / total)

def exposureIndex (read : String → α) : α :=
  Lib.roundTo 4 (average (Exposure.CATEGORIES.map fun c =>
    exposureRatio (read (c.amounts ++ "_exposed")) (read (c.amounts ++ "_total"))))

def dimensionIndex (read : String → α) (indicators : List (String × Bool)) : α :=
  Lib.roundTo 4 (average (indicators.map fun p => if p.2 then 1 - read p.1 else read p.1))

def vulnerabilityIndex (read : String → α) : α :=
  Lib.roundTo 4 (average (Vulnerability.DIMENSIONS.map fun d => dimensionIndex read d.2))

omit [LinearOrder α] [FloorRing α] in
/-- The default weights, looked up. -/
theorem item_default {key : String} {w : RawValue α} {x : α}
    (hw : item (Hazard.DEFAULT_WEIGHTS.map fun p => (p.1, RawValue.number (p.2 : α))) key = .ok w)
    (hx : w.toNumber = .ok x) : x = (Hazard.DEFAULT_WEIGHTS.lookup key).getD 0 := by
  have hmap : ∀ weights : List (String × α),
      (weights.map fun p => (p.1, RawValue.number p.2)).lookup key =
        (weights.lookup key).map .number := by
    intro weights
    induction weights with
    | nil => rfl
    | cons p weights ih =>
      rw [List.map_cons, List.lookup_cons, List.lookup_cons, ih]
      cases key == p.1 <;> rfl
  rw [item_ok, hmap] at hw
  obtain ⟨y, hy, rfl⟩ := Option.map_eq_some_iff.mp hw
  cases hx
  rw [hy, Option.getD_some]

/-- An accepted hazard stage. -/
theorem hazard_ok (hweights : inputs.lookup "weights" = none)
    (h : Hazard.compute inputs = .ok out) : (∀ key ∈ Hazard.INDEX_KEYS, InUnit inputs key) ∧
      valueOf out "wildfire_hazard_index" = some (hazardIndex (readNumber inputs)) := by
  obtain ⟨values, hvalues, h⟩ := Lib.bind_ok.mp h
  obtain ⟨whi, hwhi, h⟩ := Lib.bind_ok.mp h
  obtain ⟨indices, hindices, h⟩ := Lib.bind_ok.mp h
  obtain ⟨weights, -, h⟩ := Lib.bind_ok.mp h
  cases h
  rw [givenWeights, hweights, Option.getD_none] at hwhi
  obtain ⟨default, hdefault, hwhi⟩ := Lib.bind_ok.mp hwhi
  cases hdefault
  obtain ⟨-, -, hwhi⟩ := Lib.bind_ok.mp hwhi
  obtain ⟨numbers, hnumbers, hwhi⟩ := Lib.bind_ok.mp hwhi
  obtain ⟨terms, hterms, hwhi⟩ := Lib.bind_ok.mp hwhi
  cases hwhi
  obtain ⟨hkeys, hlookup⟩ := entries_ok hvalues
  have hunit : ∀ p ∈ values, InUnit inputs p.1 := by
    intro p hp
    obtain ⟨q, -, hq⟩ := Lib.exists_of_mapM_ok hnumbers p hp
    obtain ⟨x, hx, -⟩ := Lib.bind_ok.mp hq
    exact (inUnit_of_check (hlookup p hp) hx).1
  have hread : numbers = values.map fun p => (p.1, readNumber inputs p.1) := by
    refine Lib.eq_map_of_mapM_ok hnumbers fun p hp q hq => ?_
    obtain ⟨x, hx, hq⟩ := Lib.bind_ok.mp hq
    cases hq
    rw [(inUnit_of_check (hlookup p hp) hx).2]
  have hsum : terms = numbers.map fun p =>
      (Hazard.DEFAULT_WEIGHTS.lookup p.1).getD 0 * Hazard.oriented p.1 p.2 := by
    refine Lib.eq_map_of_mapM_ok hterms fun p hp t ht => ?_
    obtain ⟨w, hw, ht⟩ := Lib.bind_ok.mp ht
    obtain ⟨x, hx, ht⟩ := Lib.bind_ok.mp ht
    cases ht
    rw [item_default hw hx]
  have hcodes : ∀ i ∈ indices, i.code ∈ Hazard.INDEX_KEYS := by
    intro i hi
    obtain ⟨p, hp, hi⟩ := Lib.mem_of_mapM_ok hindices i hi
    obtain ⟨x, -, hi⟩ := Lib.bind_ok.mp hi
    cases hi
    exact hkeys ▸ List.mem_map_of_mem hp
  refine ⟨fun key hkey => ?_, ?_⟩
  · obtain ⟨p, hp, rfl⟩ := List.mem_map.mp (hkeys ▸ hkey : key ∈ values.map Prod.fst)
    exact hunit p hp
  · have hother : ∀ i ∈ indices, i.code ≠ "wildfire_hazard_index" := by
      intro i hi hcode
      exact absurd (hcode ▸ hcodes i hi) (by decide)
    rw [List.append_assoc, List.singleton_append]
    refine (valueOf_append hother).trans ?_
    rw [hazardIndex, hsum, hread, List.map_map, ← hkeys, List.map_map]
    rfl

/-- Exposed amounts that are no more than their total. -/
structure Amounts (exposed total : α) : Prop where
  exposed_nonneg : 0 ≤ exposed
  total_nonneg : 0 ≤ total
  le : total ≠ 0 → exposed ≤ total

/-- An accepted ratio. -/
theorem ratio_ok {exposed total : RawValue α} {name : String} {r : α}
    (h : Exposure.ratio exposed total name = .ok r) : ∃ e t, exposed = .number e ∧
      total = .number t ∧ Amounts e t ∧ r = exposureRatio e t := by
  obtain ⟨t, ht, h⟩ := Lib.bind_ok.mp h
  rw [toNumber_ok] at ht
  split at h
  · cases h
  next htotal =>
  obtain ⟨e, he, h⟩ := Lib.bind_ok.mp h
  rw [toNumber_ok] at he
  split at h
  · cases h
  next hexposed =>
  refine ⟨e, t, he, ht, ?_⟩
  rw [exposureRatio]
  split at h
  · next hzero =>
    cases h
    exact ⟨⟨not_lt.mp hexposed, not_lt.mp htotal, fun hne => (hne hzero).elim⟩, (if_pos hzero).symm⟩
  · next hne =>
    split at h
    · cases h
    · next hle =>
      cases h
      exact ⟨⟨not_lt.mp hexposed, not_lt.mp htotal, fun _ => not_lt.mp hle⟩, (if_neg hne).symm⟩

/-- An accepted exposure stage. -/
theorem exposure_ok (h : Exposure.compute inputs = .ok out) :
    (∀ c ∈ Exposure.CATEGORIES, ∃ e t, inputs.lookup (c.amounts ++ "_exposed") = some (.number e) ∧
      inputs.lookup (c.amounts ++ "_total") = some (.number t) ∧ Amounts e t) ∧
    valueOf out "wildfire_exposure_index" = some (exposureIndex (readNumber inputs)) := by
  obtain ⟨amounts, hamounts, h⟩ := Lib.bind_ok.mp h
  obtain ⟨ratios, hratios, h⟩ := Lib.bind_ok.mp h
  cases h
  have hread : ∀ p ∈ amounts, inputs.lookup (p.1.amounts ++ "_exposed") = some p.2.1 ∧
      inputs.lookup (p.1.amounts ++ "_total") = some p.2.2 := by
    intro p hp
    obtain ⟨c, -, hp⟩ := Lib.mem_of_mapM_ok hamounts p hp
    obtain ⟨exposed, hexposed, hp⟩ := Lib.bind_ok.mp hp
    obtain ⟨total, htotal, hp⟩ := Lib.bind_ok.mp hp
    cases hp
    exact ⟨item_ok.mp hexposed, item_ok.mp htotal⟩
  have hcategories : amounts.map Prod.fst = Exposure.CATEGORIES := by
    refine Lib.map_eq_of_mapM_ok hamounts fun c p hp => ?_
    obtain ⟨exposed, -, hp⟩ := Lib.bind_ok.mp hp
    obtain ⟨total, -, hp⟩ := Lib.bind_ok.mp hp
    cases hp
    rfl
  have hratio : ∀ p ∈ amounts, ∀ r, Exposure.ratio p.2.1 p.2.2 p.1.name = .ok r →
      ∃ e t, inputs.lookup (p.1.amounts ++ "_exposed") = some (.number e) ∧
        inputs.lookup (p.1.amounts ++ "_total") = some (.number t) ∧ Amounts e t ∧
        r = exposureRatio e t := by
    intro p hp r hr
    obtain ⟨e, t, he, ht, hamounts, hr⟩ := ratio_ok hr
    obtain ⟨hexposed, htotal⟩ := hread p hp
    exact ⟨e, t, he ▸ hexposed, ht ▸ htotal, hamounts, hr⟩
  have hratios' : ratios = amounts.map fun p => (p.1, exposureRatio
      (readNumber inputs (p.1.amounts ++ "_exposed"))
      (readNumber inputs (p.1.amounts ++ "_total"))) := by
    refine Lib.eq_map_of_mapM_ok hratios fun p hp q hq => ?_
    obtain ⟨r, hr, hq⟩ := Lib.bind_ok.mp hq
    cases hq
    obtain ⟨e, t, he, ht, -, rfl⟩ := hratio p hp r hr
    rw [readNumber_of_lookup he, readNumber_of_lookup ht]
  refine ⟨fun c hc => ?_, ?_⟩
  · obtain ⟨p, hp, rfl⟩ := List.mem_map.mp (hcategories ▸ hc : c ∈ amounts.map Prod.fst)
    obtain ⟨q, -, hq⟩ := Lib.exists_of_mapM_ok hratios p hp
    obtain ⟨r, hr, -⟩ := Lib.bind_ok.mp hq
    obtain ⟨e, t, he, ht, hamounts, -⟩ := hratio p hp r hr
    exact ⟨e, t, he, ht, hamounts⟩
  · have hcodes : ∀ c ∈ Exposure.CATEGORIES, c.code ≠ "wildfire_exposure_index" := by decide
    refine (valueOf_append fun i hi => ?_).trans ?_
    · obtain ⟨p, hp, rfl⟩ := List.mem_map.mp hi
      rw [hratios'] at hp
      obtain ⟨q, hq, rfl⟩ := List.mem_map.mp hp
      exact hcodes q.1 (hcategories ▸ List.mem_map_of_mem hq)
    · rw [exposureIndex, hratios', List.map_map, ← hcategories, List.map_map]
      rfl

omit [FloorRing α] in
/-- An accepted entry of the vulnerability stage. -/
theorem validated_ok {data : RawInputs α} {keys : List String} {key : String} {x : α}
    (hdata : entries inputs keys = .ok data) (hkey : key ∈ keys)
    (h : Vulnerability.validated data key = .ok x) :
    InUnit inputs key ∧ x = readNumber inputs key := by
  obtain ⟨value, hvalue, h⟩ := Lib.bind_ok.mp h
  rw [item_ok, lookup_entries hdata hkey] at hvalue
  exact inUnit_of_check hvalue h

/-- An accepted dimension. -/
theorem dimensionScore_ok {data : RawInputs α} {keys : List String} {indicators : List (String × Bool)}
    {x : α} (hdata : entries inputs keys = .ok data) (hkeys : ∀ p ∈ indicators, p.1 ∈ keys)
    (h : Vulnerability.dimensionScore data indicators = .ok x) :
    (∀ p ∈ indicators, InUnit inputs p.1) ∧ x = dimensionIndex (readNumber inputs) indicators := by
  obtain ⟨scores, hscores, h⟩ := Lib.bind_ok.mp h
  cases h
  refine ⟨fun p hp => ?_, ?_⟩
  · obtain ⟨q, -, hq⟩ := Lib.exists_of_mapM_ok hscores p hp
    obtain ⟨value, hvalue, -⟩ := Lib.bind_ok.mp hq
    exact (validated_ok hdata (hkeys p hp) hvalue).1
  · rw [dimensionIndex, Lib.eq_map_of_mapM_ok hscores]
    intro p hp q hq
    obtain ⟨value, hvalue, hq⟩ := Lib.bind_ok.mp hq
    cases hq
    rw [(validated_ok hdata (hkeys p hp) hvalue).2]

/-- An accepted vulnerability stage. -/
theorem vulnerability_ok (h : Vulnerability.compute inputs = .ok out) :
    (∀ d ∈ Vulnerability.DIMENSIONS, ∀ p ∈ d.2, InUnit inputs p.1) ∧
    valueOf out "wildfire_vulnerability_index" = some (vulnerabilityIndex (readNumber inputs)) := by
  obtain ⟨data, hdata, h⟩ := Lib.bind_ok.mp h
  obtain ⟨⟨dimensions, wvi⟩, hwvi, h⟩ := Lib.bind_ok.mp h
  obtain ⟨insecurityData, -, h⟩ := Lib.bind_ok.mp h
  obtain ⟨⟨parts, wii⟩, -, h⟩ := Lib.bind_ok.mp h
  cases h
  obtain ⟨scores, hscores, hwvi⟩ := Lib.bind_ok.mp hwvi
  cases hwvi
  have hkeys : ∀ d ∈ Vulnerability.DIMENSIONS, ∀ p ∈ d.2,
      p.1 ∈ Vulnerability.VULNERABILITY_INDICATORS := fun d hd p hp =>
    List.mem_flatMap.mpr ⟨d, hd, List.mem_map_of_mem hp⟩
  have hdimensions : dimensions = Vulnerability.DIMENSIONS.map fun d =>
      (d.1, dimensionIndex (readNumber inputs) d.2) := by
    refine Lib.eq_map_of_mapM_ok hscores fun d hd q hq => ?_
    obtain ⟨x, hx, hq⟩ := Lib.bind_ok.mp hq
    cases hq
    rw [(dimensionScore_ok hdata (hkeys d hd) hx).2]
  refine ⟨fun d hd => ?_, ?_⟩
  · obtain ⟨q, -, hq⟩ := Lib.exists_of_mapM_ok hscores d hd
    obtain ⟨x, hx, -⟩ := Lib.bind_ok.mp hq
    exact (dimensionScore_ok hdata (hkeys d hd) hx).1
  · have hcodes : ∀ d ∈ Vulnerability.DIMENSIONS, d.1 ≠ "wildfire_vulnerability_index" := by decide
    rw [List.append_assoc, List.append_assoc, List.singleton_append]
    refine (valueOf_append fun i hi => ?_).trans ?_
    · obtain ⟨q, hq, rfl⟩ := List.mem_map.mp hi
      rw [hdimensions] at hq
      obtain ⟨d, hd, rfl⟩ := List.mem_map.mp hq
      exact hcodes d hd
    · rw [vulnerabilityIndex, hdimensions, List.map_map]
      rfl

/-! ### Order and range -/

section Order

variable [IsStrictOrderedRing α] {f g : String → α}

theorem hazardIndex_mono (h : ∀ key ∈ Hazard.INDEX_KEYS, Hazard.oriented key (f key) ≤
    Hazard.oriented key (g key)) : hazardIndex f ≤ hazardIndex g := by
  have hweights : ∀ key ∈ Hazard.INDEX_KEYS, (0 : α) ≤ (Hazard.DEFAULT_WEIGHTS.lookup key).getD 0 := by
    intro key hkey
    simp only [Hazard.INDEX_KEYS, List.mem_cons, List.not_mem_nil, or_false] at hkey
    rcases hkey with h | h | h | h | h | h | h | h <;>
      simp [h, Hazard.DEFAULT_WEIGHTS, List.lookup_cons] <;> positivity
  exact Lib.roundTo_mono (clampUnit_mono (List.sum_le_sum fun key hkey =>
    mul_le_mul_of_nonneg_left (h key hkey) (hweights key hkey)))

theorem hazardIndex_mem (f : String → α) : hazardIndex f ∈ Set.Icc 0 1 :=
  roundTo_mem (clampUnit_mem _)

/-- A ratio grows with what is exposed, and as the total shrinks. -/
theorem exposureRatio_mono {e t e' t' : α} (h : Amounts e t) (h' : Amounts e' t') (he : e ≤ e')
    (ht : 0 < t → 0 < t' ∧ t' ≤ t) : exposureRatio e t ≤ exposureRatio e' t' := by
  unfold exposureRatio
  split
  · split
    · exact le_rfl
    · exact Lib.roundTo_nonneg (div_nonneg h'.exposed_nonneg h'.total_nonneg)
  · next hne =>
    obtain ⟨hpos, hle⟩ := ht (lt_of_le_of_ne h.total_nonneg (Ne.symm hne))
    rw [if_neg hpos.ne']
    exact Lib.roundTo_mono (div_le_div₀ h'.exposed_nonneg he hpos hle)

theorem exposureRatio_mem {e t : α} (h : Amounts e t) : exposureRatio e t ∈ Set.Icc 0 1 := by
  unfold exposureRatio
  split
  · exact ⟨le_rfl, zero_le_one⟩
  · next hne =>
    exact roundTo_mem ⟨div_nonneg h.exposed_nonneg h.total_nonneg,
      div_le_one_of_le₀ (h.le hne) h.total_nonneg⟩

theorem vulnerabilityIndex_mono (h : ∀ d ∈ Vulnerability.DIMENSIONS, ∀ p ∈ d.2,
    (if p.2 then 1 - f p.1 else f p.1) ≤ if p.2 then 1 - g p.1 else g p.1) :
    vulnerabilityIndex f ≤ vulnerabilityIndex g :=
  Lib.roundTo_mono (average_mono fun d hd => Lib.roundTo_mono (average_mono (h d hd)))

theorem vulnerabilityIndex_mem (h : ∀ d ∈ Vulnerability.DIMENSIONS, ∀ p ∈ d.2,
    f p.1 ∈ Set.Icc 0 1) : vulnerabilityIndex f ∈ Set.Icc 0 1 := by
  refine roundTo_mem (average_mem fun x hx => ?_)
  obtain ⟨d, hd, rfl⟩ := List.mem_map.mp hx
  refine roundTo_mem (average_mem fun y hy => ?_)
  obtain ⟨p, hp, rfl⟩ := List.mem_map.mp hy
  obtain ⟨h0, h1⟩ := h d hd p hp
  split
  · exact ⟨by linarith, by linarith⟩
  · exact ⟨h0, h1⟩

end Order

/-! ### The risk of an assessment -/

section Risk

variable [IsStrictOrderedRing α]

/-- The raw inputs of the three stages below the risk. -/
structure Raw (α : Type) where
  hazard : RawInputs α
  exposure : RawInputs α
  vulnerability : RawInputs α

/-- The indicators of three accepted stages, the hazard with the default weights. -/
structure Accepted (raw : Raw α) (hazard exposure vulnerability : List (Strategies.Indicator α)) : Prop where
  weights : raw.hazard.lookup "weights" = none
  hazard : Hazard.compute raw.hazard = .ok hazard
  exposure : Exposure.compute raw.exposure = .ok exposure
  vulnerability : Vulnerability.compute raw.vulnerability = .ok vulnerability

/-- The number under a key is no greater in the second dictionary. -/
def LeAt (inputs inputs' : RawInputs α) (key : String) : Prop :=
  ∀ x y, inputs.lookup key = some (.number x) → inputs'.lookup key = some (.number y) → x ≤ y

/-- The second raw inputs are worse throughout, or the same. -/
structure Worse (raw raw' : Raw α) : Prop where
  hazard : ∀ key ∈ Hazard.INDEX_KEYS, key ≠ "rainfall" → LeAt raw.hazard raw'.hazard key
  rainfall : LeAt raw'.hazard raw.hazard "rainfall"
  exposed : ∀ c ∈ Exposure.CATEGORIES, LeAt raw.exposure raw'.exposure (c.amounts ++ "_exposed")
  total : ∀ c ∈ Exposure.CATEGORIES, ∀ x y,
    raw.exposure.lookup (c.amounts ++ "_total") = some (.number x) →
    raw'.exposure.lookup (c.amounts ++ "_total") = some (.number y) → 0 < x → 0 < y ∧ y ≤ x
  vulnerability : ∀ d ∈ Vulnerability.DIMENSIONS, ∀ p ∈ d.2, p.2 = false →
    LeAt raw.vulnerability raw'.vulnerability p.1
  inverted : ∀ d ∈ Vulnerability.DIMENSIONS, ∀ p ∈ d.2, p.2 = true →
    LeAt raw'.vulnerability raw.vulnerability p.1

/-- The product of the three indices, rounded. -/
def riskIndex (raw : Raw α) : α :=
  Lib.roundTo 4 (clampUnit (hazardIndex (readNumber raw.hazard) *
    exposureIndex (readNumber raw.exposure) * vulnerabilityIndex (readNumber raw.vulnerability)))

theorem indices_mem {raw : Raw α} {h e v : List (Strategies.Indicator α)} (ha : Accepted raw h e v) :
    hazardIndex (readNumber raw.hazard) ∈ Set.Icc 0 1 ∧
    exposureIndex (readNumber raw.exposure) ∈ Set.Icc 0 1 ∧
    vulnerabilityIndex (readNumber raw.vulnerability) ∈ Set.Icc 0 1 := by
  refine ⟨hazardIndex_mem _, ?_, ?_⟩
  · refine roundTo_mem (average_mem fun x hx => ?_)
    obtain ⟨c, hc, rfl⟩ := List.mem_map.mp hx
    obtain ⟨e, t, he, ht, hamounts⟩ := (exposure_ok ha.exposure).1 c hc
    rw [readNumber_of_lookup he, readNumber_of_lookup ht]
    exact exposureRatio_mem hamounts
  · exact vulnerabilityIndex_mem fun d hd p hp => ((vulnerability_ok ha.vulnerability).1 d hd p hp).2

/-- The risk stage accepts the indices of the stages before, and computes their product. -/
theorem risk_ok {raw : Raw α} {h e v : List (Strategies.Indicator α)} (ha : Accepted raw h e v) :
    ∃ out, Risk.compute (riskInputs h e v) = .ok out ∧
      valueOf out "wildfire_risk_index" = some (riskIndex raw) := by
  obtain ⟨hwhi, hwei, hwvi⟩ := indices_mem ha
  refine ⟨[{ code := "wildfire_risk_index", value := riskIndex raw, unit := "index" }], ?_, rfl⟩
  have hinputs : riskInputs h e v =
      [("wildfire_hazard_index_input", .number (hazardIndex (readNumber raw.hazard))),
       ("wildfire_exposure_index_input", .number (exposureIndex (readNumber raw.exposure))),
       ("wildfire_vulnerability_index_input",
         .number (vulnerabilityIndex (readNumber raw.vulnerability)))] := by
    simp only [riskInputs, (hazard_ok ha.weights ha.hazard).2, (exposure_ok ha.exposure).2,
      (vulnerability_ok ha.vulnerability).2]
  rw [hinputs]
  refine Lib.bind_ok.mpr ⟨_, item_ok.mpr rfl, Lib.bind_ok.mpr ⟨_, item_ok.mpr rfl,
    Lib.bind_ok.mpr ⟨_, item_ok.mpr rfl, Lib.bind_ok.mpr ⟨riskIndex raw, ?_, rfl⟩⟩⟩⟩
  exact Lib.bind_ok.mpr ⟨_, checkUnit_ok.mpr ⟨rfl, hwhi⟩, Lib.bind_ok.mpr ⟨_,
    checkUnit_ok.mpr ⟨rfl, hwei⟩, Lib.bind_ok.mpr ⟨_, checkUnit_ok.mpr ⟨rfl, hwvi⟩, rfl⟩⟩⟩

theorem riskIndex_mono {raw raw' : Raw α} {h e v h' e' v' : List (Strategies.Indicator α)}
    (ha : Accepted raw h e v) (ha' : Accepted raw' h' e' v') (hworse : Worse raw raw') :
    riskIndex raw ≤ riskIndex raw' := by
  obtain ⟨hwhi, hwei, hwvi⟩ := indices_mem ha
  obtain ⟨hwhi', hwei', hwvi'⟩ := indices_mem ha'
  have hhazard : hazardIndex (readNumber raw.hazard) ≤ hazardIndex (readNumber raw'.hazard) := by
    refine hazardIndex_mono fun key hkey => ?_
    have hlookup := ((hazard_ok ha.weights ha.hazard).1 key hkey).1
    have hlookup' := ((hazard_ok ha'.weights ha'.hazard).1 key hkey).1
    unfold Hazard.oriented
    split
    · next hrain => exact sub_le_sub_left (hworse.rainfall _ _ (hrain ▸ hlookup') (hrain ▸ hlookup)) 1
    · next hrain => exact hworse.hazard key hkey hrain _ _ hlookup hlookup'
  have hexposure : exposureIndex (readNumber raw.exposure) ≤
      exposureIndex (readNumber raw'.exposure) := by
    refine Lib.roundTo_mono (average_mono fun c hc => ?_)
    obtain ⟨x, t, hx, ht, hamounts⟩ := (exposure_ok ha.exposure).1 c hc
    obtain ⟨x', t', hx', ht', hamounts'⟩ := (exposure_ok ha'.exposure).1 c hc
    rw [readNumber_of_lookup hx, readNumber_of_lookup ht, readNumber_of_lookup hx',
      readNumber_of_lookup ht']
    exact exposureRatio_mono hamounts hamounts' (hworse.exposed c hc _ _ hx hx')
      (hworse.total c hc _ _ ht ht')
  have hvulnerability : vulnerabilityIndex (readNumber raw.vulnerability) ≤
      vulnerabilityIndex (readNumber raw'.vulnerability) := by
    refine vulnerabilityIndex_mono fun d hd p hp => ?_
    have hlookup := ((vulnerability_ok ha.vulnerability).1 d hd p hp).1
    have hlookup' := ((vulnerability_ok ha'.vulnerability).1 d hd p hp).1
    split
    · next hinverted => exact sub_le_sub_left (hworse.inverted d hd p hp hinverted _ _ hlookup' hlookup) 1
    · next hplain =>
      exact hworse.vulnerability d hd p hp (Bool.eq_false_of_not_eq_true hplain) _ _ hlookup hlookup'
  refine Lib.roundTo_mono (clampUnit_mono ?_)
  exact mul_le_mul (mul_le_mul hhazard hexposure hwei.1 hwhi'.1) hvulnerability hwvi.1
    (mul_nonneg hwhi'.1 hwei'.1)

/-- Of two accepted assessments the worse one has at least the risk of the other, and both are between
    0 and 1. -/
theorem wildfireRisk_mono {raw raw' : Raw α} {h e v h' e' v' : List (Strategies.Indicator α)}
    (ha : Accepted raw h e v) (ha' : Accepted raw' h' e' v') (hworse : Worse raw raw') :
    ∃ out out' w w', Risk.compute (riskInputs h e v) = .ok out ∧
      Risk.compute (riskInputs h' e' v') = .ok out' ∧
      valueOf out "wildfire_risk_index" = some w ∧ valueOf out' "wildfire_risk_index" = some w' ∧
      w ≤ w' ∧ w ∈ Set.Icc 0 1 ∧ w' ∈ Set.Icc 0 1 := by
  obtain ⟨out, hout, hvalue⟩ := risk_ok ha
  obtain ⟨out', hout', hvalue'⟩ := risk_ok ha'
  exact ⟨out, out', riskIndex raw, riskIndex raw', hout, hout', hvalue, hvalue',
    riskIndex_mono ha ha' hworse, roundTo_mem (clampUnit_mem _), roundTo_mem (clampUnit_mem _)⟩

end Risk

/-- Raw inputs that are a half throughout but for the amounts exposed, of totals that are 1. -/
def withExposed (x : ℚ) : Raw ℚ where
  hazard := Hazard.INDEX_KEYS.map (·, .number (1 / 2))
  exposure := Exposure.CATEGORIES.flatMap fun c =>
    [(c.amounts ++ "_exposed", .number x), (c.amounts ++ "_total", .number 1)]
  vulnerability := (Vulnerability.VULNERABILITY_INDICATORS ++
    Vulnerability.INSECURITY_INDICATORS).map (·, .number (1 / 2))

theorem accepted_withExposed {x : ℚ} (hok : (Hazard.compute (withExposed x).hazard).toOption.isSome ∧
    (Exposure.compute (withExposed x).exposure).toOption.isSome ∧
    (Vulnerability.compute (withExposed x).vulnerability).toOption.isSome) :
    ∃ h e v, Accepted (withExposed x) h e v := by
  have hsome : ∀ {x : Computed ℚ (List (Strategies.Indicator ℚ))}, x.toOption.isSome → ∃ out, x = .ok out := by
    intro x hx
    cases x with
    | error e => cases hx
    | ok out => exact ⟨out, rfl⟩
  obtain ⟨h, hh⟩ := hsome hok.1
  obtain ⟨e, he⟩ := hsome hok.2.1
  obtain ⟨v, hv⟩ := hsome hok.2.2
  exact ⟨h, e, v, rfl, hh, he, hv⟩

theorem worse_withExposed {x y : ℚ} (hle : x ≤ y) : Worse (withExposed x) (withExposed y) := by
  have hrefl : ∀ inputs key, LeAt (α := ℚ) inputs inputs key := by
    intro inputs key a b ha hb
    cases ha.symm.trans hb
    exact le_rfl
  have hexposed : ∀ z, ∀ c ∈ Exposure.CATEGORIES,
      (withExposed z).exposure.lookup (c.amounts ++ "_exposed") = some (.number z) := by
    intro z
    simp [Exposure.CATEGORIES, withExposed, List.lookup]
  have htotal : ∀ z, ∀ c ∈ Exposure.CATEGORIES,
      (withExposed z).exposure.lookup (c.amounts ++ "_total") = some (.number 1) := by
    intro z
    simp [Exposure.CATEGORIES, withExposed, List.lookup]
  refine ⟨fun _ _ _ => hrefl _ _, hrefl _ _, fun c hc a b ha hb => ?_, fun c hc a b ha hb hpos => ?_,
    fun _ _ _ _ _ => hrefl _ _, fun _ _ _ _ _ => hrefl _ _⟩
  · cases (hexposed x c hc).symm.trans ha
    cases (hexposed y c hc).symm.trans hb
    exact hle
  · cases (htotal x c hc).symm.trans ha
    cases (htotal y c hc).symm.trans hb
    exact ⟨hpos, le_rfl⟩

/-- Half of everything exposed, and three quarters of it. -/
theorem wildfireRisk_mono_exposed : ∃ h e v h' e' v' out out' w w',
    Accepted (withExposed (1 / 2)) h e v ∧ Accepted (withExposed (3 / 4)) h' e' v' ∧
    Risk.compute (riskInputs h e v) = .ok out ∧ Risk.compute (riskInputs h' e' v') = .ok out' ∧
    valueOf out "wildfire_risk_index" = some w ∧ valueOf out' "wildfire_risk_index" = some w' ∧
    w ≤ w' ∧ w ∈ Set.Icc 0 1 ∧ w' ∈ Set.Icc 0 1 := by
  obtain ⟨h, e, v, ha⟩ := accepted_withExposed (x := 1 / 2) (by decide +kernel)
  obtain ⟨h', e', v', ha'⟩ := accepted_withExposed (x := 3 / 4) (by decide +kernel)
  obtain ⟨out, out', w, w', hmono⟩ := wildfireRisk_mono ha ha' (worse_withExposed (by norm_num))
  exact ⟨h, e, v, h', e', v', out, out', w, w', ha, ha', hmono⟩

end GeoRisk.Analysis.Wrras
