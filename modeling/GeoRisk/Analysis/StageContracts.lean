import GeoRisk.Analysis.Firas.Snapshots
import GeoRisk.Analysis.IndexRange
import GeoRisk.Analysis.Wrras.Monotone

/-! What the stages put out for one another. Whatever a stage is given, when it returns it has under the
    codes that later stages read a number; all of these lie between 0 and 1, but for the parts of flood
    insecurity, of which resilience asks no more than that they are numbers:

        hazard ─▶ index ∈ [0, 1] ┐
        exposure ─▶ index ∈ [0, 1] ├─▶ risk ∈ [0, 1]
        vulnerability ─▶ index ∈ [0, 1] ┘
                  └────▶ scores ──────▶ resilience

    The triples here allow every error: they say what is returned, not that anything is. -/

namespace GeoRisk.Analysis

open Strategies Lib

section Contracts

variable {α : Type}

/-- Under the code there is a number that is accepted. -/
def Puts (accepted : α → Prop) (out : List (Strategies.Indicator α)) (code : String) : Prop :=
  ∃ x, valueOf out code = some x ∧ accepted x

/-- An indicator is put out, unless one before it has its code. -/
theorem puts_append {accepted : α → Prop} {before after : List (Strategies.Indicator α)}
    {i : Strategies.Indicator α} (hi : accepted i.value) (h : ∀ j ∈ before, j.code ≠ i.code) :
    Puts accepted (before ++ i :: after) i.code :=
  ⟨i.value, valueOf_append h, hi⟩

/-- Of indicators with different codes each is put out. -/
theorem puts_of_mem {accepted : α → Prop} {out : List (Strategies.Indicator α)}
    {i : Strategies.Indicator α} (hnodup : (out.map (·.code)).Nodup) (hi : i ∈ out)
    (haccepted : accepted i.value) : Puts accepted out i.code := by
  obtain ⟨before, after, rfl⟩ := List.append_of_mem hi
  refine puts_append haccepted fun j hj hcode => ?_
  rw [List.map_append, List.map_cons, List.nodup_append] at hnodup
  exact hnodup.2.2 j.code (List.mem_map_of_mem hj) i.code (by simp) hcode

/-- And so is each code, when all that is put out is accepted. -/
theorem puts_of_codes {accepted : α → Prop} {out : List (Strategies.Indicator α)}
    {codes : List String} (hcodes : out.map (·.code) = codes) (hnodup : codes.Nodup)
    (h : ∀ i ∈ out, accepted i.value) : ∀ code ∈ codes, Puts accepted out code := by
  subst hcodes
  intro code hcode
  obtain ⟨i, hi, rfl⟩ := List.mem_map.mp hcode
  exact puts_of_mem hnodup hi (h i hi)

end Contracts

/-! ### A product of indices -/

section Product

variable {α : Type} [Field α] [LinearOrder α] [FloorRing α]

/-- What the risk stages put out: the product of three indices that are read under some keys. -/
def IsProduct (inputs : RawInputs α) (keys : String × String × String) (code : String)
    (out : List (Strategies.Indicator α)) : Prop :=
  ∃ p q r, inputs.lookup keys.1 = some (.number p) ∧ inputs.lookup keys.2.1 = some (.number q) ∧
    inputs.lookup keys.2.2 = some (.number r) ∧
    ((0 ≤ p ∧ p ≤ 1) ∧ (0 ≤ q ∧ q ≤ 1) ∧ 0 ≤ r ∧ r ≤ 1) ∧
    out = [{ code, value := Lib.roundTo 4 (clampUnit (p * q * r)), unit := "index" }]

theorem productStage_ok {inputs : RawInputs α} {names keys : String × String × String}
    {code : String} {out : List (Strategies.Indicator α)} :
    productStage inputs names keys code = .ok out ↔ IsProduct inputs keys code out := by
  constructor
  · intro h
    obtain ⟨a, ha, h⟩ := Lib.bind_ok.mp h
    obtain ⟨b, hb, h⟩ := Lib.bind_ok.mp h
    obtain ⟨c, hc, h⟩ := Lib.bind_ok.mp h
    obtain ⟨x, hx, h⟩ := Lib.bind_ok.mp h
    obtain ⟨p, hp, hqr⟩ := Lib.bind_ok.mp hx
    obtain ⟨q, hq, hr⟩ := Lib.bind_ok.mp hqr
    obtain ⟨r, hr, hreturn⟩ := Lib.bind_ok.mp hr
    obtain ⟨rfl, hunit⟩ := checkUnit_ok.mp hp
    obtain ⟨rfl, hunit'⟩ := checkUnit_ok.mp hq
    obtain ⟨rfl, hunit''⟩ := checkUnit_ok.mp hr
    obtain rfl := Except.ok.inj hreturn
    exact ⟨p, q, r, item_ok.mp ha, item_ok.mp hb, item_ok.mp hc, ⟨hunit, hunit', hunit''⟩,
      (Except.ok.inj h).symm⟩
  · rintro ⟨p, q, r, ha, hb, hc, ⟨hp, hq, hr⟩, rfl⟩
    refine Lib.bind_ok.mpr ⟨_, item_ok.mpr ha, Lib.bind_ok.mpr ⟨_, item_ok.mpr hb,
      Lib.bind_ok.mpr ⟨_, item_ok.mpr hc, Lib.bind_ok.mpr ⟨_, ?_, rfl⟩⟩⟩⟩
    exact Lib.bind_ok.mpr ⟨p, checkUnit_ok.mpr ⟨rfl, hp⟩, Lib.bind_ok.mpr ⟨q,
      checkUnit_ok.mpr ⟨rfl, hq⟩, Lib.bind_ok.mpr ⟨r, checkUnit_ok.mpr ⟨rfl, hr⟩, rfl⟩⟩⟩

theorem firasRisk_ok {inputs : RawInputs α} {out : List (Strategies.Indicator α)} :
    Firas.Risk.compute inputs = .ok out ↔
      IsProduct inputs FLOOD_RISK_KEYS "flood_risk_index" out := by
  change productStage inputs ("flood_hazard_index", "exposure_index", "flood_insecurity_index")
    FLOOD_RISK_KEYS "flood_risk_index" = .ok out ↔ _
  exact productStage_ok

theorem wrrasRisk_ok {inputs : RawInputs α} {out : List (Strategies.Indicator α)} :
    Wrras.Risk.compute inputs = .ok out ↔
      IsProduct inputs WILDFIRE_RISK_KEYS "wildfire_risk_index" out := by
  change productStage inputs ("wildfire_hazard_index", "wildfire_exposure_index",
    "wildfire_vulnerability_index") WILDFIRE_RISK_KEYS "wildfire_risk_index" = .ok out ↔ _
  exact productStage_ok

end Product

/-! ### The flood strategy -/

section Flood

variable {α : Type} [Field α] [LinearOrder α] [FloorRing α] [IsStrictOrderedRing α]
  {inputs : RawInputs α} {historical : List (RawInputs α)} {log : α → α}

theorem firasHazard_puts : Meets (fun _ => True)
    (fun out => Puts (fun x => 0 ≤ x ∧ x ≤ 1) out "flood_hazard_index")
    (Firas.Hazard.compute inputs) := by
  refine Meets.bind (P := fun values => ∀ p ∈ values, p.1 ∈ Firas.Hazard.KEYS) ?_
    fun values hvalues => ?_
  · refine (Meets.mapM (R := fun k p => p.1 = k) fun k _ => ?_).post fun values hvalues p hp => ?_
    · exact (meets_any _).bind fun _ _ => rfl
    · obtain ⟨k, hk, rfl⟩ := exists_of_forall₂ hvalues hp
      exact hk
  refine Meets.bind (P := fun x => 0 ≤ x ∧ x ≤ 1) ?_ fun fhi hfhi => ?_
  · refine (meets_any _).bind fun _ _ => (meets_any _).bind fun _ _ => ?_
    exact (meets_any _).bind fun _ _ => (meets_any _).bind fun _ _ => roundTo_clampUnit_mem 4 _
  refine Meets.bind (Meets.mapM (R := fun (p : (String × String) × RawValue α)
    (i : Strategies.Indicator α) => i.code = p.1.2) fun p _ => (meets_any _).bind fun _ _ => rfl)
    fun indices hindices => ?_
  refine (meets_any _).bind fun weights _ => ?_
  rw [List.append_assoc, List.singleton_append]
  refine puts_append hfhi fun i hi => ?_
  obtain ⟨p, hp, hcode⟩ := exists_of_forall₂ hindices hi
  have hne : ∀ k ∈ Firas.Hazard.KEYS, k.2 ≠ "flood_hazard_index" := by decide
  exact hcode ▸ hne p.1 (hvalues p hp)

theorem firasExposure_puts : Meets (fun _ => True)
    (fun out => Puts (fun x => 0 ≤ x ∧ x ≤ 1) out "flood_exposure_index")
    (Firas.Exposure.compute inputs) := by
  refine (meets_any _).bind fun assetData _ => ?_
  refine Meets.bind (P := fun ratios => ∀ p ∈ ratios, p.1 ∈ Firas.Exposure.ASSETS) ?_
    fun ratios hratios => ?_
  · refine (Meets.mapM (R := fun asset (p : String × α) => p.1 = asset) fun asset _ => ?_).post
      fun ratios hratios p hp => ?_
    · refine (meets_any _).bind fun _ _ => (meets_any _).bind fun _ _ => ?_
      refine (meets_any _).bind fun _ _ => (meets_any _).bind fun _ _ => ?_
      exact (meets_any _).bind fun _ _ => rfl
    · obtain ⟨asset, hasset, rfl⟩ := exists_of_forall₂ hratios hp
      exact hasset
  refine Meets.bind (P := fun x => 0 ≤ x ∧ x ≤ 1) ?_ fun ei hei => ?_
  · refine (meets_any _).bind fun _ _ => (meets_any _).bind fun _ _ => ?_
    exact (meets_any _).bind fun _ _ => (meets_any _).bind fun _ _ => roundTo_clampUnit_mem 4 _
  refine puts_append hei fun i hi => ?_
  obtain ⟨p, hp, rfl⟩ := List.mem_map.mp hi
  have hne : ∀ asset ∈ Firas.Exposure.ASSETS,
      asset ++ "_exposure_ratio" ≠ "flood_exposure_index" := by decide
  exact hne p.1 (hratios p hp)

theorem insecurityIndex_mem : Meets (fun _ => True) (fun out => ∃ i ∈ out,
    i.code = "flood_insecurity_index" ∧ 0 ≤ i.value ∧ i.value ≤ 1)
    (Firas.Vulnerability.compute log inputs historical) := by
  refine (meets_any _).bind fun _ _ => (meets_any _).bind fun _ _ => (meets_any _).bind fun _ _ => ?_
  refine Meets.bind (P := fun r => 0 ≤ r.2 ∧ r.2 ≤ 1) ?_ fun r hr =>
    ⟨_, List.mem_append_right _ (List.mem_singleton.mpr rfl), rfl, hr⟩
  refine (meets_any _).bind fun _ _ => (meets_any _).bind fun _ _ => (meets_any _).bind fun _ _ => ?_
  exact (meets_any _).bind fun _ _ => (meets_any _).bind fun _ _ => roundTo_clampUnit_mem 4 _

/-- The insecurity index lies between 0 and 1; its parts are numbers. -/
theorem firasVulnerability_puts : Meets (fun _ => True)
    (fun out => Puts (fun x => 0 ≤ x ∧ x ≤ 1) out "flood_insecurity_index" ∧
      ∀ k ∈ Firas.Resilience.SUB_INDEX_KEYS, Puts (fun _ => True) out k.1)
    (Firas.Vulnerability.compute log inputs historical) := by
  have hindex := @insecurityIndex_mem α _ _ _ _ inputs historical log
  cases hout : Firas.Vulnerability.compute log inputs historical with
  | error e => trivial
  | ok out =>
    rw [hout] at hindex
    obtain ⟨i, hi, hcode, hunit⟩ := hindex
    obtain ⟨fvi, weights, scores, fii, rfl, hweights, hscores⟩ := Firas.vulnerability_shape hout
    have hcodes : (Firas.indicatorsOf fvi weights scores fii).map (·.code) =
        Firas.VULNERABILITY_CODES := Firas.indicatorsOf_codes hweights hscores
    have hparts : ∀ k ∈ Firas.Resilience.SUB_INDEX_KEYS, k.1 ∈ Firas.VULNERABILITY_CODES := by
      decide +kernel
    exact ⟨hcode ▸ puts_of_mem (hcodes ▸ Firas.codes_nodup) hi hunit, fun k hk =>
      puts_of_codes hcodes Firas.codes_nodup (fun _ _ => trivial) k.1 (hparts k hk)⟩

end Flood

/-! ### The wildfire strategy -/

section Wildfire

variable {α : Type} [Field α] [LinearOrder α] [FloorRing α] [IsStrictOrderedRing α]
  {inputs : RawInputs α}

theorem wrrasHazard_puts : Meets (fun _ => True)
    (fun out => Puts (fun x => 0 ≤ x ∧ x ≤ 1) out "wildfire_hazard_index")
    (Wrras.Hazard.compute inputs) := by
  refine Meets.bind (P := fun values => ∀ p ∈ values, p.1 ∈ Wrras.Hazard.INDEX_KEYS) ?_
    fun values hvalues => ?_
  · cases hvalues : entries inputs Wrras.Hazard.INDEX_KEYS with
    | error e => trivial
    | ok values =>
      intro p hp
      rw [← (entries_ok hvalues).1]
      exact List.mem_map_of_mem hp
  refine Meets.bind (P := fun x => 0 ≤ x ∧ x ≤ 1) ?_ fun whi hwhi => ?_
  · refine (meets_any _).bind fun _ _ => (meets_any _).bind fun _ _ => ?_
    exact (meets_any _).bind fun _ _ => (meets_any _).bind fun _ _ => roundTo_clampUnit_mem 4 _
  refine Meets.bind (Meets.mapM (R := fun (p : String × RawValue α)
    (i : Strategies.Indicator α) => i.code = p.1) fun p _ => (meets_any _).bind fun _ _ => rfl)
    fun indices hindices => ?_
  refine (meets_any _).bind fun weights _ => ?_
  rw [List.append_assoc, List.singleton_append]
  refine puts_append hwhi fun i hi => ?_
  obtain ⟨p, hp, hcode⟩ := exists_of_forall₂ hindices hi
  have hne : ∀ key ∈ Wrras.Hazard.INDEX_KEYS, key ≠ "wildfire_hazard_index" := by decide
  exact hcode ▸ hne p.1 (hvalues p hp)

theorem wrrasExposure_puts : Meets (fun _ => True)
    (fun out => Puts (fun x => 0 ≤ x ∧ x ≤ 1) out "wildfire_exposure_index")
    (Wrras.Exposure.compute inputs) := by
  cases hout : Wrras.Exposure.compute inputs with
  | error e => trivial
  | ok out =>
    obtain ⟨hread, hvalue⟩ := Wrras.exposure_ok hout
    refine ⟨_, hvalue, roundTo_average_mem (List.forall_mem_map.mpr fun c hc => ?_)⟩
    obtain ⟨e, t, he, ht, hamounts⟩ := hread c hc
    rw [readNumber_of_lookup he, readNumber_of_lookup ht]
    exact Wrras.exposureRatio_mem hamounts

/-- The codes of the stage, in their order. -/
def WILDFIRE_VULNERABILITY_CODES : List String :=
  Wrras.Vulnerability.DIMENSIONS.map Prod.fst ++ ["wildfire_vulnerability_index"] ++
    Wrras.Vulnerability.SUB_INDEX_KEYS.map Prod.fst ++ ["wildfire_insecurity_index"]

/-- Everything the stage puts out lies between 0 and 1, under its own code. -/
theorem wrrasVulnerability_puts : Meets (fun _ => True)
    (fun out => ∀ code ∈ WILDFIRE_VULNERABILITY_CODES,
      Puts (fun x => 0 ≤ x ∧ x ≤ 1) out code) (Wrras.Vulnerability.compute inputs) := by
  refine (meets_any _).bind fun data _ => ?_
  refine Meets.bind (P := fun r => (r.1.map Prod.fst = Wrras.Vulnerability.DIMENSIONS.map Prod.fst ∧
    ∀ s ∈ r.1, 0 ≤ s.2 ∧ s.2 ≤ 1) ∧ 0 ≤ r.2 ∧ r.2 ≤ 1) ?_ fun dimensions hdimensions => ?_
  · refine (scores_puts fun d _ => dimensionScore_puts).bind fun scores hscores => ⟨hscores, ?_⟩
    exact roundTo_average_mem (List.forall_mem_map.mpr hscores.2)
  refine (meets_any _).bind fun data _ => ?_
  refine Meets.bind (P := fun r =>
    (r.1.map Prod.fst = Wrras.Vulnerability.SUB_INDEX_KEYS.map Prod.fst ∧
      ∀ s ∈ r.1, 0 ≤ s.2 ∧ s.2 ≤ 1) ∧ 0 ≤ r.2 ∧ r.2 ≤ 1) ?_ fun parts hparts => ?_
  · refine (meets_any _).bind fun wvi _ => ?_
    exact (scores_puts fun s _ => subScore_puts).bind fun scores hscores =>
      ⟨hscores, roundTo_clampUnit_mem 4 _⟩
  refine puts_of_codes ?_ (by decide) fun i hi => ?_
  · simp only [List.map_append, List.map_map, Function.comp_def, List.map_cons, List.map_nil]
    rw [WILDFIRE_VULNERABILITY_CODES, ← hdimensions.1.1, ← hparts.1.1]
  · simp only [List.mem_append, List.mem_map, List.mem_singleton] at hi
    rcases hi with ((⟨d, hd, rfl⟩ | rfl) | ⟨s, hs, rfl⟩) | rfl
    · exact hdimensions.1.2 d hd
    · exact hdimensions.2
    · exact hparts.1.2 s hs
    · exact hparts.2

end Wildfire

end GeoRisk.Analysis
