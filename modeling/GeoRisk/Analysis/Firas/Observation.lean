import GeoRisk.Analysis.Firas.Calculators
import GeoRisk.Analysis.Reading

/-! What the two stages that are compared with a history read of an observation and of the rows of the
    history, and what they put out:

        observation: 12 indicators in [0, 1]        row: the same, 5 scores, and the vulnerability
                     16 indicators, any numbers          under its own key or the one it had as an input

    Given these the vulnerability stage returns, whatever the logarithm is; and what it returns for
    was an observation. -/

namespace GeoRisk.Analysis.Firas

open Strategies Lib

variable {α : Type} [Field α] [LinearOrder α] [FloorRing α] {log : α → α}
  {allowed : ComputeError α → Prop} {inputs record : RawInputs α} {historical : List (RawInputs α)}
  {keys : List String} {xs : List α}

/-! ### Weighted sums -/

section Sums

omit [Field α] [LinearOrder α] [FloorRing α] in
theorem rowOf_ok (h : NumbersAt record keys xs) : rowOf record keys = .ok (xs.map .number) := by
  induction h with
  | nil => rfl
  | cons hx _ ih =>
    rw [rowOf] at ih ⊢
    rw [List.mapM_cons, item_ok.mpr hx, ih]
    rfl

omit [Field α] [LinearOrder α] [FloorRing α] in
theorem rowOf_congr (h : ∀ key ∈ keys, inputs.lookup key = record.lookup key) :
    rowOf inputs keys = rowOf record keys := by
  unfold rowOf
  refine Lib.mapM_congr fun key hkey => ?_
  rw [item, item, h key hkey]

omit [Field α] [LinearOrder α] [FloorRing α] in
theorem rowsOf_ok {past : List (List α)}
    (h : List.Forall₂ (fun record row => NumbersAt record keys row) historical past) :
    (historical.mapM fun record => rowOf record keys) = .ok (past.map (·.map .number)) :=
  Lib.mapM_ok.mpr (List.forall₂_map_right_iff.mpr (h.imp fun _ _ h => rowOf_ok h))

omit [LinearOrder α] [FloorRing α] in
theorem weightedSum_ok (weights xs : List α) :
    weightedSum weights (xs.map .number) = .ok (List.zipWith (· * ·) weights xs).sum := by
  rw [weightedSum, toNumber_map_ok]
  rfl

/-- What each of some columns weighs on a first observation. -/
def equalWeight (m : ℕ) : α := Lib.roundTo 6 (1 / m)

/-- The weights of rows of numbers; a single row weighs its entries equally. -/
def rowWeights (log : α → α) (m : ℕ) (rows : List (List α)) : List α :=
  if rows.length < 2 then List.replicate m (equalWeight m) else weightsOfRows log m rows

theorem weightsOfRaw_ok (log : α → α) (m : ℕ) (rows : List (List α)) :
    weightsOfRaw log m (rows.map (·.map .number)) = .ok (rowWeights log m rows) := by
  have hrows : (rows.map (·.map .number)).mapM (·.mapM RawValue.toNumber) = .ok rows := by
    induction rows with
    | nil => rfl
    | cons row rows ih =>
      rw [List.map_cons, List.mapM_cons, toNumber_map_ok, ih]
      rfl
  rw [weightsOfRaw, rowWeights, List.length_map]
  split
  · rfl
  · rw [hrows]
    rfl

/-- Rows of numbers can be weighed. -/
theorem weightsOfRaw_meets {m : ℕ} {rows : List (List (RawValue α))}
    (h : ∀ row ∈ rows, ∀ v ∈ row, IsNumber v) :
    Meets allowed (fun _ => True) (weightsOfRaw log m rows) := by
  refine Meets.ite (fun _ => trivial) fun _ => ?_
  exact (Meets.mapM fun row hrow => numbers_meets (h row hrow)).bind fun _ _ => trivial

end Sums

/-! ### Parts of insecurity -/

section Parts

theorem subScore_congr {data : RawInputs α} {f : RawInputs α → RawInputs α}
    (hdata : ∀ key ∈ keys, data.lookup key = inputs.lookup key)
    (hpast : ∀ record, ∀ key ∈ keys, (f record).lookup key = record.lookup key) :
    Vulnerability.subScore log data (historical.map f) keys =
      Vulnerability.subScore log inputs historical keys := by
  have hrows : ((historical.map f).mapM fun record => rowOf record keys) =
      historical.mapM fun record => rowOf record keys := by
    rw [List.mapM_map]
    exact Lib.mapM_congr fun record _ => rowOf_congr (hpast record)
  rw [Vulnerability.subScore, Vulnerability.subScore, hrows, rowOf_congr hdata]

/-- A part of insecurity, of numbers: what the rows weigh, summed up. -/
theorem subScore_ok {past : List (List α)} (hxs : NumbersAt inputs keys xs)
    (hpast : List.Forall₂ (fun record row => NumbersAt record keys row) historical past) :
    Vulnerability.subScore log inputs historical keys =
      .ok (Lib.roundTo 6
        (List.zipWith (· * ·) (rowWeights log keys.length (past ++ [xs])) xs).sum) := by
  have hall : past.map (·.map RawValue.number) ++ [xs.map .number] =
      (past ++ [xs]).map (·.map .number) := by simp
  rw [Vulnerability.subScore, rowsOf_ok hpast]
  change (rowOf inputs keys >>= _) = _
  rw [rowOf_ok hxs]
  change (weightsOfRaw _ _ (past.map (·.map RawValue.number) ++ [xs.map .number]) >>= _) = _
  rw [hall, weightsOfRaw_ok]
  change (weightedSum _ _ >>= _) = _
  rw [weightedSum_ok]
  rfl

omit [Field α] [LinearOrder α] [FloorRing α] in
/-- Scores come under the codes of their parts. -/
theorem fst_of_mapM {β : Type} {score : String × List String → Computed α β}
    {parts : List (String × List String)} {scores : List (String × β)}
    (h : (parts.mapM fun s => do return (s.1, ← score s)) = .ok scores) :
    scores.map Prod.fst = parts.map Prod.fst := by
  induction Lib.mapM_ok.mp h with
  | nil => rfl
  | cons hp hrest ih =>
    obtain ⟨x, -, hp⟩ := Lib.bind_ok.mp hp
    cases hp
    rw [List.map_cons, List.map_cons, ih (Lib.mapM_ok.mpr hrest)]

/-- The key under which insecurity reads the vulnerability. -/
abbrev INPUT_KEY : String := "flood_vulnerability_index_input"

omit [Field α] [LinearOrder α] [FloorRing α] in
/-- A row of the history with the vulnerability it had: the other keys are as they were. -/
theorem lookup_forInsecurity {key : String} (hkey : key ≠ INPUT_KEY) :
    (Vulnerability.forInsecurity record).lookup key = record.lookup key := by
  rw [Vulnerability.forInsecurity, lookup_setItem, if_neg hkey]

theorem ne_inputKey : ∀ s ∈ Vulnerability.SUB_INDEX_KEYS, ∀ key ∈ s.1 :: s.2, key ≠ INPUT_KEY := by
  decide

theorem mem_insecurity {s : String × List String} (hs : s ∈ Vulnerability.SUB_INDEX_KEYS)
    {key : String} (hkey : key ∈ s.2) : key ∈ Vulnerability.INSECURITY_INDICATORS :=
  List.mem_flatMap.mpr ⟨s, hs, hkey⟩

/-- The parts of what insecurity is given are those of the inputs. -/
theorem subScore_given {data : RawInputs α} {value : RawValue α} {s : String × List String}
    (hs : s ∈ Vulnerability.SUB_INDEX_KEYS)
    (h : ∀ key ∈ Vulnerability.INSECURITY_INDICATORS, data.lookup key = inputs.lookup key) :
    Vulnerability.subScore log (setItem data INPUT_KEY value)
        (historical.map Vulnerability.forInsecurity) s.2 =
      Vulnerability.subScore log inputs historical s.2 := by
  have hne : ∀ key ∈ s.2, key ≠ INPUT_KEY := fun key hkey =>
    ne_inputKey s hs key (List.mem_cons_of_mem _ hkey)
  refine subScore_congr (fun key hkey => ?_) fun record key hkey =>
    lookup_forInsecurity (hne key hkey)
  rw [lookup_setItem, if_neg (hne key hkey), h key (mem_insecurity hs hkey)]

omit [LinearOrder α] [FloorRing α] in
theorem insecurityRow_meets (hscores : ∀ s ∈ Vulnerability.SUB_INDEX_KEYS, HasNumber record s.1)
    (hindex : HasNumber record INPUT_KEY) :
    Meets allowed (fun row => ∀ v ∈ row, IsNumber v) (Vulnerability.insecurityRow record) := by
  refine Meets.bind (Meets.mapM (R := fun _ v => IsNumber v) fun s hs => ?_) fun parts hparts => ?_
  · refine (item_meets (hscores s hs)).bind fun v hv => ?_
    exact (toNumber_meets hv.2).bind fun x _ => ⟨1 - x, rfl⟩
  · refine (item_meets hindex).bind fun v hv => fun w hw => ?_
    rcases List.mem_append.mp hw with hw | hw
    · exact (exists_of_forall₂ hparts hw).choose_spec.2
    · exact List.mem_singleton.mp hw ▸ hv.2

end Parts

/-! ### The vulnerability stage -/

section Vulnerability

/-- What the stage puts out. -/
def indicatorsOf (fvi : α) (weights : List α) (scores : List (String × α)) (fii : α) :
    List (Strategies.Indicator α) :=
  [{ code := "flood_vulnerability_index", value := fvi, unit := "index" }] ++
    List.zipWith (fun p w =>
      { code := "fvi_weight_" ++ p.1, value := w, subIndex := some "weights" })
      Vulnerability.VULNERABILITY_INDICATORS weights ++
    scores.map (fun s => { code := s.1, value := s.2, subIndex := some "fii" }) ++
    [{ code := "flood_insecurity_index", value := fii, unit := "index" }]

variable [IsStrictOrderedRing α] {S : String × List String → α → Prop}

/-- The parts, and the index, of parts that are each computed. -/
theorem computeInsecurity_meets
    (hparts : ∀ s ∈ Vulnerability.SUB_INDEX_KEYS,
      Meets allowed (S s) (Vulnerability.subScore log inputs historical s.2))
    (hindex : HasNumber inputs INPUT_KEY)
    (hpast : ∀ record ∈ historical,
      (∀ s ∈ Vulnerability.SUB_INDEX_KEYS, HasNumber record s.1) ∧ HasNumber record INPUT_KEY) :
    Meets allowed (fun r => List.Forall₂ (fun s p => p.1 = s.1 ∧ S s p.2)
        Vulnerability.SUB_INDEX_KEYS r.1 ∧ 0 ≤ r.2 ∧ r.2 ≤ 1)
      (Vulnerability.computeInsecurity log inputs historical) := by
  refine Meets.bind (Meets.mapM (R := fun s (p : String × α) => p.1 = s.1 ∧ S s p.2) fun s hs =>
    (hparts s hs).bind fun x hx => ⟨rfl, hx⟩) fun scores hscores => ?_
  refine Meets.bind (Meets.mapM fun record hrecord => insecurityRow_meets (hpast record hrecord).1
    (hpast record hrecord).2) fun past hpastRows => ?_
  refine (item_meets hindex).bind fun fvi hfvi => ?_
  have hcurrent : ∀ v ∈ scores.map (fun s => RawValue.number (1 - s.2)) ++ [fvi], IsNumber v := by
    intro v hv
    rcases List.mem_append.mp hv with hv | hv
    · obtain ⟨s, -, rfl⟩ := List.mem_map.mp hv
      exact ⟨1 - s.2, rfl⟩
    · exact List.mem_singleton.mp hv ▸ hfvi.2
  refine (weightsOfRaw_meets fun row hrow => ?_).bind fun weights _ => ?_
  · rcases List.mem_append.mp hrow with hrow | hrow
    · exact (exists_of_forall₂ hpastRows hrow).choose_spec.2
    · exact List.mem_singleton.mp hrow ▸ hcurrent
  · refine Meets.bind (P := fun _ => True) ((numbers_meets hcurrent).bind fun _ _ => trivial)
      fun total _ => ⟨hscores, ?_⟩
    exact roundTo_mem (clampUnit_mem total)

omit [IsStrictOrderedRing α] in
theorem transformedRow_congr (h : ∀ p ∈ Vulnerability.VULNERABILITY_INDICATORS,
    inputs.lookup p.1 = record.lookup p.1) :
    Vulnerability.transformedRow inputs = Vulnerability.transformedRow record := by
  refine Lib.mapM_congr fun p hp => ?_
  rw [item, item, h p hp]

omit [IsStrictOrderedRing α] in
theorem weightsOfRows_length {m : ℕ} {rows : List (List α)} (h : rows ≠ []) :
    (weightsOfRows log m rows).length = m := by
  have hlen : rows.length ≠ 0 := fun hzero => h (List.length_eq_zero_iff.mp hzero)
  rw [weightsOfRows, computeWeights, if_neg hlen, List.length_ofFn]

/-- The stage, of entries that are all there, rows whose vulnerability is computed, and parts that
    are. -/
theorem vulnerability_meets
    (hrows : ∀ record ∈ inputs :: historical,
      Meets allowed (fun _ => True) (Vulnerability.transformedRow record))
    (hcurrent : ∀ key ∈ Vulnerability.VULNERABILITY_INDICATORS.map Prod.fst, HasNumber inputs key)
    (hinsecurity : ∀ key ∈ Vulnerability.INSECURITY_INDICATORS, HasNumber inputs key)
    (hparts : ∀ s ∈ Vulnerability.SUB_INDEX_KEYS,
      Meets allowed (S s) (Vulnerability.subScore log inputs historical s.2))
    (hpast : ∀ record ∈ historical, (∀ s ∈ Vulnerability.SUB_INDEX_KEYS, HasNumber record s.1) ∧
      HasNumber (Vulnerability.forInsecurity record) INPUT_KEY) :
    Meets allowed (fun out => ∃ fvi weights scores fii, out = indicatorsOf fvi weights scores fii ∧
        (0 ≤ fvi ∧ fvi ≤ 1) ∧ weights.length = Vulnerability.VULNERABILITY_INDICATORS.length ∧
        List.Forall₂ (fun s p => p.1 = s.1 ∧ S s p.2) Vulnerability.SUB_INDEX_KEYS scores ∧
        0 ≤ fii ∧ fii ≤ 1)
      (Vulnerability.compute log inputs historical) := by
  refine (entries_meets hcurrent).bind fun data hdata => ?_
  refine Meets.bind (P := fun r => (0 ≤ r.1 ∧ r.1 ≤ 1) ∧
    r.2.length = Vulnerability.VULNERABILITY_INDICATORS.length) ?_ fun fvi hfvi => ?_
  · refine (Meets.mapM fun record hrecord => hrows record (List.mem_cons_of_mem _ hrecord)).bind
      fun past _ => ?_
    rw [transformedRow_congr fun p hp => lookup_of_entries hdata (List.mem_map_of_mem hp)]
    refine (hrows inputs (by simp)).bind fun current _ => ?_
    exact ⟨roundTo_mem (clampUnit_mem _), weightsOfRows_length (by simp)⟩
  refine (entries_meets hinsecurity).bind fun insecurity hread => ?_
  refine Meets.bind (computeInsecurity_meets (S := S) (fun s hs => ?_) ?_ fun record hrecord => ?_)
    fun r hr => ⟨fvi.1, fvi.2, r.1, r.2, rfl, hfvi.1, hfvi.2, hr⟩
  · rw [subScore_given hs fun key hkey => lookup_of_entries hread hkey]
    exact hparts s hs
  · exact ⟨.number fvi.1, by rw [lookup_setItem, if_pos rfl], fvi.1, rfl⟩
  · obtain ⟨row, hrow, rfl⟩ := List.mem_map.mp hrecord
    refine ⟨fun s hs => ?_, (hpast row hrow).2⟩
    rw [HasNumber, lookup_forInsecurity (ne_inputKey s hs s.1 List.mem_cons_self)]
    exact (hpast row hrow).1 s hs

end Vulnerability

/-! ### Observations -/

section Observation

/-- What the vulnerability stage can read. -/
structure Observation (inputs : RawInputs α) : Prop where
  vulnerability : ∀ p ∈ Vulnerability.VULNERABILITY_INDICATORS,
    ∃ x, inputs.lookup p.1 = some (.number x) ∧ 0 ≤ x ∧ x ≤ 1
  insecurity : ∀ key ∈ Vulnerability.INSECURITY_INDICATORS, HasNumber inputs key

/-- What it can read as a row of the history. -/
structure PastObservation (record : RawInputs α) : Prop extends Observation record where
  scores : ∀ s ∈ Vulnerability.SUB_INDEX_KEYS, HasNumber record s.1
  index : HasNumber (Vulnerability.forInsecurity record) INPUT_KEY

/-- The score of a part, of the numbers under its keys in the history and in the inputs. -/
def IsPartScore (log : α → α) (inputs : RawInputs α) (historical : List (RawInputs α))
    (keys : List String) (x : α) : Prop :=
  ∀ xs past, NumbersAt inputs keys xs →
    List.Forall₂ (fun record row => NumbersAt record keys row) historical past →
    x = Lib.roundTo 6 (List.zipWith (· * ·) (rowWeights log keys.length (past ++ [xs])) xs).sum

omit [FloorRing α] in
theorem Observation.hasNumber (h : Observation inputs) {key : String}
    (hkey : key ∈ Vulnerability.VULNERABILITY_INDICATORS.map Prod.fst) : HasNumber inputs key := by
  obtain ⟨p, hp, rfl⟩ := List.mem_map.mp hkey
  obtain ⟨x, hx, -⟩ := h.vulnerability p hp
  exact ⟨_, hx, x, rfl⟩

theorem Observation.transformedRow_meets (h : Observation inputs) :
    Meets allowed (fun _ => True) (Vulnerability.transformedRow inputs) := by
  refine (Meets.mapM (R := fun _ _ => True) fun p hp => ?_).post fun _ _ => trivial
  obtain ⟨x, hx, hunit⟩ := h.vulnerability p hp
  rw [item_ok.mpr hx]
  refine Meets.ok_bind ?_
  rw [checkUnit_ok.mpr ⟨rfl, hunit⟩]
  exact trivial

omit [Field α] [LinearOrder α] [FloorRing α] in
/-- The numbers of all rows under some keys. -/
theorem exists_rows (h : ∀ record ∈ historical, ∀ key ∈ keys, HasNumber record key) :
    ∃ past, List.Forall₂ (fun record row => NumbersAt record keys row) historical past := by
  induction historical with
  | nil => exact ⟨[], .nil⟩
  | cons record historical ih =>
    obtain ⟨row, hrow⟩ := exists_numbersAt (h record (by simp))
    obtain ⟨past, hpast⟩ := ih fun r hr => h r (List.mem_cons_of_mem _ hr)
    exact ⟨row :: past, .cons hrow hpast⟩

omit [Field α] [LinearOrder α] [FloorRing α] in
theorem rows_unique {past past' : List (List α)}
    (h : List.Forall₂ (fun record row => NumbersAt record keys row) historical past)
    (h' : List.Forall₂ (fun record row => NumbersAt record keys row) historical past') :
    past = past' := by
  induction h generalizing past' with
  | nil => cases h'; rfl
  | cons hrow _ ih =>
    cases h' with
    | cons hrow' hrest' => rw [hrow.unique hrow', ih hrest']

/-- A part of an observation has a score. -/
theorem subScore_meets_of_numbers (hinputs : ∀ key ∈ keys, HasNumber inputs key)
    (hpast : ∀ record ∈ historical, ∀ key ∈ keys, HasNumber record key) :
    Meets allowed (IsPartScore log inputs historical keys)
      (Vulnerability.subScore log inputs historical keys) := by
  obtain ⟨xs, hxs⟩ := exists_numbersAt hinputs
  obtain ⟨past, hrows⟩ := exists_rows hpast
  rw [subScore_ok hxs hrows]
  intro xs' past' hxs' hrows'
  obtain rfl := hxs.unique hxs'
  rw [rows_unique hrows hrows']

variable [IsStrictOrderedRing α]

/-- The stage returns for an observation, over a history of past observations. -/
theorem vulnerability_returns (h : Observation inputs)
    (hpast : ∀ record ∈ historical, PastObservation record) :
    ∃ fvi weights scores fii,
      Vulnerability.compute log inputs historical = .ok (indicatorsOf fvi weights scores fii) ∧
      (0 ≤ fvi ∧ fvi ≤ 1) ∧ weights.length = Vulnerability.VULNERABILITY_INDICATORS.length ∧
      List.Forall₂ (fun s p => p.1 = s.1 ∧ IsPartScore log inputs historical s.2 p.2)
        Vulnerability.SUB_INDEX_KEYS scores ∧ 0 ≤ fii ∧ fii ≤ 1 := by
  have hrows : ∀ record ∈ inputs :: historical,
      Meets (fun _ => False) (fun _ => True) (Vulnerability.transformedRow record) := by
    intro record hrecord
    rcases List.mem_cons.mp hrecord with rfl | hrecord
    · exact h.transformedRow_meets
    · exact (hpast record hrecord).transformedRow_meets
  have hparts : ∀ s ∈ Vulnerability.SUB_INDEX_KEYS, Meets (fun _ => False)
      (IsPartScore log inputs historical s.2)
      (Vulnerability.subScore log inputs historical s.2) := by
    intro s hs
    refine subScore_meets_of_numbers (fun key hkey => ?_) fun record hrecord key hkey => ?_
    · exact h.insecurity key (mem_insecurity hs hkey)
    · exact (hpast record hrecord).insecurity key (mem_insecurity hs hkey)
  obtain ⟨out, hout, fvi, weights, scores, fii, rfl, hrest⟩ := Meets.exists_ok
    (vulnerability_meets (S := fun s => IsPartScore log inputs historical s.2) hrows
      (fun key => h.hasNumber) h.insecurity hparts
      fun record hrecord => ⟨(hpast record hrecord).scores, (hpast record hrecord).index⟩)
  exact ⟨fvi, weights, scores, fii, hout, hrest⟩

omit [IsStrictOrderedRing α] in
/-- What it puts out, whatever it was given. -/
theorem vulnerability_shape {out : List (Strategies.Indicator α)}
    (h : Vulnerability.compute log inputs historical = .ok out) :
    ∃ fvi weights scores fii, out = indicatorsOf fvi weights scores fii ∧
      weights.length = Vulnerability.VULNERABILITY_INDICATORS.length ∧
      scores.map Prod.fst = Vulnerability.SUB_INDEX_KEYS.map Prod.fst := by
  obtain ⟨data, -, h⟩ := Lib.bind_ok.mp h
  obtain ⟨⟨fvi, weights⟩, hfvi, h⟩ := Lib.bind_ok.mp h
  obtain ⟨insecurity, -, h⟩ := Lib.bind_ok.mp h
  obtain ⟨⟨scores, fii⟩, hr, h⟩ := Lib.bind_ok.mp h
  refine ⟨fvi, weights, scores, fii, (Except.ok.inj h).symm, ?_, ?_⟩
  · obtain ⟨past, -, hfvi⟩ := Lib.bind_ok.mp hfvi
    obtain ⟨current, -, hfvi⟩ := Lib.bind_ok.mp hfvi
    cases hfvi
    exact weightsOfRows_length (by simp)
  · obtain ⟨parts, hparts, hr⟩ := Lib.bind_ok.mp hr
    obtain ⟨past, -, hr⟩ := Lib.bind_ok.mp hr
    obtain ⟨index, -, hr⟩ := Lib.bind_ok.mp hr
    obtain ⟨weights, -, hr⟩ := Lib.bind_ok.mp hr
    obtain ⟨total, -, hr⟩ := Lib.bind_ok.mp hr
    cases hr
    exact fst_of_mapM hparts

end Observation

/-! ### Resilience -/

section Resilience

/-- What the resilience stage puts out. -/
def resilienceIndicators (weights : List α) (cri : α) : List (Strategies.Indicator α) :=
  List.zipWith (fun k w => { code := k.2, value := w, subIndex := some "weights" })
      Resilience.SUB_INDEX_KEYS weights ++
    [{ code := "community_resilience_index", value := cri, unit := "index" }]

variable [IsStrictOrderedRing α]

/-- The stage returns for scores, over a history of scores. -/
theorem resilience_meets (h : ∀ record ∈ inputs :: historical,
    ∀ k ∈ Resilience.SUB_INDEX_KEYS, HasNumber record k.1) :
    Meets allowed (fun out => ∃ weights cri, out = resilienceIndicators weights cri ∧
        0 ≤ cri ∧ cri ≤ 1) (Resilience.compute log inputs historical) := by
  have hrow : ∀ record : RawInputs α, (∀ k ∈ Resilience.SUB_INDEX_KEYS, HasNumber record k.1) →
      Meets allowed (fun row => ∀ v ∈ row, IsNumber v)
        (rowOf record (Resilience.SUB_INDEX_KEYS.map (·.1))) := by
    intro record hrecord
    refine (Meets.mapM (R := fun _ v => IsNumber v) fun key hkey => ?_).post
      fun row hrow v hv => (exists_of_forall₂ hrow hv).choose_spec.2
    obtain ⟨k, hk, rfl⟩ := List.mem_map.mp hkey
    exact (item_meets (hrecord k hk)).post fun v hv => hv.2
  refine (entries_meets (List.forall_mem_map.mpr (h inputs (by simp)))).bind fun data hdata => ?_
  refine Meets.bind (P := fun r => 0 ≤ r.2 ∧ r.2 ≤ 1) ?_ fun r hr => ⟨r.1, r.2, rfl, hr⟩
  refine (Meets.mapM fun record hrecord =>
    hrow record (h record (List.mem_cons_of_mem _ hrecord))).bind fun past hpast => ?_
  refine (hrow data fun k hk => hasNumber_of_entries hdata (List.mem_map_of_mem hk)).bind
    fun current hcurrent => ?_
  refine (weightsOfRaw_meets fun row hrow => ?_).bind fun weights _ => ?_
  · rcases List.mem_append.mp hrow with hrow | hrow
    · exact (exists_of_forall₂ hpast hrow).choose_spec.2
    · exact List.mem_singleton.mp hrow ▸ hcurrent
  · exact Meets.bind (P := fun _ => True) ((numbers_meets hcurrent).bind fun _ _ => trivial)
      fun total _ => roundTo_mem (clampUnit_mem total)

omit [IsStrictOrderedRing α] in
/-- What it returns for were scores. -/
theorem scores_of_compute {out : List (Strategies.Indicator α)}
    (h : Resilience.compute log inputs historical = .ok out) :
    ∀ k ∈ Resilience.SUB_INDEX_KEYS, HasNumber inputs k.1 := by
  intro k hk
  obtain ⟨data, hdata, h⟩ := Lib.bind_ok.mp h
  obtain ⟨r, hr, -⟩ := Lib.bind_ok.mp h
  obtain ⟨past, -, hr⟩ := Lib.bind_ok.mp hr
  obtain ⟨current, hcurrent, hr⟩ := Lib.bind_ok.mp hr
  obtain ⟨weights, -, hr⟩ := Lib.bind_ok.mp hr
  obtain ⟨total, htotal, -⟩ := Lib.bind_ok.mp hr
  obtain ⟨numbers, hnumbers, -⟩ := Lib.bind_ok.mp htotal
  have hkey := List.mem_map_of_mem (f := (·.1)) hk
  obtain ⟨v, hv, hitem⟩ := Lib.exists_of_mapM_ok hcurrent _ hkey
  have hlookup : inputs.lookup k.1 = some v := by
    rw [← lookup_entries hdata hkey, item_ok.mp hitem]
  exact .of_lookup hlookup (isNumber_of_numbers hnumbers v hv)

omit [IsStrictOrderedRing α] in
theorem resilience_shape {out : List (Strategies.Indicator α)}
    (h : Resilience.compute log inputs historical = .ok out) :
    ∃ weights cri, out = resilienceIndicators weights cri := by
  obtain ⟨data, -, h⟩ := Lib.bind_ok.mp h
  obtain ⟨⟨weights, cri⟩, -, h⟩ := Lib.bind_ok.mp h
  exact ⟨weights, cri, (Except.ok.inj h).symm⟩

end Resilience

end GeoRisk.Analysis.Firas
