import Mathlib
import GeoRisk.Geospatial.Geometry
import GeoRisk.Lib.Results

/-! The generation of sample points. A total is split over the labels of the strata, evenly or by
    rounded proportions, and what rounding leaves goes to the largest; then each label draws its
    count of points from one stream of random numbers, by rejection in the box of the area:

        strata ──▶ {label: count} ──▶ count × (≤ 200 tries, else the centre of the box) -/

namespace GeoRisk.Geospatial

inductive SamplingMethod where | stratifiedRandom | simpleRandom
  deriving DecidableEq

inductive AllocationMethod where | proportional | equal
  deriving DecidableEq

inductive OutputFormat where | geojson | csv | shapefile
  deriving DecidableEq

def MIN_SAMPLE_SIZE : ℕ := 1000
def MAX_SAMPLE_SIZE : ℕ := 5000
def DEFAULT_SAMPLE_SIZE : ℕ := 5000
def MIN_PER_CLASS : ℕ := 30
def MAX_ATTEMPTS_PER_POINT : ℕ := 200

/-- A labelled share of the sample, as its constructor accepts it. -/
structure Stratum where
  label : String
  proportion : PyFloat
  accepted : PyFloat.lt 0 proportion && !PyFloat.lt 1 proportion

/-- A strategy as its constructor accepts it. -/
structure SamplingStrategy where
  method : SamplingMethod := .stratifiedRandom
  sampleSize : ℕ := DEFAULT_SAMPLE_SIZE
  minPerClass : ℕ := MIN_PER_CLASS
  allocationMethod : AllocationMethod := .proportional
  randomSeed : ℤ := 12345
  coordinateSystem : String := "EPSG:4326"
  outputFormats : Finset OutputFormat := {.geojson, .csv}
  includeGeometry : Bool := true
  includeClassLabel : Bool := true
  includePixelValues : Bool := false
  size_ok : MIN_SAMPLE_SIZE ≤ sampleSize ∧ sampleSize ≤ MAX_SAMPLE_SIZE := by decide
  formats_ok : outputFormats ≠ ∅ := by decide

structure SamplePointId where
  value : UUID
  deriving DecidableEq

instance : ToString SamplePointId := ⟨fun i => UUID.str i.value⟩

structure SamplePoint where
  id : SamplePointId
  longitude : PyFloat
  latitude : PyFloat
  stratum : Option String := none
  deriving DecidableEq

/-! ### Allocation -/

/-- `round(total * (stratum.proportion / total_proportion))`. -/
def roundedShare (total : ℕ) (totalProportion : PyFloat) (stratum : Stratum) :
    Except GeospatialError ℤ := do
  let quotient ← divide stratum.proportion totalProportion
  (PyFloat.toInt (PyFloat.ofRat total * quotient)).mapError fun message => ⟨.overflowError, message⟩

/-- The shares by proportion; a label given again takes its last share. -/
def roundedShares (strata : List Stratum) (total : ℕ) : Except GeospatialError (List (String × ℤ)) :=
  let totalProportion := PyFloat.sum (strata.map (·.proportion))
  strata.foldlM (fun allocation stratum => do
    return setItem allocation stratum.label (← roundedShare total totalProportion stratum)) []

/-- The even shares, one for each label. -/
def equalShares (strata : List Stratum) (total : ℕ) : List (String × ℤ) :=
  strata.foldl (fun allocation stratum =>
    setItem allocation stratum.label (total / strata.length : ℕ)) []

/-- `max(allocation, key=allocation.get)`: the first of the largest. -/
def largestLabel (allocation : List (String × ℤ)) : Option String :=
  (allocation.foldl (fun best q =>
    match best with
    | none => some q
    | some b => if b.2 < q.2 then some q else some b) none).map Prod.fst

/-- What rounding leaves goes to the largest. -/
def topUp (allocation : List (String × ℤ)) (remainder : ℤ) : List (String × ℤ) :=
  if remainder = 0 then allocation
  else match largestLabel allocation with
    | none => allocation
    | some largest => allocation.map fun q => if q.1 = largest then (q.1, q.2 + remainder) else q

def allocateStratifiedSamples (strata : List Stratum) (total : ℕ)
    (allocationMethod : AllocationMethod) : Except GeospatialError (List (String × ℤ)) :=
  if strata = [] then .ok []
  else match allocationMethod with
    | .equal =>
      .ok (topUp (equalShares strata total) (total - (total / strata.length : ℕ) * strata.length))
    | .proportional => do
      let allocation ← roundedShares strata total
      return topUp allocation (total - (allocation.map Prod.snd).sum)

/-! ### Points -/

/-- `rng.uniform(a, b)` with the next random number. -/
def uniform (a b random : PyFloat) : PyFloat := a + (b - a) * random

/-- Tries in the box, with the stream of random numbers read from `position` on. -/
def tryPoints (geometry : Geometry) (bbox : BoundingBox) (random : ℕ → PyFloat) :
    ℕ → ℕ → Except GeospatialError (Option Position × ℕ)
  | 0, position => .ok (none, position)
  | attempts + 1, position => do
    let lon := uniform bbox.minLon bbox.maxLon (random position)
    let lat := uniform bbox.minLat bbox.maxLat (random (position + 1))
    if ← pointInGeometry lon lat geometry then return (some (lon, lat), position + 2)
    else tryPoints geometry bbox random attempts (position + 2)

def randomPointInBbox (math : Trig) (geometry : Geometry) (random : ℕ → PyFloat) (position : ℕ) :
    Except GeospatialError (Position × ℕ) := do
  let bbox := (← computeAoiStatistics math geometry).bbox
  match ← tryPoints geometry bbox random MAX_ATTEMPTS_PER_POINT position with
  | (some p, position) => return (p, position)
  | (none, position) =>
    -- the centre of the box, wherever the area is
    return ((← divide (bbox.minLon + bbox.maxLon) 2, ← divide (bbox.minLat + bbox.maxLat) 2), position)

/-- The points drawn so far, and how far the stream has been read. -/
structure Draw where
  points : List SamplePoint := []
  position : ℕ := 0

section Generators

variable (math : Trig) (geometry : Geometry) (random : ℕ → PyFloat) (ids : ℕ → SamplePointId)

/-- `count` points with one label, under the next fresh ids. -/
def drawPoints (stratum : Option String) : ℕ → Draw → Except GeospatialError Draw
  | 0, draw => .ok draw
  | count + 1, draw => do
    let ((longitude, latitude), position) ← randomPointInBbox math geometry random draw.position
    drawPoints stratum count {
      points := draw.points ++ [{ id := ids draw.points.length, longitude, latitude, stratum }]
      position }

def generateSimpleRandomSamples (count : ℕ) : Except GeospatialError (List SamplePoint) := do
  return (← drawPoints math geometry random ids none count {}).points

def generateStratifiedSamples (strata : List Stratum) (total : ℕ)
    (allocationMethod : AllocationMethod) : Except GeospatialError (List SamplePoint) := do
  let allocation ← allocateStratifiedSamples strata total allocationMethod
  -- a negative count draws nothing
  let draw ← allocation.foldlM (fun draw q => drawPoints math geometry random ids (some q.1) q.2.toNat draw) {}
  return draw.points

end Generators

/-! ### Allocations as dictionaries -/

section Allocation

variable {d alloc : List (String × ℤ)} {strata : List Stratum} {total : ℕ} {remainder : ℤ}
  {method : AllocationMethod}

/-- A dictionary over labels of the strata. -/
structure Labelled (strata : List Stratum) (d : List (String × ℤ)) : Prop where
  nodup : (d.map Prod.fst).Nodup
  label : ∀ q ∈ d, ∃ s ∈ strata, s.label = q.1

theorem Labelled.setItem {stratum : Stratum} (h : Labelled strata d) (hs : stratum ∈ strata)
    (value : ℤ) : Labelled strata (setItem d stratum.label value) := by
  refine ⟨setItem_keys_nodup h.nodup, fun q hq => ?_⟩
  rcases mem_setItem_keys.mp (List.mem_map_of_mem (f := Prod.fst) hq) with hk | hk
  · obtain ⟨q', hq', hk'⟩ := List.mem_map.mp hk
    exact hk' ▸ h.label q' hq'
  · exact ⟨stratum, hs, hk.symm⟩

theorem labelled_nil : Labelled strata [] := ⟨List.nodup_nil, by simp⟩

theorem roundedShares_labelled (h : roundedShares strata total = .ok d) : Labelled strata d := by
  refine Lib.foldlM_inv (P := Labelled strata) (fun s hs b b' hb hstep => ?_) labelled_nil h
  obtain ⟨share, -, hret⟩ := Lib.bind_ok.mp hstep
  cases hret
  exact hb.setItem hs share

/-- The even shares: every label of the strata once, with the same count. -/
theorem equalShares_spec (strata : List Stratum) (total : ℕ) :
    Labelled strata (equalShares strata total) ∧
      (∀ s ∈ strata, s.label ∈ (equalShares strata total).map Prod.fst) ∧
      ∀ q ∈ equalShares strata total, q.2 = (total / strata.length : ℕ) := by
  unfold equalShares
  generalize ((total / strata.length : ℕ) : ℤ) = share
  suffices h : ∀ l : List Stratum, (∀ s ∈ l, s ∈ strata) →
      let d := l.foldl (fun allocation stratum => setItem allocation stratum.label share) []
      Labelled strata d ∧ (∀ s ∈ l, s.label ∈ d.map Prod.fst) ∧ ∀ q ∈ d, q.2 = share from
    h strata fun _ hs => hs
  intro l
  induction l using List.reverseRecOn with
  | nil => exact fun _ => ⟨labelled_nil, by simp, by simp⟩
  | append_singleton l s ih =>
    intro hl
    obtain ⟨hd, hkeys, hvalues⟩ := ih fun s' hs' => hl s' (List.mem_append_left _ hs')
    dsimp only
    rw [List.foldl_concat]
    refine ⟨hd.setItem (hl s (by simp)) share, fun s' hs' => ?_, fun q hq => ?_⟩
    · rw [mem_setItem_keys]
      rcases List.mem_append.mp hs' with hs' | hs'
      · exact .inl (hkeys s' hs')
      · exact .inr (by rw [List.mem_singleton.mp hs'])
    · unfold setItem at hq
      split at hq
      · obtain ⟨q', hq', rfl⟩ := List.mem_map.mp hq
        split
        · rfl
        · exact hvalues q' hq'
      · rcases List.mem_append.mp hq with hq | hq
        · exact hvalues q hq
        · rw [List.mem_singleton.mp hq]

theorem largestLabel_mem {l : String} (h : largestLabel d = some l) : l ∈ d.map Prod.fst := by
  obtain ⟨q, hq, rfl⟩ := Option.map_eq_some_iff.mp h
  suffices hmem : q ∈ d from List.mem_map_of_mem hmem
  have hinv : ∀ (d : List (String × ℤ)) (b : Option (String × ℤ)),
      d.foldl (fun best q => match best with
        | none => some q
        | some b => if b.2 < q.2 then some q else some b) b = some q → q ∈ d ∨ b = some q := by
    intro d
    induction d with
    | nil => exact fun b h => .inr h
    | cons p d ih =>
      intro b h
      rw [List.foldl_cons] at h
      rcases ih _ h with h | h
      · exact .inl (List.mem_cons_of_mem _ h)
      · cases b with
        | none => cases h; exact .inl (List.mem_cons_self ..)
        | some b =>
          dsimp only at h
          split at h
          · cases h; exact .inl (List.mem_cons_self ..)
          · exact .inr h
  exact (hinv d none hq).resolve_right (by simp)

theorem exists_largestLabel (h : d ≠ []) : ∃ l, largestLabel d = some l := by
  have hinv : ∀ (d : List (String × ℤ)) (b : Option (String × ℤ)), b.isSome →
      (d.foldl (fun best q => match best with
        | none => some q
        | some b => if b.2 < q.2 then some q else some b) b).isSome := by
    intro d
    induction d with
    | nil => exact fun b h => h
    | cons p d ih =>
      intro b _
      rw [List.foldl_cons]
      refine ih _ ?_
      cases b with
      | none => rfl
      | some b => dsimp only; split <;> rfl
  cases d with
  | nil => exact absurd rfl h
  | cons q d =>
    obtain ⟨b, hb⟩ := Option.isSome_iff_exists.mp (hinv d (some q) rfl)
    exact ⟨b.1, by rw [largestLabel, List.foldl_cons, hb]; rfl⟩

/-! ### The counts add up -/

/-- Counts below zero draw nothing, so the points drawn number the total iff there are none. -/
theorem sum_toNat_eq_iff {zs : List ℤ} (h : zs.sum = total) :
    (zs.map Int.toNat).sum = total ↔ ∀ z ∈ zs, 0 ≤ z := by
  have hle : ∀ zs : List ℤ, zs.sum ≤ ((zs.map Int.toNat).sum : ℕ) ∧
      (((zs.map Int.toNat).sum : ℕ) = zs.sum ↔ ∀ z ∈ zs, 0 ≤ z) := by
    intro zs
    induction zs with
    | nil => simp
    | cons z zs ih =>
      obtain ⟨hle, hiff⟩ := ih
      simp only [List.map_cons, List.sum_cons, List.forall_mem_cons, ← hiff, Nat.cast_add]
      constructor
      · omega
      · constructor <;> omega
  rw [← (hle zs).2, h]
  exact Nat.cast_inj.symm

theorem sum_update {l : String} (hd : (d.map Prod.fst).Nodup) (hl : l ∈ d.map Prod.fst) :
    ((d.map fun q => if q.1 = l then (q.1, q.2 + remainder) else q).map Prod.snd).sum =
      (d.map Prod.snd).sum + remainder := by
  induction d with
  | nil => simp at hl
  | cons q d ih =>
    rw [List.map_cons, List.nodup_cons] at hd
    by_cases hq : q.1 = l
    · have hsame : d.map (fun q => if q.1 = l then (q.1, q.2 + remainder) else q) = d := by
        refine (List.map_congr_left fun p hp => ?_).trans (List.map_id _)
        rw [if_neg, id]
        rintro rfl
        exact hd.1 (hq ▸ List.mem_map_of_mem hp)
      rw [List.map_cons, List.map_cons, hsame, if_pos hq, List.sum_cons, List.map_cons, List.sum_cons]
      ring
    · have hl' : l ∈ d.map Prod.fst := by simpa [Ne.symm hq] using hl
      rw [List.map_cons, List.map_cons, List.sum_cons, ih hd.2 hl', if_neg hq, List.map_cons,
        List.sum_cons]
      ring

/-- The counts of the other labels. -/
def others (l : String) (d : List (String × ℤ)) : List (String × ℤ) := d.filter (·.1 ≠ l)

theorem sum_split {l : String} {v : ℤ} (hd : (d.map Prod.fst).Nodup) (hl : (l, v) ∈ d) :
    (d.map Prod.snd).sum = v + ((others l d).map Prod.snd).sum := by
  induction d with
  | nil => simp at hl
  | cons q d ih =>
    rw [List.map_cons, List.nodup_cons] at hd
    rcases List.mem_cons.mp hl with rfl | hl
    · have hsame : others l d = d := by
        refine List.filter_eq_self.mpr fun p hp => ?_
        simp only [ne_eq, decide_not, Bool.not_eq_eq_eq_not, Bool.not_true, decide_eq_false_iff_not]
        rintro rfl
        exact hd.1 (List.mem_map.mpr ⟨p, hp, rfl⟩)
      have hcons : others l ((l, v) :: d) = others l d := by simp [others]
      rw [hcons, hsame, List.map_cons, List.sum_cons]
    · have hne : q.1 ≠ l := by
        rintro rfl
        exact hd.1 (List.mem_map.mpr ⟨_, hl, rfl⟩)
      have hcons : others l (q :: d) = q :: others l d := by simp [others, hne]
      rw [hcons, List.map_cons, List.sum_cons, List.map_cons, List.sum_cons, ih hd.2 hl]
      ring

theorem topUp_eq {l : String} (hl : largestLabel d = some l) : topUp d remainder =
    d.map fun q => if q.1 = l then (q.1, q.2 + remainder) else q := by
  unfold topUp
  split
  · next h0 =>
    refine ((List.map_congr_left fun q _ => ?_).trans (List.map_id _)).symm
    rw [h0]; simp
  · simp only [hl]

/-- The rounded shares of all labels but the largest are counts that leave something of the total. -/
def SharesFit (d : List (String × ℤ)) (total : ℕ) : Prop :=
  ∀ l, largestLabel d = some l →
    (∀ q ∈ others l d, 0 ≤ q.2) ∧ ((others l d).map Prod.snd).sum ≤ total

/-- Once topped up to the total, the shares are counts iff they fit. -/
theorem topUp_counts_iff (hd : (d.map Prod.fst).Nodup) (hne : d ≠ []) :
    (∀ z ∈ (topUp d (total - (d.map Prod.snd).sum)).map Prod.snd, 0 ≤ z) ↔ SharesFit d total := by
  obtain ⟨l, hl⟩ := exists_largestLabel hne
  obtain ⟨⟨l', v⟩, hq, rfl⟩ := List.mem_map.mp (largestLabel_mem hl)
  have hsplit : (d.map Prod.snd).sum = v + ((others l' d).map Prod.snd).sum := sum_split hd hq
  have hv : ∀ q ∈ d, q.1 = l' → q.2 = v := fun q hq' hk =>
    congrArg Prod.snd (List.inj_on_of_nodup_map hd hq' hq hk)
  have hothers : ∀ q, q ∈ others l' d ↔ q ∈ d ∧ q.1 ≠ l' := fun q => by simp [others]
  rw [topUp_eq hl, List.map_map]
  simp only [List.forall_mem_map, Function.comp]
  constructor
  · intro h l'' hl''
    obtain rfl : l' = l'' := by rw [hl] at hl''; exact Option.some.inj hl''
    refine ⟨fun q hq' => ?_, ?_⟩
    · obtain ⟨hqd, hne'⟩ := (hothers q).mp hq'
      simpa [hne'] using h q hqd
    · have := h _ hq
      simp only [if_true] at this
      show ((others l' d).map Prod.snd).sum ≤ total
      omega
  · intro h q hqd
    obtain ⟨hnonneg, hsum⟩ := h l' hl
    split
    · next hk =>
      rw [hv q hqd hk]
      show (0 : ℤ) ≤ v + _
      omega
    · next hk => exact hnonneg q ((hothers q).mpr ⟨hqd, hk⟩)

/-- The strata split the total without loss: evenly when their labels differ or outnumber it, by
    proportion when the rounded shares fit. -/
def Apportionable (strata : List Stratum) (total : ℕ) : AllocationMethod → Prop
  | .equal => (strata.map (·.label)).Nodup ∨ total < strata.length
  | .proportional => ∀ d, roundedShares strata total = .ok d → SharesFit d total

theorem topUp_keys (d : List (String × ℤ)) (remainder : ℤ) :
    (topUp d remainder).map Prod.fst = d.map Prod.fst := by
  unfold topUp
  split
  · rfl
  · split
    · rfl
    · next l hl =>
      rw [List.map_map]
      refine List.map_congr_left fun q _ => ?_
      by_cases hq : q.1 = l <;> simp [hq]

theorem allocate_labelled (h : allocateStratifiedSamples strata total method = .ok alloc) :
    Labelled strata alloc := by
  have htopUp : ∀ {d r}, Labelled strata d → Labelled strata (topUp d r) := by
    intro d r hd
    refine ⟨topUp_keys d r ▸ hd.nodup, fun q hq => ?_⟩
    have hk : q.1 ∈ d.map Prod.fst := topUp_keys d r ▸ List.mem_map_of_mem hq
    obtain ⟨q', hq', hk'⟩ := List.mem_map.mp hk
    exact hk' ▸ hd.label q' hq'
  unfold allocateStratifiedSamples at h
  split at h
  · cases h; exact labelled_nil
  · cases method with
    | equal => cases h; exact htopUp (equalShares_spec strata total).1
    | proportional =>
      obtain ⟨d, hd, hret⟩ := Lib.bind_ok.mp h
      cases hret
      exact htopUp (roundedShares_labelled hd)

/-- The number of labels that the even shares are given to. -/
theorem equalShares_length (strata : List Stratum) (total : ℕ) :
    (equalShares strata total).length = (strata.map (·.label)).toFinset.card := by
  obtain ⟨hlab, hkeys, -⟩ := equalShares_spec strata total
  rw [← List.length_map Prod.fst, ← List.toFinset_card_of_nodup hlab.nodup]
  congr 1
  ext l
  simp only [List.mem_toFinset]
  constructor
  · intro hl
    obtain ⟨q, hq, rfl⟩ := List.mem_map.mp hl
    obtain ⟨s, hs, hsl⟩ := hlab.label q hq
    exact List.mem_map.mpr ⟨s, hs, hsl⟩
  · intro hl
    obtain ⟨s, hs, rfl⟩ := List.mem_map.mp hl
    exact hkeys s hs

theorem equal_counts (hne : strata ≠ [])
    (h : allocateStratifiedSamples strata total .equal = .ok alloc) :
    (alloc.map (·.2.toNat)).sum = total ↔ Apportionable strata total .equal := by
  have hlen : 0 < strata.length := List.length_pos_of_ne_nil hne
  rw [allocateStratifiedSamples, if_neg hne] at h
  cases h
  obtain ⟨hlab, hkeys, hvalues⟩ := equalShares_spec strata total
  have hcard := equalShares_length strata total
  generalize equalShares strata total = d at *
  have hshare0 : total < strata.length ↔ total / strata.length = 0 := by
    rw [Nat.div_eq_zero_iff]; omega
  obtain ⟨r, hdiv⟩ : ∃ r, total / strata.length * strata.length + r = total :=
    ⟨total % strata.length, by rw [Nat.mul_comm]; exact Nat.div_add_mod total strata.length⟩
  generalize total / strata.length = share at *
  have hrem : (total : ℤ) - (share : ℕ) * strata.length = (r : ℕ) := by
    rw [← hdiv]; push_cast; ring
  have hne' : d ≠ [] := by
    rintro rfl
    obtain ⟨s, hs⟩ := List.exists_mem_of_ne_nil strata hne
    simpa using hkeys s hs
  obtain ⟨l, hl⟩ := exists_largestLabel hne'
  rw [hrem, topUp_eq hl]
  have hsumd : (d.map Prod.snd).sum = (share * d.length : ℕ) := by
    rw [List.sum_eq_card_nsmul _ (share : ℤ) (List.forall_mem_map.mpr hvalues)]
    simp [mul_comm]
  set counts := d.map fun q => if q.1 = l then (q.1, q.2 + ((r : ℕ) : ℤ)) else q
  have hsum : (counts.map Prod.snd).sum = ((share * d.length + r : ℕ) : ℤ) := by
    rw [sum_update hlab.nodup (largestLabel_mem hl), hsumd]; push_cast; ring
  have hnonneg : ∀ z ∈ counts.map Prod.snd, 0 ≤ z := by
    intro z hz
    obtain ⟨q', hq', rfl⟩ := List.mem_map.mp hz
    obtain ⟨q, hq, rfl⟩ := List.mem_map.mp hq'
    have := hvalues q hq
    split <;> simp only [this] <;> positivity
  have htotal := (sum_toNat_eq_iff hsum).mpr hnonneg
  rw [List.map_map] at htotal
  change (counts.map (·.2.toNat)).sum = _ at htotal
  rw [htotal, Apportionable, hcard, List.card_toFinset, ← List.dedup_eq_self, hshare0]
  have hself : (strata.map (·.label)).dedup = strata.map (·.label) ↔
      (strata.map (·.label)).dedup.length = strata.length := by
    constructor
    · intro he; rw [he, List.length_map]
    · intro he; exact (List.dedup_sublist _).eq_of_length (by simpa using he)
  rw [hself]
  generalize (strata.map (·.label)).dedup.length = distinct
  constructor
  · intro he
    have hmul : share * distinct = share * strata.length := by omega
    rcases Nat.eq_zero_or_pos share with h0 | hpos
    · exact .inr h0
    · exact .inl (Nat.eq_of_mul_eq_mul_left hpos hmul)
  · rintro (rfl | rfl)
    · exact hdiv
    · omega

theorem proportional_counts (hne : strata ≠ [])
    (h : allocateStratifiedSamples strata total .proportional = .ok alloc) :
    (alloc.map (·.2.toNat)).sum = total ↔ Apportionable strata total .proportional := by
  rw [allocateStratifiedSamples, if_neg hne] at h
  obtain ⟨d, hd, hret⟩ := Lib.bind_ok.mp h
  cases hret
  have hlab := roundedShares_labelled hd
  have hne' : d ≠ [] := by
    rintro rfl
    -- every round of the loop sets an item
    obtain ⟨s, strata', rfl⟩ := List.exists_cons_of_ne_nil hne
    rw [roundedShares, List.foldlM_cons] at hd
    obtain ⟨d₁, hd₁, hrest⟩ := Lib.bind_ok.mp hd
    obtain ⟨share, -, hret⟩ := Lib.bind_ok.mp hd₁
    cases hret
    have hnil := Lib.foldlM_inv (P := fun b : List (String × ℤ) => s.label ∈ b.map Prod.fst)
      (fun s' _ b b' hb hstep => by
        obtain ⟨share', -, hret⟩ := Lib.bind_ok.mp hstep
        cases hret
        exact mem_setItem_keys.mpr (.inl hb)) (mem_setItem_keys.mpr (.inr rfl)) hrest
    simp at hnil
  obtain ⟨l, hl⟩ := exists_largestLabel hne'
  have hsum : ((topUp d (total - (d.map Prod.snd).sum)).map Prod.snd).sum = total := by
    rw [topUp_eq hl, sum_update hlab.nodup (largestLabel_mem hl)]; ring
  have hcounts := sum_toNat_eq_iff hsum
  rw [List.map_map] at hcounts
  refine hcounts.trans ((topUp_counts_iff hlab.nodup hne').trans ?_)
  exact ⟨fun h d' hd' => by rw [hd] at hd'; cases hd'; exact h, fun h => h d hd⟩

/-- The counts number the total iff the strata split it without loss. -/
theorem allocate_counts (hne : strata ≠ [])
    (h : allocateStratifiedSamples strata total method = .ok alloc) :
    (alloc.map (·.2.toNat)).sum = total ↔ Apportionable strata total method := by
  cases method with
  | equal => exact equal_counts hne h
  | proportional => exact proportional_counts hne h

end Allocation

/-! ### The points drawn -/

section Draws

variable {math : Trig} {geometry : Geometry} {random : ℕ → PyFloat} {ids : ℕ → SamplePointId}
  {stratum : Option String} {draw draw' : Draw}

/-- As many points as were asked for, under the label. -/
theorem drawPoints_ok {count : ℕ}
    (h : drawPoints math geometry random ids stratum count draw = .ok draw') :
    draw'.points.length = draw.points.length + count ∧
      ∀ p ∈ draw'.points, p ∈ draw.points ∨ p.stratum = stratum := by
  induction count generalizing draw with
  | zero =>
    rw [drawPoints] at h
    cases h
    exact ⟨rfl, fun p hp => .inl hp⟩
  | succ count ih =>
    rw [drawPoints] at h
    obtain ⟨⟨⟨lon, lat⟩, position⟩, -, h⟩ := Lib.bind_ok.mp h
    obtain ⟨hlen, hlabel⟩ := ih h
    refine ⟨by rw [hlen, List.length_append, List.length_singleton]; omega, fun p hp => ?_⟩
    rcases hlabel p hp with hp | hp
    · rcases List.mem_append.mp hp with hp | hp
      · exact .inl hp
      · exact .inr (by rw [List.mem_singleton.mp hp])
    · exact .inr hp

theorem generateSimple_length {count : ℕ} {points : List SamplePoint}
    (h : generateSimpleRandomSamples math geometry random ids count = .ok points) :
    points.length = count := by
  obtain ⟨draw, hdraw, hret⟩ := Lib.bind_ok.mp h
  cases hret
  simpa using (drawPoints_ok hdraw).1

/-- The stratified points: as many as the counts say, each under a label of the strata, and as many
    as the sample should have iff the strata split it without loss. -/
theorem generateStratified_ok {strata : List Stratum} {total : ℕ} {method : AllocationMethod}
    {points : List SamplePoint} (hne : strata ≠ [])
    (h : generateStratifiedSamples math geometry random ids strata total method = .ok points) :
    (points.length = total ↔ Apportionable strata total method) ∧
      ∀ p ∈ points, ∃ s ∈ strata, p.stratum = some s.label := by
  obtain ⟨alloc, halloc, h⟩ := Lib.bind_ok.mp h
  obtain ⟨draw, hdraw, hret⟩ := Lib.bind_ok.mp h
  cases hret
  have hlab := allocate_labelled halloc
  have hrun : ∀ (l : List (String × ℤ)) (d d' : Draw),
      l.foldlM (fun draw q => drawPoints math geometry random ids (some q.1) q.2.toNat draw) d = .ok d' →
      d'.points.length = d.points.length + (l.map (·.2.toNat)).sum ∧
        ∀ p ∈ d'.points, p ∈ d.points ∨ ∃ q ∈ l, p.stratum = some q.1 := by
    intro l
    induction l with
    | nil =>
      intro d d' hd
      rw [List.foldlM_nil] at hd
      cases hd
      exact ⟨rfl, fun p hp => .inl hp⟩
    | cons q l ih =>
      intro d d' hd
      rw [List.foldlM_cons] at hd
      obtain ⟨d₁, hd₁, hd⟩ := Lib.bind_ok.mp hd
      obtain ⟨hlen₁, hlabel₁⟩ := drawPoints_ok hd₁
      obtain ⟨hlen, hlabel⟩ := ih d₁ d' hd
      refine ⟨by rw [hlen, hlen₁, List.map_cons, List.sum_cons]; omega, fun p hp => ?_⟩
      rcases hlabel p hp with hp | ⟨q', hq', hp⟩
      · rcases hlabel₁ p hp with hp | hp
        · exact .inl hp
        · exact .inr ⟨q, List.mem_cons_self .., hp⟩
      · exact .inr ⟨q', List.mem_cons_of_mem _ hq', hp⟩
  obtain ⟨hlen, hlabel⟩ := hrun alloc {} draw hdraw
  refine ⟨?_, fun p hp => ?_⟩
  · rw [hlen, ← allocate_counts hne halloc]
    simp
  · rcases hlabel p hp with hp | ⟨q, hq, hp⟩
    · simp at hp
    · obtain ⟨s, hs, hsl⟩ := hlab.label q hq
      exact ⟨s, hs, by rw [hp, hsl]⟩

/-- With a first try that hits, every point is drawn where it hits. -/
theorem drawPoints_of_hit {u : PyFloat} {bbox : BoundingBox}
    (hbbox : (computeAoiStatistics math geometry).map (·.bbox) = .ok bbox)
    (hhit : pointInGeometry (uniform bbox.minLon bbox.maxLon u) (uniform bbox.minLat bbox.maxLat u)
      geometry = .ok true) (count : ℕ) (draw : Draw) :
    ∃ draw', drawPoints math geometry (fun _ => u) ids stratum count draw = .ok draw' ∧
      ∀ p ∈ draw'.points, p ∈ draw.points ∨
        pointInGeometry p.longitude p.latitude geometry = .ok true := by
  obtain ⟨stats, hstats, rfl⟩ := Lib.map_ok.mp hbbox
  have hpoint : ∀ position, randomPointInBbox math geometry (fun _ => u) position =
      .ok ((uniform stats.bbox.minLon stats.bbox.maxLon u, uniform stats.bbox.minLat stats.bbox.maxLat u),
        position + 2) := by
    intro position
    have htry : ∀ attempts, tryPoints geometry stats.bbox (fun _ => u) (attempts + 1) position =
        .ok (some (uniform stats.bbox.minLon stats.bbox.maxLon u,
          uniform stats.bbox.minLat stats.bbox.maxLat u), position + 2) := by
      intro attempts
      rw [tryPoints, hhit]
      rfl
    rw [randomPointInBbox, hstats]
    change (tryPoints geometry stats.bbox (fun _ => u) (199 + 1) position >>= _) = _
    rw [htry]
    rfl
  induction count generalizing draw with
  | zero => exact ⟨draw, rfl, fun p hp => .inl hp⟩
  | succ count ih =>
    rw [drawPoints, hpoint]
    obtain ⟨draw', hdraw', hin⟩ := ih { points := draw.points ++ [_], position := draw.position + 2 }
    refine ⟨draw', hdraw', fun p hp => ?_⟩
    rcases hin p hp with hp | hp
    · rcases List.mem_append.mp hp with hp | hp
      · exact .inl hp
      · exact .inr (by rw [List.mem_singleton.mp hp]; exact hhit)
    · exact .inr hp

end Draws

end GeoRisk.Geospatial
