import GeoRisk.Lib.Cycles
import GeoRisk.Lib.Rounding

/-! The statistics of an area over exact numbers, for rings that the constructor lets through. Perimeter,
    centroid and box are the same wherever a ring begins and whichever way it goes; the area is
    scaled by the cosine of a mean latitude that counts the closing position, which is the first one,
    a second time:

        a  b  c  a      mean latitude (2a + b + c) / 4
           b  c  a  b   mean latitude (a + 2b + c) / 4                                            -/

namespace GeoRisk.Geospatial.Exact

/-- Longitude and latitude. -/
abbrev Position (α : Type) := α × α

/-- The functions of the library other than the cosine, and a degree in radians. -/
structure Angles (α : Type) [Field α] where
  sin : α → α
  asin : α → α
  sqrt : α → α
  degree : α
  degree_ne : degree ≠ 0
  sin_neg : ∀ x, sin (-x) = -sin x

/-- A ring that the constructor lets through. -/
structure ClosedRing (α : Type) where
  positions : List (Position α)
  four : 4 ≤ positions.length
  closed : positions.head? = positions.getLast?

structure BoundingBox (α : Type) where
  minLon : α
  minLat : α
  maxLon : α
  maxLat : α

structure RingStatistics (α : Type) where
  area : α
  perimeter : α
  centroid : Position α
  bbox : BoundingBox α

structure AoiStatistics (α : Type) where
  areaM2 : α
  perimeterM : α
  centroid : Position α
  bbox : BoundingBox α

section Code

variable {α : Type} [Field α]

def EARTH_RADIUS_M : α := 6371000

def METERS_PER_DEGREE_LAT : α := 111320

variable [LinearOrder α] (math : Angles α) (cos : α → α)

/-- `math.radians`. -/
def radians (degrees : α) : α := degrees * math.degree

def haversineDistance (lat1 lon1 lat2 lon2 : α) : α :=
  let dphi := radians math (lat2 - lat1)
  let dlambda := radians math (lon2 - lon1)
  let a := math.sin (dphi / 2) ^ 2 +
    cos (radians math lat1) * cos (radians math lat2) * math.sin (dlambda / 2) ^ 2
  2 * EARTH_RADIUS_M * math.asin (math.sqrt (min 1 a))

/-- `sum(p[1] for p in points) / len(points)`. -/
def meanLat (points : List (Position α)) : α := (points.map Prod.snd).sum / points.length

def ringAreaM2 (points : List (Position α)) : α :=
  if points.length < 4 then 0
  else
    let lonM := METERS_PER_DEGREE_LAT * cos (radians math (meanLat points))
    let scaled := points.map fun p => (p.1 * lonM, p.2 * METERS_PER_DEGREE_LAT)
    let area := (Lib.sides scaled).foldl (fun area s =>
      area + (s.1.1 * s.2.2 - s.2.1 * s.1.2)) 0
    |area| / 2

def ringPerimeterM (points : List (Position α)) : α :=
  (Lib.sides points).foldl (fun total s =>
    total + haversineDistance math cos s.1.2 s.1.1 s.2.2 s.2.1) 0

/-- The mean of the positions without the closing one. -/
def ringCentroid (points : List (Position α)) : Position α :=
  let points := if points.head? = points.getLast? then points.dropLast else points
  ((points.map Prod.fst).sum / points.length, (points.map Prod.snd).sum / points.length)

/-- The box around positions, none where there are none. -/
def ringBbox (points : List (Position α)) : Option (BoundingBox α) := do
  return { minLon := ← (points.map Prod.fst).min?, minLat := ← (points.map Prod.snd).min?
           maxLon := ← (points.map Prod.fst).max?, maxLat := ← (points.map Prod.snd).max? }

def ringStatistics (points : List (Position α)) : Option (RingStatistics α) := do
  return { area := ringAreaM2 math cos points, perimeter := ringPerimeterM math cos points
           centroid := ringCentroid points, bbox := ← ringBbox points }

variable [FloorRing α]

/-- The statistics of the exterior rings of an area, none where there are no rings. -/
def computeAoiStatistics (rings : List (ClosedRing α)) : Option (AoiStatistics α) := do
  let stats ← rings.mapM fun ring => ringStatistics math cos ring.positions
  let totalArea := (stats.map (·.area)).sum
  let totalPerimeter := (stats.map (·.perimeter)).sum
  let mean (coordinate : Position α → α) : α :=
    if 0 < totalArea then (stats.map fun s => s.area * coordinate s.centroid).sum / totalArea
    else (stats.map fun s => coordinate s.centroid).sum / stats.length
  return {
    areaM2 := Lib.roundTo 2 totalArea, perimeterM := Lib.roundTo 2 totalPerimeter
    centroid := (Lib.roundTo 6 (mean Prod.fst), Lib.roundTo 6 (mean Prod.snd))
    bbox := {
      minLon := ← (stats.map (·.bbox.minLon)).min?, minLat := ← (stats.map (·.bbox.minLat)).min?
      maxLon := ← (stats.map (·.bbox.maxLon)).max?, maxLat := ← (stats.map (·.bbox.maxLat)).max? } }

end Code

/-! ### Writing a ring otherwise -/

section Rings

variable {α : Type} {ring : ClosedRing α}

/-- The positions of a ring without the closing one. -/
def ClosedRing.vertices (ring : ClosedRing α) : List (Position α) := ring.positions.dropLast

theorem ClosedRing.closed_vertices (ring : ClosedRing α) : Lib.closed ring.vertices = ring.positions :=
  Lib.closed_dropLast (by have := ring.four; omega) ring.closed

theorem ClosedRing.three_le (ring : ClosedRing α) : 3 ≤ ring.vertices.length := by
  have := ring.four
  rw [vertices, List.length_dropLast]
  omega

/-- The ring from its `k`th vertex on. -/
def ClosedRing.rotate (ring : ClosedRing α) (k : ℕ) : ClosedRing α where
  positions := Lib.closed (ring.vertices.rotate k)
  four := by
    have := ring.three_le
    have hne : ring.vertices.rotate k ≠ [] := by
      rw [ne_eq, List.rotate_eq_nil_iff]
      rintro hnil
      simp [hnil] at this
    rw [Lib.length_closed hne, List.length_rotate]
    omega
  closed := Lib.closed_ends _

def ClosedRing.reverse (ring : ClosedRing α) : ClosedRing α where
  positions := ring.positions.reverse
  four := by rw [List.length_reverse]; exact ring.four
  closed := by rw [List.head?_reverse, List.getLast?_reverse]; exact ring.closed.symm

theorem ClosedRing.ne_nil (ring : ClosedRing α) : ring.positions ≠ [] := by
  intro hnil
  have := ring.four
  simp [hnil] at this

/-- The latitude that is counted twice. -/
def ClosedRing.startLatitude (ring : ClosedRing α) : α := (ring.positions.head ring.ne_nil).2

end Rings

section Vertices

variable {α : Type} {ring : ClosedRing α} {k : ℕ}

theorem ClosedRing.rotate_ne_nil (ring : ClosedRing α) (k : ℕ) : ring.vertices.rotate k ≠ [] := by
  rw [ne_eq, List.rotate_eq_nil_iff]
  intro hnil
  have := ring.three_le
  simp [hnil] at this

theorem vertices_rotate : (ring.rotate k).vertices = ring.vertices.rotate k :=
  Lib.dropLast_closed (ring.rotate_ne_nil k)

theorem vertices_reverse : ring.reverse.vertices.Perm ring.vertices := by
  rw [ClosedRing.vertices, ClosedRing.reverse, List.dropLast_reverse]
  refine (List.reverse_perm _).trans ?_
  have hclosed := ring.closed_vertices
  cases hv : ring.vertices with
  | nil =>
    have := ring.three_le
    simp [hv] at this
  | cons v vs =>
    rw [hv, Lib.closed_cons] at hclosed
    rw [← hclosed]
    exact List.perm_append_singleton v vs

theorem mem_positions {p : Position α} : p ∈ ring.positions ↔ p ∈ ring.vertices := by
  rw [← ring.closed_vertices]
  exact Lib.mem_closed

end Vertices

section Sums

variable {α : Type} [Field α] {ring : ClosedRing α} {k : ℕ}

/-- Twice the area of a ring in square degrees, signed by its orientation. -/
def shoelace (points : List (Position α)) : α :=
  ((Lib.sides points).map fun s => s.1.1 * s.2.2 - s.2.1 * s.1.2).sum

theorem foldl_add {β : Type} (f : β → α) (l : List β) :
    l.foldl (fun acc b => acc + f b) 0 = (l.map f).sum := by
  rw [List.sum_eq_foldl, List.foldl_map]

theorem shoelace_rotate : shoelace (ring.rotate k).positions = shoelace ring.positions := by
  rw [← ring.closed_vertices]
  exact Lib.sum_sides_closed_rotate _ _ _

theorem shoelace_reverse : shoelace ring.reverse.positions = -shoelace ring.positions := by
  rw [shoelace, ClosedRing.reverse, Lib.sum_sides_reverse, shoelace, List.sum_neg, List.map_map]
  refine congrArg List.sum (List.map_congr_left fun s _ => ?_)
  simp only [Function.comp_apply, Prod.fst_swap, Prod.snd_swap]
  ring

/-- The mean latitude counts the first latitude once more. -/
theorem meanLat_positions (ring : ClosedRing α) : meanLat ring.positions =
    ((ring.vertices.map Prod.snd).sum + ring.startLatitude) / (ring.vertices.length + 1) := by
  have hclosed := ring.closed_vertices
  cases hv : ring.vertices with
  | nil =>
    have := ring.three_le
    simp [hv] at this
  | cons v vs =>
    rw [hv, Lib.closed_cons] at hclosed
    have hstart : ring.startLatitude = v.2 := by
      unfold ClosedRing.startLatitude
      simp only [← hclosed]
      rfl
    rw [hstart, ← hclosed, meanLat, List.map_append, List.sum_append, List.length_append]
    simp

variable [LinearOrder α] [IsStrictOrderedRing α]

/-- The mean latitude moves with the latitude that the ring begins at. -/
theorem meanLat_rotate_iff : meanLat (ring.rotate k).positions = meanLat ring.positions ↔
    (ring.rotate k).startLatitude = ring.startLatitude := by
  have hlen : (ring.vertices.length + 1 : α) ≠ 0 := by positivity
  rw [meanLat_positions, meanLat_positions, vertices_rotate, List.length_rotate,
    ((List.rotate_perm _ k).map Prod.snd).sum_eq, div_left_inj' hlen, add_right_inj]

omit [LinearOrder α] [IsStrictOrderedRing α] in
theorem meanLat_reverse : meanLat ring.reverse.positions = meanLat ring.positions := by
  rw [meanLat, meanLat, ClosedRing.reverse, List.length_reverse, List.map_reverse,
    (List.reverse_perm _).sum_eq]

end Sums

section Extremes

variable {α : Type} [LinearOrder α]

theorem min?_congr {xs ys : List α} (h : ∀ x, x ∈ xs ↔ x ∈ ys) : xs.min? = ys.min? := by
  ext a
  rw [List.min?_eq_some_iff, List.min?_eq_some_iff]
  simp only [h]

theorem max?_congr {xs ys : List α} (h : ∀ x, x ∈ xs ↔ x ∈ ys) : xs.max? = ys.max? := by
  ext a
  rw [List.max?_eq_some_iff, List.max?_eq_some_iff]
  simp only [h]

theorem exists_min? {xs : List α} (h : xs ≠ []) : ∃ x, xs.min? = some x := by
  cases xs with
  | nil => exact absurd rfl h
  | cons x xs => exact ⟨_, rfl⟩

theorem exists_max? {xs : List α} (h : xs ≠ []) : ∃ x, xs.max? = some x := by
  cases xs with
  | nil => exact absurd rfl h
  | cons x xs => exact ⟨_, rfl⟩

end Extremes

section Invariance

variable {α : Type} [Field α] [LinearOrder α] {math : Angles α} {cos : α → α}
  {ring ring' : ClosedRing α} {points points' : List (Position α)} {k : ℕ}

theorem perimeter_eq : ringPerimeterM math cos points =
    ((Lib.sides points).map fun s => haversineDistance math cos s.1.2 s.1.1 s.2.2 s.2.1).sum :=
  foldl_add _ _

theorem perimeter_rotate : ringPerimeterM math cos (ring.rotate k).positions =
    ringPerimeterM math cos ring.positions := by
  rw [perimeter_eq, perimeter_eq, ← ring.closed_vertices]
  exact Lib.sum_sides_closed_rotate _ _ _

theorem haversineDistance_comm (lat1 lon1 lat2 lon2 : α) :
    haversineDistance math cos lat2 lon2 lat1 lon1 = haversineDistance math cos lat1 lon1 lat2 lon2 := by
  have hsin : ∀ x y : α,
      math.sin (radians math (x - y) / 2) ^ 2 = math.sin (radians math (y - x) / 2) ^ 2 := by
    intro x y
    have hneg : radians math (x - y) / 2 = -(radians math (y - x) / 2) := by
      rw [radians, radians]
      ring
    rw [hneg, math.sin_neg, neg_sq]
  unfold haversineDistance
  dsimp only
  rw [hsin lat1 lat2, hsin lon1 lon2, mul_comm (cos (radians math lat2))]

theorem perimeter_reverse : ringPerimeterM math cos ring.reverse.positions =
    ringPerimeterM math cos ring.positions := by
  rw [perimeter_eq, perimeter_eq, ClosedRing.reverse, Lib.sum_sides_reverse]
  exact congrArg List.sum (List.map_congr_left fun s _ => haversineDistance_comm _ _ _ _)

/-- The centroid of a closed ring is the mean of its vertices. -/
theorem centroid_eq (hclosed : points.head? = points.getLast?) : ringCentroid points =
    ((points.dropLast.map Prod.fst).sum / points.dropLast.length,
      (points.dropLast.map Prod.snd).sum / points.dropLast.length) := by
  rw [ringCentroid, if_pos hclosed]

theorem centroid_congr (h : ring'.vertices.Perm ring.vertices) :
    ringCentroid ring'.positions = ringCentroid ring.positions := by
  rw [centroid_eq ring.closed, centroid_eq ring'.closed]
  change ((ring'.vertices.map Prod.fst).sum / ring'.vertices.length,
    (ring'.vertices.map Prod.snd).sum / ring'.vertices.length) = _
  rw [(h.map Prod.fst).sum_eq, (h.map Prod.snd).sum_eq, h.length_eq]
  rfl

omit [Field α] in
/-- The box depends on which positions there are only. -/
theorem bbox_congr (h : ∀ p, p ∈ points' ↔ p ∈ points) : ringBbox points' = ringBbox points := by
  have hmap : ∀ f : Position α → α, ∀ x, x ∈ points'.map f ↔ x ∈ points.map f := by
    intro f x
    simp only [List.mem_map, h]
  unfold ringBbox
  rw [min?_congr (hmap Prod.fst), min?_congr (hmap Prod.snd), max?_congr (hmap Prod.fst),
    max?_congr (hmap Prod.snd)]

variable [IsStrictOrderedRing α]

/-- The area is the one in square degrees, scaled along both axes. -/
theorem area_eq (ring : ClosedRing α) : ringAreaM2 math cos ring.positions =
    METERS_PER_DEGREE_LAT ^ 2 / 2 * |shoelace ring.positions| *
      |cos (radians math (meanLat ring.positions))| := by
  have hlen : ¬ ring.positions.length < 4 := not_lt.mpr ring.four
  rw [ringAreaM2, if_neg hlen]
  dsimp only
  rw [Lib.sides_map, foldl_add, List.map_map]
  generalize cos (radians math (meanLat ring.positions)) = c
  have hsum : ((Lib.sides ring.positions).map ((fun s : Position α × Position α =>
      s.1.1 * s.2.2 - s.2.1 * s.1.2) ∘ Prod.map
        (fun p => (p.1 * (METERS_PER_DEGREE_LAT * c), p.2 * METERS_PER_DEGREE_LAT))
        (fun p => (p.1 * (METERS_PER_DEGREE_LAT * c), p.2 * METERS_PER_DEGREE_LAT)))).sum =
      METERS_PER_DEGREE_LAT ^ 2 * c * shoelace ring.positions := by
    rw [shoelace, ← List.sum_map_mul_left]
    refine congrArg List.sum (List.map_congr_left fun s _ => ?_)
    simp only [Function.comp_apply, Prod.map_fst, Prod.map_snd]
    ring
  rw [hsum, abs_mul, abs_mul, abs_of_nonneg (sq_nonneg _)]
  ring

omit [Field α] [IsStrictOrderedRing α] in
theorem exists_bbox (ring : ClosedRing α) : ∃ b, ringBbox ring.positions = some b := by
  have hne : ∀ f : Position α → α, ring.positions.map f ≠ [] := fun f => by
    simpa using ring.ne_nil
  obtain ⟨minLon, h1⟩ := exists_min? (hne Prod.fst)
  obtain ⟨minLat, h2⟩ := exists_min? (hne Prod.snd)
  obtain ⟨maxLon, h3⟩ := exists_max? (hne Prod.fst)
  obtain ⟨maxLat, h4⟩ := exists_max? (hne Prod.snd)
  unfold ringBbox
  rw [h1, h2, h3, h4]
  exact ⟨_, rfl⟩

omit [IsStrictOrderedRing α] in
/-- What is computed of a ring depends on its way of writing through its area only. -/
theorem ringStatistics_rotate
    (harea : ringAreaM2 math cos (ring.rotate k).positions = ringAreaM2 math cos ring.positions) :
    ringStatistics math cos (ring.rotate k).positions = ringStatistics math cos ring.positions := by
  have hmem : ∀ p, p ∈ (ring.rotate k).positions ↔ p ∈ ring.positions := by
    intro p
    rw [mem_positions, mem_positions, vertices_rotate]
    exact List.mem_rotate
  unfold ringStatistics
  rw [harea, perimeter_rotate, bbox_congr hmem,
    centroid_congr (@vertices_rotate α ring k ▸ List.rotate_perm _ k)]

theorem ringStatistics_reverse :
    ringStatistics math cos ring.reverse.positions = ringStatistics math cos ring.positions := by
  have hmem : ∀ p, p ∈ ring.reverse.positions ↔ p ∈ ring.positions := fun p => List.mem_reverse
  have harea : ringAreaM2 math cos ring.reverse.positions = ringAreaM2 math cos ring.positions := by
    rw [area_eq, area_eq, shoelace_reverse, abs_neg, meanLat_reverse]
  unfold ringStatistics
  rw [harea, perimeter_reverse, bbox_congr hmem, centroid_congr vertices_reverse]

variable [FloorRing α] {rings before after : List (ClosedRing α)}

omit [IsStrictOrderedRing α] in
theorem computeAoiStatistics_congr (h : ringStatistics math cos ring'.positions =
    ringStatistics math cos ring.positions) :
    computeAoiStatistics math cos (before ++ ring' :: after) =
      computeAoiStatistics math cos (before ++ ring :: after) := by
  unfold computeAoiStatistics
  rw [List.mapM_append, List.mapM_append, List.mapM_cons, List.mapM_cons, h]

omit [IsStrictOrderedRing α] in
/-- The area of rings is the rounded sum of their areas. -/
theorem areaM2_eq (h : rings ≠ []) : (computeAoiStatistics math cos rings).map (·.areaM2) =
    some (Lib.roundTo 2 (rings.map fun ring => ringAreaM2 math cos ring.positions).sum) := by
  choose bbox hbbox using fun ring : ClosedRing α => exists_bbox ring
  set stats : ClosedRing α → RingStatistics α := fun ring =>
    { area := ringAreaM2 math cos ring.positions, perimeter := ringPerimeterM math cos ring.positions
      centroid := ringCentroid ring.positions, bbox := bbox ring } with hstats
  have hring : (fun ring : ClosedRing α => ringStatistics math cos ring.positions) =
      fun ring => pure (stats ring) := by
    funext ring
    unfold ringStatistics
    rw [hbbox]
    rfl
  have hne : ∀ f : RingStatistics α → α, (rings.map stats).map f ≠ [] := fun f => by simpa using h
  obtain ⟨minLon, h1⟩ := exists_min? (hne (·.bbox.minLon))
  obtain ⟨minLat, h2⟩ := exists_min? (hne (·.bbox.minLat))
  obtain ⟨maxLon, h3⟩ := exists_max? (hne (·.bbox.maxLon))
  obtain ⟨maxLat, h4⟩ := exists_max? (hne (·.bbox.maxLat))
  unfold computeAoiStatistics
  rw [hring, List.mapM_pure, pure_bind]
  dsimp only
  rw [h1, h2, h3, h4, List.map_map]
  rfl

/-! ### When a ring may be written otherwise -/

/-- A ring may begin elsewhere, whatever the cosine is, iff it then begins at the same latitude or has
    no area. -/
theorem rotate_unchanged_iff (math : Angles α) (before after : List (ClosedRing α))
    (ring : ClosedRing α) (k : ℕ) :
    (∀ cos, computeAoiStatistics math cos (before ++ ring.rotate k :: after) =
      computeAoiStatistics math cos (before ++ ring :: after)) ↔
      (ring.rotate k).startLatitude = ring.startLatitude ∨ shoelace ring.positions = 0 := by
  constructor
  · intro h
    by_contra hne
    push Not at hne
    obtain ⟨hstart, harea⟩ := hne
    have hmean : radians math (meanLat ring.positions) ≠
        radians math (meanLat (ring.rotate k).positions) := fun heq =>
      hstart (meanLat_rotate_iff.mp (mul_right_cancel₀ math.degree_ne heq).symm)
    -- a cosine that vanishes but at the new mean latitude, where the area is more than one
    set cos : α → α := fun x =>
      if x = radians math (meanLat (ring.rotate k).positions) then 1 / |shoelace ring.positions|
      else 0 with hcos
    have hold : ringAreaM2 math cos ring.positions = 0 := by
      rw [area_eq, hcos]
      simp only [if_neg hmean, abs_zero, mul_zero]
    have hnew : 1 ≤ ringAreaM2 math cos (ring.rotate k).positions := by
      have hpos : 0 < |shoelace ring.positions| := abs_pos.mpr harea
      rw [area_eq, hcos, shoelace_rotate]
      simp only [if_true]
      rw [abs_of_pos (by positivity : 0 < 1 / |shoelace ring.positions|), mul_assoc,
        mul_one_div_cancel hpos.ne', METERS_PER_DEGREE_LAT]
      norm_num
    have hround := congrArg (Option.map (·.areaM2)) (h cos)
    rw [areaM2_eq (by simp), areaM2_eq (by simp), Option.some_inj] at hround
    simp only [List.map_append, List.map_cons, List.sum_append, List.sum_cons, hold] at hround
    have hafter := abs_le.mp (Lib.abs_roundTo_sub_le 2
      ((before.map fun ring => ringAreaM2 math cos ring.positions).sum +
        (ringAreaM2 math cos (ring.rotate k).positions +
          (after.map fun ring => ringAreaM2 math cos ring.positions).sum)))
    have hbefore := abs_le.mp (Lib.abs_roundTo_sub_le 2
      ((before.map fun ring => ringAreaM2 math cos ring.positions).sum +
        (0 + (after.map fun ring => ringAreaM2 math cos ring.positions).sum)))
    rw [hround] at hafter
    norm_num at hafter hbefore
    linarith [hafter.1, hbefore.2]
  · intro h cos
    refine computeAoiStatistics_congr (ringStatistics_rotate ?_)
    rw [area_eq, area_eq, shoelace_rotate]
    rcases h with h | h
    · rw [meanLat_rotate_iff.mpr h]
    · rw [h, abs_zero, mul_zero, zero_mul, zero_mul]

/-- A ring may be walked back, and may begin elsewhere iff it begins at the same latitude there or has
    no area. -/
theorem rewritten_unchanged (math : Angles α) (before after : List (ClosedRing α))
    (ring : ClosedRing α) :
    (∀ cos, computeAoiStatistics math cos (before ++ ring.reverse :: after) =
      computeAoiStatistics math cos (before ++ ring :: after)) ∧
    ∀ k, (∀ cos, computeAoiStatistics math cos (before ++ ring.rotate k :: after) =
      computeAoiStatistics math cos (before ++ ring :: after)) ↔
        (ring.rotate k).startLatitude = ring.startLatitude ∨ shoelace ring.positions = 0 :=
  ⟨fun _ => computeAoiStatistics_congr ringStatistics_reverse,
    fun k => rotate_unchanged_iff math before after ring k⟩

end Invariance

/-! ### A triangle -/

/-- A library over the rationals that knows no angle. -/
def flatAngles : Angles ℚ where
  sin _ := 0
  asin _ := 0
  sqrt _ := 0
  degree := 1
  degree_ne := by decide
  sin_neg _ := by simp

def triangle : ClosedRing ℚ where
  positions := [(0, 0), (1, 0), (0, 1), (0, 0)]
  four := by decide
  closed := by decide

/-- From its third vertex on, the triangle has another area for some cosine. -/
theorem triangle_rotated : ¬ ∀ cos, computeAoiStatistics flatAngles cos [triangle.rotate 2] =
    computeAoiStatistics flatAngles cos [triangle] := by
  intro h
  rcases (rotate_unchanged_iff flatAngles [] [] triangle 2).mp h with h | h
  · revert h
    decide
  · revert h
    decide +kernel

theorem rewritten_unchanged_triangle :
    (∀ cos, computeAoiStatistics flatAngles cos ([] ++ triangle.reverse :: []) =
      computeAoiStatistics flatAngles cos ([] ++ triangle :: [])) ∧
    ∀ k, (∀ cos, computeAoiStatistics flatAngles cos ([] ++ triangle.rotate k :: []) =
      computeAoiStatistics flatAngles cos ([] ++ triangle :: [])) ↔
        (triangle.rotate k).startLatitude = triangle.startLatitude ∨
          shoelace triangle.positions = 0 :=
  rewritten_unchanged flatAngles [] [] triangle

end GeoRisk.Geospatial.Exact
