import GeoRisk.Lib.Parity
import GeoRisk.Lib.Results
import GeoRisk.Geospatial.ExactStatistics
import GeoRisk.Geospatial.Sampling

/-! Is a point inside a ring? The flag is toggled at every side that the ray to the east crosses, so it
    tells the parity of the crossings, and a side that goes nowhere is not crossed:

        yj ──●            lat ≥ both ends    no
             │╲           lat < both ends    no
        lat ─┼─╲──▶       between            lon west of the side?   a division, which may raise
             │  ╲
        yi   ●                                                                                   -/

namespace GeoRisk.Geospatial

/-- The way a division raises. -/
theorem eq_of_divide_error {x y : PyFloat} {e : GeospatialError} (h : divide x y = .error e) :
    e = ⟨.zeroDivisionError, "float division by zero"⟩ := by
  unfold divide PyFloat.truediv at h
  split at h <;> cases h
  rfl

/-- With floats, too, a ring is a cycle. -/
theorem pointInRing_congr {longitude latitude : PyFloat} {ring ring' : Ring}
    (h : Lib.SameCycle ring ring') :
    pointInRing longitude latitude ring = pointInRing longitude latitude ring' := by
  refine Lib.parity_visits_congr (f := fun s => intersects longitude latitude s.1 s.2) ?_ ?_ h
  · have hdivision : ∀ (s : Position × Position) e, intersects longitude latitude s.1 s.2 = .error e →
        e = ⟨.zeroDivisionError, "float division by zero"⟩ := by
      intro s e he
      unfold intersects at he
      split at he
      · rcases Lib.bind_error.mp he with he | ⟨_, -, he⟩
        · exact eq_of_divide_error he
        · cases he
      · cases he
    intro s s' e e' he he'
    rw [hdivision s e he, hdivision s' e' he']
  · intro v
    rw [intersects, bne_self_eq_false]
    rfl

namespace Exact

variable {α : Type} [Field α] [LinearOrder α]

/-- `1e-15`. -/
def BIAS : α := 1 / 10 ^ 15

def divide (x y : α) : Except GeospatialError α :=
  if y = 0 then .error ⟨.zeroDivisionError, "float division by zero"⟩ else .ok (x / y)

/-- The ray from the point crosses the side of a ring that ends in `pi` and begins in `pj`. -/
def intersects (longitude latitude : α) (pi pj : Position α) : Except GeospatialError Bool :=
  if decide (latitude < pi.2) != decide (latitude < pj.2) then do
    let offset ← divide ((pj.1 - pi.1) * (latitude - pi.2)) (pj.2 - pi.2 + BIAS)
    return decide (longitude < offset + pi.1)
  else return false

def pointInRing (longitude latitude : α) (ring : List (Position α)) : Except GeospatialError Bool :=
  -- each position with the one before it, the first with the last
  (ring.zip (ring.getLast?.toList ++ ring)).foldlM (fun inside s => do
    return xor inside (← intersects longitude latitude s.1 s.2)) false

/-- Inside one of the exterior rings of an area. -/
def pointInGeometry (longitude latitude : α) (rings : List (List (Position α))) :
    Except GeospatialError Bool :=
  rings.anyM (pointInRing longitude latitude)

/-! ### Sampling -/

structure SamplePoint (α : Type) where
  id : SamplePointId
  longitude : α
  latitude : α
  stratum : Option String

def uniform (a b random : α) : α := a + (b - a) * random

/-- Tries in the box, with the stream of random numbers read from `position` on. -/
def tryPoints (rings : List (List (Position α))) (bbox : BoundingBox α) (random : ℕ → α) :
    ℕ → ℕ → Except GeospatialError (Option (Position α) × ℕ)
  | 0, position => .ok (none, position)
  | attempts + 1, position => do
    let lon := uniform bbox.minLon bbox.maxLon (random position)
    let lat := uniform bbox.minLat bbox.maxLat (random (position + 1))
    if ← pointInGeometry lon lat rings then return (some (lon, lat), position + 2)
    else tryPoints rings bbox random attempts (position + 2)

/-- The check of the points, which raises at the first outside. -/
def checkInside (rings : List (List (Position α))) : List (SamplePoint α) → Except GeospatialError Unit
  | [] => .ok ()
  | p :: ps => do
    if ← pointInGeometry p.longitude p.latitude rings then checkInside rings ps
    else .error ⟨.samplePointOutsideAoi,
      s!"Generated sample point {p.id} falls outside the AOI geometry"⟩

/-- Some run of tries ends with the point. -/
def Accepts (rings : List (List (Position α))) (p : SamplePoint α) : Prop :=
  ∃ bbox random attempts position position',
    tryPoints rings bbox random attempts position = .ok (some (p.longitude, p.latitude), position')

/-! ### The sides of a ring -/

section Sides

variable {longitude latitude : α} {ring ring' : List (Position α)}
  {rings rings' : List (List (Position α))} {points : List (SamplePoint α)}

theorem intersects_error {pi pj : Position α} {e : GeospatialError}
    (h : intersects longitude latitude pi pj = .error e) :
    e = ⟨.zeroDivisionError, "float division by zero"⟩ := by
  unfold intersects divide at h
  split at h
  · split at h <;> cases h
    rfl
  · cases h

/-- A side that the latitude does not separate is not crossed. -/
theorem intersects_eq_false {pi pj : Position α} (h : latitude < pi.2 ↔ latitude < pj.2) :
    intersects longitude latitude pi pj = .ok false := by
  rw [intersects, decide_eq_decide.mpr h, bne_self_eq_false]
  rfl

theorem pointInRing_congr (h : Lib.SameCycle ring ring') :
    pointInRing longitude latitude ring = pointInRing longitude latitude ring' := by
  refine Lib.parity_visits_congr (f := fun s => intersects longitude latitude s.1 s.2) ?_ ?_ h
  · intro s s' e e' he he'
    rw [intersects_error he, intersects_error he']
  · exact fun v => intersects_eq_false Iff.rfl

theorem pointInRing_eq_false
    (h : (∀ v ∈ ring, v.2 ≤ latitude) ∨ ∀ v ∈ ring, latitude < v.2) :
    pointInRing longitude latitude ring = .ok false := by
  refine Lib.parity_eq_false (l := Lib.visits ring)
    (f := fun s => intersects longitude latitude s.1 s.2) fun s hs => ?_
  obtain ⟨h1, h2⟩ := Lib.mem_visits hs
  rcases h with h | h
  · exact intersects_eq_false (iff_of_false (not_lt.mpr (h _ h1)) (not_lt.mpr (h _ h2)))
  · exact intersects_eq_false (iff_of_true (h _ h1) (h _ h2))

theorem pointInGeometry_congr (h : List.Forall₂ Lib.SameCycle rings rings') :
    pointInGeometry longitude latitude rings = pointInGeometry longitude latitude rings' := by
  induction h with
  | nil => rfl
  | cons hring _ ih =>
    unfold pointInGeometry at ih ⊢
    rw [List.anyM, List.anyM, pointInRing_congr hring, ih]

theorem pointInGeometry_eq_false (h : (∀ ring ∈ rings, ∀ v ∈ ring, v.2 ≤ latitude) ∨
    ∀ ring ∈ rings, ∀ v ∈ ring, latitude < v.2) :
    pointInGeometry longitude latitude rings = .ok false := by
  have hring : ∀ ring ∈ rings, pointInRing longitude latitude ring = .ok false := fun ring hring =>
    pointInRing_eq_false (h.imp (· ring hring) (· ring hring))
  clear h
  induction rings with
  | nil => rfl
  | cons ring rings ih =>
    rw [List.forall_mem_cons] at hring
    unfold pointInGeometry at ih ⊢
    rw [List.anyM, hring.1]
    exact ih hring.2

/-- Tries end with points inside only. -/
theorem pointInGeometry_of_tryPoints {bbox : BoundingBox α} {random : ℕ → α}
    {attempts position position' : ℕ} {p : Position α}
    (h : tryPoints rings bbox random attempts position = .ok (some p, position')) :
    pointInGeometry p.1 p.2 rings = .ok true := by
  induction attempts generalizing position with
  | zero => cases h
  | succ attempts ih =>
    obtain ⟨inside, hinside, h⟩ := Lib.bind_ok.mp h
    cases inside with
    | true =>
      cases h
      exact hinside
    | false => exact ih h

theorem checkInside_ok
    (h : ∀ p ∈ points, pointInGeometry p.longitude p.latitude rings = .ok true) :
    checkInside rings points = .ok () := by
  induction points with
  | nil => rfl
  | cons p ps ih =>
    rw [List.forall_mem_cons] at h
    rw [checkInside, h.1]
    exact ih h.2

end Sides

/-- A point is inside a ring, or not, however the ring is written; so points that sampling accepts pass
    the check against every way to write the area; and none is inside in the north or in the south
    of all vertices. -/
theorem pointInRing_cyclic (longitude latitude : α) :
    (∀ ring ring' : List (Position α), Lib.SameCycle ring ring' →
      pointInRing longitude latitude ring = pointInRing longitude latitude ring') ∧
    (∀ rings rings' : List (List (Position α)), List.Forall₂ Lib.SameCycle rings rings' →
      ∀ points, (∀ p ∈ points, Accepts rings p) → checkInside rings' points = .ok ()) ∧
    (∀ ring : List (Position α), (∀ v ∈ ring, v.2 ≤ latitude) ∨ (∀ v ∈ ring, latitude < v.2) →
      pointInRing longitude latitude ring = .ok false) ∧
    ∀ rings : List (List (Position α)),
      (∀ ring ∈ rings, ∀ v ∈ ring, v.2 ≤ latitude) ∨
        (∀ ring ∈ rings, ∀ v ∈ ring, latitude < v.2) →
      pointInGeometry longitude latitude rings = .ok false := by
  refine ⟨fun _ _ => pointInRing_congr, fun rings rings' h points hpoints => ?_,
    fun _ => pointInRing_eq_false, fun _ => pointInGeometry_eq_false⟩
  refine checkInside_ok fun p hp => ?_
  obtain ⟨bbox, random, attempts, position, position', htry⟩ := hpoints p hp
  rw [← pointInGeometry_congr h]
  exact pointInGeometry_of_tryPoints htry

/-- The triangle from its third vertex on, with the first one doubled. -/
def triangle' : List (Position ℚ) := [(0, 1), (0, 0), (0, 0), (1, 0)]

theorem pointInRing_cyclic_triangle :
    pointInRing (1 / 4) (1 / 4) triangle' = .ok true ∧
    checkInside [triangle'] [⟨⟨7⟩, 1 / 4, 1 / 4, none⟩] = .ok () ∧
    pointInRing (1 / 4) 1 triangle' = .ok false ∧
    pointInGeometry (1 / 4) 1 [triangle'] = .ok false := by
  have hsame : Lib.SameCycle triangle.positions triangle' :=
    .trans _ _ _ (.symm _ _ (.rel _ _ (.close [(0, 0), (1, 0), (0, 1)])))
      (.trans _ _ _ (.rel _ _ (.rotate [(0, 0), (1, 0), (0, 1)] 2))
        (.rel _ _ (.repeat [(0, 1)] [(1, 0)] (0, 0))))
  have hinside : pointInRing (1 / 4) (1 / 4) triangle.positions = .ok true := by decide +kernel
  refine ⟨?_, ?_, ?_, ?_⟩
  · rw [← (pointInRing_cyclic (1 / 4 : ℚ) (1 / 4)).1 _ _ hsame]
    exact hinside
  · refine (pointInRing_cyclic (1 / 4 : ℚ) (1 / 4)).2.1 [triangle.positions] _ (.cons hsame .nil) _ ?_
    rw [List.forall_mem_singleton]
    exact ⟨⟨0, 0, 1, 1⟩, fun _ => 1 / 4, 1, 0, 2, by decide +kernel⟩
  · exact (pointInRing_cyclic (1 / 4 : ℚ) 1).2.2.1 triangle' (Or.inl (by decide +kernel))
  · exact (pointInRing_cyclic (1 / 4 : ℚ) 1).2.2.2 [triangle'] (Or.inl (by decide +kernel))

end Exact

end GeoRisk.Geospatial
