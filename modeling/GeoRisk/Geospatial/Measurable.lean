import GeoRisk.Geospatial.RawGeometry

/-! Which of the geometries that the constructor lets through can be measured: those whose exterior rings
    are made of positions with two numbers, whose angles the library of mathematics takes, and none of
    whose sides drops by exactly the bias that the ray-casting test divides by:

        [ [ [lon, lat], … ] ]       yj - yi + 1e-15 ≠ 0       |angle| < ∞       0 ≤ haversine -/

namespace GeoRisk

namespace PyFloat

/-- An infinity of either sign. -/
def isInf : PyFloat → Bool
  | .inf _ => true
  | _ => false

end PyFloat

namespace Geospatial

open PyFloat (lt isInf)

/-- The values of the library, for the arguments that it takes. The square of a sine does not
    overflow. -/
structure MathLibrary where
  pow : PyFloat → PyFloat → Except GeospatialError PyFloat
  sinSquared : PyFloat → PyFloat
  sin : PyFloat → PyFloat
  cos : PyFloat → PyFloat
  asin : PyFloat → PyFloat
  sqrt : PyFloat → PyFloat
  pow_sin : ∀ x, pow (sin x) 2 = .ok (sinSquared x)
  sqrt_unit : ∀ x, lt x 0 = false → lt 1 x = false → lt (sqrt x) (-1) = false ∧ lt 1 (sqrt x) = false

def mathDomainError : GeospatialError := ⟨.valueError, "math domain error"⟩

/-- The library as it is called: an infinite angle, a negative radicand and a sine beyond one raise. -/
def MathLibrary.trig (lib : MathLibrary) : Trig where
  pow := lib.pow
  sin x := if x.isInf then .error mathDomainError else .ok (lib.sin x)
  cos x := if x.isInf then .error mathDomainError else .ok (lib.cos x)
  asin x := if lt x (-1) || lt 1 x then .error mathDomainError else .ok (lib.asin x)
  sqrt x := if lt x 0 then .error mathDomainError else .ok (lib.sqrt x)

/-- A library that knows no angle. -/
def MathLibrary.flat : MathLibrary where
  pow _ _ := .ok 0
  sinSquared _ := 0
  sin _ := 0
  cos _ := 1
  asin _ := 0
  sqrt _ := 0
  pow_sin _ := rfl
  sqrt_unit _ _ _ := by decide +kernel

/-! ### What can be measured -/

/-- What `float` makes of a value that it takes. -/
inductive IsFloat : Json → PyFloat → Prop
  | bool (b : Bool) : IsFloat (.bool b) (if b then 1 else 0)
  | int (n : ℤ) (h : (PyFloat.ofRat n).isInf = false) : IsFloat (.int n) (PyFloat.ofRat n)
  | float (x : PyFloat) : IsFloat (.float x) x
  | text (s : String) (x : PyFloat) (h : PyFloat.ofText s = some x) : IsFloat (.str s) x

/-- Two numbers, or two characters that are digits; what follows them is not looked at. -/
inductive IsPosition : Json → Position → Prop
  | arr {x y : Json} {lon lat : PyFloat} (hlon : IsFloat x lon) (hlat : IsFloat y lat)
      (rest : List Json) : IsPosition (.arr (x :: y :: rest)) (lon, lat)
  | text {s : String} {c d : Char} {rest : List Char} {lon lat : PyFloat}
      (hs : s.toList = c :: d :: rest) (hlon : IsFloat (.str (String.singleton c)) lon)
      (hlat : IsFloat (.str (String.singleton d)) lat) : IsPosition (.str s) (lon, lat)

def IsRing (json : Json) (ring : Ring) : Prop :=
  ∃ positions, json = .arr positions ∧ List.Forall₂ IsPosition positions ring

/-- A polygon with that exterior ring. -/
def HasExterior (polygon : Json) (ring : Ring) : Prop :=
  ∃ exterior holes, polygon = .arr (exterior :: holes) ∧ IsRing exterior ring

def RawGeometry.HasExteriors (self : RawGeometry) (rings : List Ring) : Prop :=
  match self.type with
  | .polygon => ∃ ring, rings = [ring] ∧ HasExterior self.coordinates ring
  | .multiPolygon => ∃ polygons, self.coordinates = .arr polygons ∧
      List.Forall₂ HasExterior polygons rings

section Calm

variable (lib : MathLibrary)

def meanLatitude (ring : Ring) : PyFloat :=
  PyFloat.quotient (PyFloat.sum (ring.map Prod.snd)) (PyFloat.ofRat ring.length)

/-- Half of a difference of angles. -/
def halfAngle (degrees degrees' : PyFloat) : PyFloat :=
  PyFloat.quotient (radians (degrees' - degrees)) 2

/-- The haversine between two positions. -/
def haversine (p q : Position) : PyFloat :=
  lib.sinSquared (halfAngle p.2 q.2) +
    lib.cos (radians p.2) * lib.cos (radians q.2) * lib.sinSquared (halfAngle p.1 q.1)

/-- The angles of a side are finite, and its haversine is not negative. -/
structure CalmSide (p q : Position) : Prop where
  latitude : (halfAngle p.2 q.2).isInf = false
  longitude : (halfAngle p.1 q.1).isInf = false
  start : (radians p.2).isInf = false
  stop : (radians q.2).isInf = false
  haversine : lt (haversine lib p q) 0 = false

structure CalmRing (ring : Ring) : Prop where
  mean : (radians (meanLatitude ring)).isInf = false
  sides : ∀ s ∈ ring.zip ring.tail, CalmSide lib s.1 s.2
  /-- No side drops by the bias of the ray-casting test. -/
  drops : ∀ s ∈ ring.zip (ring.getLast?.toList ++ ring), (s.2.2 - s.1.2 + 1e-15).isZero = false

end Calm

/-! ### Arithmetic -/

theorem divide_ok {x y : PyFloat} (h : y.isZero = false) : divide x y = .ok (PyFloat.quotient x y) := by
  rw [divide, PyFloat.truediv, h]
  rfl

theorem divide_error {x y : PyFloat} (h : y.isZero = true) : ¬ ∃ z, divide x y = .ok z := by
  rintro ⟨z, hz⟩
  rw [divide, PyFloat.truediv, h] at hz
  cases hz

theorem one_eq : (1 : PyFloat) = .finite 1 := by decide +kernel

theorem zero_eq : (0 : PyFloat) = .finite 0 := by decide +kernel

/-- No number of items is the float zero. -/
theorem isZero_ofRat_natCast {n : ℕ} (h : 0 < n) : (PyFloat.ofRat n).isZero = false := by
  have hn : (1 : ℚ) ≤ n := by exact_mod_cast h
  have hulp : PyFloat.ulp n ≤ n := by
    have hlog : PyFloat.exponent n ≤ n.log2 := by
      simpa [show Nat.log2 1 = 0 from rfl] using PyFloat.exponent_le n
    have hpow : (2 : ℚ) ^ (n.log2 : ℤ) ≤ n := by
      rw [zpow_natCast]
      exact_mod_cast Nat.log2_self_le h.ne'
    refine le_trans ?_ hpow
    exact zpow_le_zpow_right₀ one_le_two (by omega)
  have hpos : (0 : ℚ) < PyFloat.ulp n := zpow_pos two_pos _
  have hrounded : 1 ≤ PyFloat.roundHalfEven ((n : ℚ) / PyFloat.ulp n) := by
    have hfloor : 1 ≤ ⌊(n : ℚ) / PyFloat.ulp n⌋ :=
      Int.le_floor.mpr (by rw [Int.cast_one]; exact (one_le_div hpos).mpr hulp)
    unfold PyFloat.roundHalfEven
    split <;> omega
  unfold PyFloat.ofRat
  dsimp only
  split
  · rfl
  · rw [PyFloat.isZero, decide_eq_false_iff_not]
    have : (1 : ℚ) ≤ PyFloat.roundHalfEven ((n : ℚ) / PyFloat.ulp n) := by exact_mod_cast hrounded
    positivity

/-- `min(1.0, a)` is negative iff `a` is, and is not above one. -/
theorem minimum_one (a : PyFloat) :
    lt (PyFloat.minimum 1 [a]) 0 = lt a 0 ∧ lt 1 (PyFloat.minimum 1 [a]) = false := by
  have hmin : PyFloat.minimum 1 [a] = if lt a 1 then a else 1 := rfl
  rw [hmin, one_eq, zero_eq]
  cases a with
  | finite q =>
    by_cases h : q < 1
    · simp [lt, h, h.le]
    · have h0 : ¬ q < 0 := fun hneg => h (hneg.trans one_pos)
      simp [lt, h, h0]
  | inf negative => cases negative <;> simp [lt]
  | nan => simp [lt]

/-- Only between different latitudes does a side drop by the bias. -/
theorem lt_or_lt_of_drop {x y : PyFloat} (h : (y - x + 1e-15).isZero = true) :
    lt x y = true ∨ lt y x = true := by
  have hbias : ((0 : PyFloat) + 1e-15).isZero = false := by decide +kernel
  have hfinite : ∃ b, (1e-15 : PyFloat) = .finite b := by
    cases hb : (1e-15 : PyFloat) with
    | finite b => exact ⟨b, rfl⟩
    | inf negative => exact absurd hb (by cases negative <;> decide +kernel)
    | nan => exact absurd hb (by decide +kernel)
  cases x with
  | finite x =>
    cases y with
    | finite y =>
      simp only [lt, decide_eq_true_eq]
      rcases lt_trichotomy x y with hxy | rfl | hxy
      · exact .inl hxy
      · have hzero : (PyFloat.finite x - .finite x : PyFloat) = 0 := by
          change PyFloat.ofRat (x + -x) = 0
          rw [add_neg_cancel]
          decide +kernel
        rw [hzero, hbias] at h
        cases h
      · exact .inr hxy
    | inf negative => cases negative <;> simp [lt]
    | nan =>
      obtain ⟨b, hb⟩ := hfinite
      rw [hb] at h
      cases h
  | inf negative =>
    obtain ⟨b, hb⟩ := hfinite
    rw [hb] at h
    cases y with
    | finite y => cases negative <;> simp [lt]
    | inf negative' => cases negative <;> cases negative' <;> cases h
    | nan => cases h
  | nan =>
    obtain ⟨b, hb⟩ := hfinite
    rw [hb] at h
    cases y <;> cases h

/-! ### Rings that can be measured -/

section Rings

variable {lib : MathLibrary} {ring : Ring} {p q : Position}

theorem sin_ok {x y : PyFloat} : lib.trig.sin x = .ok y ↔ x.isInf = false ∧ lib.sin x = y := by
  cases h : x.isInf <;> simp [MathLibrary.trig, h]

theorem pow_ok {x y : PyFloat} : lib.trig.pow (lib.sin x) 2 = .ok y ↔ lib.sinSquared x = y := by
  simp [MathLibrary.trig, lib.pow_sin]

theorem cos_ok {x y : PyFloat} : lib.trig.cos x = .ok y ↔ x.isInf = false ∧ lib.cos x = y := by
  cases h : x.isInf <;> simp [MathLibrary.trig, h]

theorem sqrt_ok {x y : PyFloat} : lib.trig.sqrt x = .ok y ↔ lt x 0 = false ∧ lib.sqrt x = y := by
  cases h : lt x 0 <;> simp [MathLibrary.trig, h]

theorem asin_ok {x : PyFloat} (h : lt x (-1) = false ∧ lt 1 x = false) :
    lib.trig.asin x = .ok (lib.asin x) := by
  simp [MathLibrary.trig, h]

theorem two_ne_zero' : (2 : PyFloat).isZero = false := by decide +kernel

theorem haversineDistance_ok_iff :
    (∃ d, haversineDistance lib.trig p.2 p.1 q.2 q.1 = .ok d) ↔ CalmSide lib p q := by
  unfold haversineDistance
  simp only [Lib.exists_bind_ok, divide_ok two_ne_zero', Except.ok.injEq, exists_eq_left']
  constructor
  · rintro ⟨s, hs, s2, hs2, c, hc, c', hc', l, hl, l2, hl2, r, hr, -⟩
    obtain ⟨hlatitude, rfl⟩ := sin_ok.mp hs
    obtain rfl := pow_ok.mp hs2
    obtain ⟨hstart, rfl⟩ := cos_ok.mp hc
    obtain ⟨hstop, rfl⟩ := cos_ok.mp hc'
    obtain ⟨hlongitude, rfl⟩ := sin_ok.mp hl
    obtain rfl := pow_ok.mp hl2
    exact ⟨hlatitude, hlongitude, hstart, hstop, (minimum_one _).1 ▸ (sqrt_ok.mp hr).1⟩
  · intro h
    obtain ⟨hmin, hone⟩ := minimum_one (haversine lib p q)
    refine ⟨_, sin_ok.mpr ⟨h.latitude, rfl⟩, _, pow_ok.mpr rfl,
      _, cos_ok.mpr ⟨h.start, rfl⟩, _, cos_ok.mpr ⟨h.stop, rfl⟩,
      _, sin_ok.mpr ⟨h.longitude, rfl⟩, _, pow_ok.mpr rfl,
      _, sqrt_ok.mpr ⟨hmin.trans h.haversine, rfl⟩, _, asin_ok ?_, _, rfl⟩
    exact lib.sqrt_unit _ (hmin.trans h.haversine) hone

theorem ringPerimeterM_ok_iff : (∃ d, ringPerimeterM lib.trig ring = .ok d) ↔
    ∀ s ∈ ring.zip ring.tail, CalmSide lib s.1 s.2 := by
  unfold ringPerimeterM
  simp only [bind_pure_comp]
  refine (Lib.exists_foldlM_map_ok (g := fun total (_ : Position × Position) d => total + d)).trans ?_
  exact forall₂_congr fun s _ => haversineDistance_ok_iff

theorem ringAreaM2_ok_iff (h : 4 ≤ ring.length) : (∃ a, ringAreaM2 lib.trig ring = .ok a) ↔
    (radians (meanLatitude ring)).isInf = false := by
  have hlen : (PyFloat.ofRat ring.length).isZero = false := isZero_ofRat_natCast (by omega)
  unfold ringAreaM2
  rw [if_neg (by omega)]
  simp only [Lib.exists_bind_ok, divide_ok hlen, divide_ok two_ne_zero', Except.ok.injEq,
    exists_eq_left', exists_eq', and_true, cos_ok]
  simp [meanLatitude]

theorem ringCentroid_ok (h : 4 ≤ ring.length) : ∃ c, ringCentroid ring = .ok c := by
  have hmean : ∀ points : Ring, 3 ≤ points.length → ∃ c, (do
      let lon ← divide (PyFloat.sum (points.map Prod.fst)) (PyFloat.ofRat points.length)
      let lat ← divide (PyFloat.sum (points.map Prod.snd)) (PyFloat.ofRat points.length)
      return (lon, lat) : Raised Position) = .ok c := by
    intro points hp
    have hlen : (PyFloat.ofRat points.length).isZero = false := isZero_ofRat_natCast (by omega)
    rw [divide_ok hlen, divide_ok hlen]
    exact ⟨_, rfl⟩
  have hlen : ∀ closed : Bool, 3 ≤ (if closed then ring.dropLast else ring).length := by
    intro closed
    cases closed <;> simp <;> omega
  exact hmean _ (hlen _)

theorem ringBbox_ok (h : 4 ≤ ring.length) : ∃ b, ringBbox ring = .ok b := by
  cases ring with
  | nil => simp at h
  | cons p ring => exact ⟨_, rfl⟩

theorem ringStatistics_ok_iff (h : 4 ≤ ring.length) :
    (∃ s, ringStatistics lib.trig ring = .ok s) ↔
      (radians (meanLatitude ring)).isInf = false ∧
        ∀ s ∈ ring.zip ring.tail, CalmSide lib s.1 s.2 := by
  rw [← ringAreaM2_ok_iff h, ← ringPerimeterM_ok_iff]
  unfold ringStatistics
  simp only [Lib.exists_bind_ok]
  constructor
  · rintro ⟨a, ha, d, hd, -⟩
    exact ⟨⟨a, ha⟩, ⟨d, hd⟩⟩
  · rintro ⟨⟨a, ha⟩, ⟨d, hd⟩⟩
    obtain ⟨c, hc⟩ := ringCentroid_ok h
    obtain ⟨b, hb⟩ := ringBbox_ok h
    exact ⟨a, ha, d, hd, c, hc, b, hb, _, rfl⟩

theorem isZero_of_pos {x : PyFloat} (h : lt 0 x = true) : x.isZero = false := by
  rw [zero_eq] at h
  cases x with
  | finite q => simpa [PyFloat.isZero] using (show 0 < q by simpa [lt] using h).ne'
  | inf negative => rfl
  | nan => rfl

theorem unionBbox_ok {boxes : List BoundingBox} (h : boxes ≠ []) : ∃ b, unionBbox boxes = .ok b := by
  cases boxes with
  | nil => exact absurd rfl h
  | cons b boxes => exact ⟨_, rfl⟩

theorem aggregate_ok {stats : List RingStatistics} (h : stats ≠ []) :
    ∃ s, aggregate stats = .ok s := by
  have hlen : (PyFloat.ofRat stats.length).isZero = false :=
    isZero_ofRat_natCast (List.length_pos_of_ne_nil h)
  obtain ⟨b, hb⟩ := @unionBbox_ok (stats.map (·.bbox)) (by simpa using h)
  unfold aggregate
  cases hw : lt 0 (PyFloat.sum (stats.map (·.area))) with
  | true =>
    simp only [hw, if_true, divide_ok (isZero_of_pos hw), hb]
    exact ⟨_, rfl⟩
  | false =>
    simp only [hw, Bool.false_eq_true, if_false, divide_ok hlen, hb]
    exact ⟨_, rfl⟩

/-! ### A side that drops by the bias -/

theorem intersects_ok {lon lat : PyFloat} (h : (q.2 - p.2 + 1e-15).isZero = false) :
    ∃ b, intersects lon lat p q = .ok b := by
  unfold intersects
  rw [divide_ok h]
  split <;> exact ⟨_, rfl⟩

/-- A latitude at which the test of the side divides by zero. -/
theorem exists_latitude (h : (q.2 - p.2 + 1e-15).isZero = true) :
    ∃ lat, ∀ lon, ¬ ∃ b, intersects lon lat p q = .ok b := by
  have hself : ∀ x, lt x x = false := by
    intro x
    cases x <;> simp [lt]
  have hsplit : ∃ lat, (lt lat p.2 != lt lat q.2) = true := by
    rcases lt_or_lt_of_drop h with h | h
    · exact ⟨p.2, by rw [hself, h]; rfl⟩
    · exact ⟨q.2, by rw [hself, h]; rfl⟩
  obtain ⟨lat, hlat⟩ := hsplit
  refine ⟨lat, fun lon => ?_⟩
  unfold intersects
  rw [if_pos hlat, Lib.exists_bind_ok]
  rintro ⟨z, hz, -⟩
  exact divide_error h ⟨z, hz⟩

/-- East of everything, nothing is inside. -/
theorem intersects_east {lat : PyFloat} {b : Bool}
    (h : intersects (.inf false) lat p q = .ok b) : b = false := by
  unfold intersects at h
  split at h
  · obtain ⟨z, -, hret⟩ := Lib.bind_ok.mp h
    cases hret
    cases z + p.1 <;> simp [lt]
  · cases h
    rfl

/-- The sides as the ray-casting test visits them. -/
def visits (ring : Ring) : List (Position × Position) := ring.zip (ring.getLast?.toList ++ ring)

theorem pointInRing_ok_iff {lon lat : PyFloat} : (∃ b, pointInRing lon lat ring = .ok b) ↔
    ∀ s ∈ visits ring, ∃ b, intersects lon lat s.1 s.2 = .ok b := by
  unfold pointInRing
  simp only [bind_pure_comp]
  exact Lib.exists_foldlM_map_ok (g := fun inside (_ : Position × Position) crosses =>
    xor inside crosses)

theorem pointInRing_east {lat : PyFloat} {b : Bool}
    (h : pointInRing (.inf false) lat ring = .ok b) : b = false := by
  refine Lib.foldlM_inv (P := (· = false)) (fun s _ b b' hb hstep => ?_) rfl h
  obtain ⟨c, hc, hret⟩ := Lib.bind_ok.mp hstep
  cases hret
  rw [hb, intersects_east hc]
  rfl

/-! ### Searches -/

theorem anyM_ok {ε α : Type} {f : α → Except ε Bool} {as : List α}
    (h : ∀ a ∈ as, ∃ b, f a = .ok b) : ∃ b, as.anyM f = .ok b := by
  induction as with
  | nil => exact ⟨false, rfl⟩
  | cons a as ih =>
    obtain ⟨b, hb⟩ := h a List.mem_cons_self
    rw [List.anyM, hb]
    cases b with
    | true => exact ⟨true, rfl⟩
    | false => exact ih fun a ha => h a (List.mem_cons_of_mem _ ha)

/-- A search that finds nothing looks at everything. -/
theorem ok_of_anyM {ε α : Type} {f : α → Except ε Bool} {as : List α} {b : Bool}
    (h : as.anyM f = .ok b) (hf : ∀ a ∈ as, ∀ b, f a = .ok b → b = false) :
    ∀ a ∈ as, ∃ b, f a = .ok b := by
  induction as with
  | nil => simp
  | cons a as ih =>
    rw [List.anyM] at h
    obtain ⟨found, hfound, h⟩ := Lib.bind_ok.mp h
    obtain rfl := hf a List.mem_cons_self found hfound
    rw [List.forall_mem_cons]
    exact ⟨⟨false, hfound⟩, ih h fun a ha => hf a (List.mem_cons_of_mem _ ha)⟩

/-! ### What the constructor lets through -/

theorem notTooLarge_ok_iff {x y : PyFloat} :
    notTooLarge x = .ok y ↔ x.isInf = false ∧ x = y := by
  cases x <;> simp [notTooLarge, isInf]

theorem toFloat_ok_iff {json : Json} {x : PyFloat} : toFloat json = .ok x ↔ IsFloat json x := by
  constructor
  · intro h
    cases json with
    | bool b => cases h; exact .bool b
    | float y => cases h; exact .float _
    | int n =>
      obtain ⟨hn, rfl⟩ := notTooLarge_ok_iff.mp h
      exact .int n hn
    | str s =>
      rw [toFloat] at h
      cases hs : PyFloat.ofText s with
      | none => rw [hs] at h; cases h
      | some y => rw [hs] at h; cases h; exact .text s _ hs
    | _ => cases h
  · intro h
    cases h with
    | bool b => rfl
    | float => rfl
    | int n hn => exact notTooLarge_ok_iff.mpr ⟨hn, rfl⟩
    | text s x hs => rw [toFloat, hs]

theorem ringPoint_ok_iff {json : Json} {p : Position} : ringPoint json = .ok p ↔ IsPosition json p := by
  unfold ringPoint
  simp only [Lib.bind_ok, toFloat_ok_iff]
  constructor
  · rintro ⟨x, hx, lon, hlon, y, hy, lat, hlat, hret⟩
    cases hret
    cases json with
    | arr items =>
      match items, hx, hy with
      | x' :: y' :: rest, hx, hy =>
        cases hx
        cases hy
        exact .arr hlon hlat rest
    | str s =>
      match hs : s.toList with
      | [] => simp [subscript, characters, hs] at hx
      | [c] => simp [subscript, characters, hs] at hy
      | c :: d :: rest =>
        simp only [subscript, characters, hs] at hx hy
        cases hx
        cases hy
        exact .text hs hlon hlat
    | _ => cases hx
  · intro h
    cases h with
    | arr hlon hlat rest => exact ⟨_, rfl, _, hlon, _, rfl, _, hlat, rfl⟩
    | text hs hlon hlat =>
      refine ⟨_, ?_, _, hlon, _, ?_, _, hlat, rfl⟩
      · simp [subscript, characters, hs]
      · simp [subscript, characters, hs]

/-- A ring that the constructor lets through: an array of four positions or more, or a text. -/
theorem checkRing_ok {json : Json} (h : checkRing json = .ok ()) :
    (∃ positions, json = .arr positions ∧ 4 ≤ positions.length) ∨
      ∃ s : String, json = .str s ∧ 4 ≤ s.length := by
  obtain ⟨n, hn, h⟩ := Lib.bind_ok.mp h
  split at h
  · cases h
  · next hfour =>
    obtain ⟨first, hfirst, -⟩ := Lib.bind_ok.mp h
    cases json with
    | arr positions => cases hn; exact .inl ⟨positions, rfl, by omega⟩
    | str s => cases hn; exact .inr ⟨s, rfl, by omega⟩
    | obj fields => cases hfirst
    | _ => cases hn

/-- Of those, the arrays of positions have points. -/
theorem ringPoints_ok_iff {json : Json} (h : checkRing json = .ok ()) :
    ringPoints json = .ok ring ↔ IsRing json ring := by
  unfold ringPoints
  rw [Lib.bind_ok]
  rcases checkRing_ok h with ⟨positions, rfl, -⟩ | ⟨s, rfl, hs⟩
  · constructor
    · rintro ⟨items, hitems, hpoints⟩
      cases hitems
      exact ⟨positions, rfl, (Lib.mapM_ok.mp hpoints).imp fun _ _ => ringPoint_ok_iff.mp⟩
    · rintro ⟨items, hitems, hpoints⟩
      cases hitems
      exact ⟨positions, rfl, Lib.mapM_ok.mpr (hpoints.imp fun _ _ => ringPoint_ok_iff.mpr)⟩
  · constructor
    · rintro ⟨items, hitems, hpoints⟩
      cases hitems
      -- a character has no second item
      obtain ⟨c, hc⟩ : ∃ c, c ∈ s.toList := by
        refine List.exists_mem_of_length_pos ?_
        rw [String.length_toList]
        omega
      obtain ⟨p, -, hp⟩ := Lib.exists_of_mapM_ok hpoints _ (List.mem_map_of_mem hc)
      cases ringPoint_ok_iff.mp hp with
      | text hs => simp at hs
    · rintro ⟨positions, hpositions, -⟩
      cases hpositions

end Rings

section Exteriors

variable {self : RawGeometry} {rings polygons : List Json} {points : List Ring}

/-- What the constructor has checked. -/
theorem RawGeometry.checked (self : RawGeometry) : self.coordinates.truthy = true ∧
    ∃ rings, ringsOf self.type self.coordinates = .ok rings ∧ ∀ r ∈ rings, checkRing r = .ok () := by
  obtain ⟨type, -, h⟩ := Lib.bind_ok.mp self.accepted
  dsimp only at h
  split at h
  · next htruthy =>
    obtain ⟨rings, hrings, h⟩ := Lib.bind_ok.mp h
    obtain ⟨⟨⟩, hcheck, hret⟩ := Lib.bind_ok.mp h
    obtain ⟨htype, hcoordinates⟩ := Prod.mk.inj (Except.ok.inj hret)
    rw [← htype, ← hcoordinates]
    exact ⟨htruthy, rings, hrings, forM_ok.mp hcheck⟩
  · cases h

/-- A value that is iterated over is an array, or gives texts. -/
theorem iterate_ok {json : Json} {items : List Json} (h : iterate json = .ok items) :
    json = .arr items ∨ ∀ x ∈ items, ∃ s, x = .str s := by
  cases json with
  | arr items' => cases h; exact .inl rfl
  | str s =>
    cases h
    refine .inr fun x hx => ?_
    obtain ⟨c, -, rfl⟩ := List.mem_map.mp hx
    exact ⟨_, rfl⟩
  | obj fields =>
    cases h
    refine .inr fun x hx => ?_
    obtain ⟨q, -, rfl⟩ := List.mem_map.mp hx
    exact ⟨_, rfl⟩
  | _ => cases h

theorem iterate_ne_nil {json : Json} {items : List Json} (h : iterate json = .ok items)
    (ht : json.truthy = true) : items ≠ [] := by
  cases json with
  | arr items' => cases h; simpa [Json.truthy] using ht
  | str s =>
    cases h
    simpa [Json.truthy, characters] using ht
  | obj fields => cases h; simpa [Json.truthy] using ht
  | _ => cases h

/-- The first item of a value is one of those checked, and if it passed, the value is an array. -/
theorem subscript_zero {json r : Json} (h : subscript json 0 = .ok r) :
    (∃ items, iterate json = .ok items ∧ r ∈ items) ∧
      (checkRing r = .ok () → ∃ rest, json = .arr (r :: rest)) := by
  cases json with
  | arr items =>
    cases items with
    | nil => cases h
    | cons r' rest =>
      cases h
      exact ⟨⟨_, rfl, List.mem_cons_self⟩, fun _ => ⟨rest, rfl⟩⟩
  | str s =>
    cases hs : s.toList with
    | nil => simp [subscript, characters, hs] at h
    | cons c cs =>
      simp only [subscript, characters, hs] at h
      cases h
      refine ⟨⟨_, rfl, by simp [characters, hs]⟩, fun hcheck => ?_⟩
      -- one character is not a ring
      rcases checkRing_ok hcheck with ⟨positions, heq, -⟩ | ⟨s', heq, hlen⟩
      · cases heq
      · cases heq
        simp at hlen
  | _ => cases h

theorem hasExteriors_of_subscripts
    (h : List.Forall₂ (fun polygon r => subscript polygon 0 = .ok r) polygons rings)
    (hcheck : ∀ r ∈ rings, checkRing r = .ok ()) (hpoints : List.Forall₂ IsRing rings points) :
    List.Forall₂ HasExterior polygons points := by
  induction h generalizing points with
  | nil => cases hpoints; exact .nil
  | cons hr _ ih =>
    cases hpoints with
    | cons hring hpoints =>
      rw [List.forall_mem_cons] at hcheck
      obtain ⟨rest, rfl⟩ := (subscript_zero hr).2 hcheck.1
      exact .cons ⟨_, rest, rfl, hring⟩ (ih hcheck.2 hpoints)

theorem subscripts_of_hasExteriors (h : List.Forall₂ HasExterior polygons points) :
    ∃ rings, polygons.mapM (subscript · 0) = .ok rings ∧ List.Forall₂ IsRing rings points := by
  induction h with
  | nil => exact ⟨[], rfl, .nil⟩
  | cons hpolygon _ ih =>
    obtain ⟨exterior, holes, rfl, hring⟩ := hpolygon
    obtain ⟨rings, hrings, hpoints⟩ := ih
    exact ⟨exterior :: rings, Lib.mapM_ok.mpr (.cons rfl (Lib.mapM_ok.mp hrings)),
      .cons hring hpoints⟩

/-- Exterior rings have been checked, and what they are made of is what the geometry has. -/
theorem exteriorRings_ok (h : self.exteriorRings = .ok rings) :
    rings ≠ [] ∧ (∀ r ∈ rings, checkRing r = .ok ()) ∧
      ∀ points, List.Forall₂ IsRing rings points → self.HasExteriors points := by
  obtain ⟨htruthy, checked, hchecked, hcheck⟩ := self.checked
  unfold RawGeometry.exteriorRings at h
  unfold RawGeometry.HasExteriors
  cases htype : self.type with
  | polygon =>
    rw [htype] at h hchecked
    obtain ⟨r, hr, hret⟩ := Lib.bind_ok.mp h
    cases hret
    obtain ⟨⟨items, hitems, hmem⟩, harr⟩ := subscript_zero hr
    have hr' : checkRing r = .ok () := by
      rw [ringsOf, hitems] at hchecked
      cases hchecked
      exact hcheck r hmem
    refine ⟨by simp, by simpa using hr', fun points hpoints => ?_⟩
    cases hpoints with
    | cons hring hnil =>
      cases hnil
      obtain ⟨rest, hrest⟩ := harr hr'
      exact ⟨_, rfl, r, rest, hrest, hring⟩
  | multiPolygon =>
    rw [htype] at h hchecked
    obtain ⟨polygons, hpolygons, hrings⟩ := Lib.bind_ok.mp h
    have hsub := Lib.mapM_ok.mp hrings
    have hne : rings ≠ [] := by
      rintro rfl
      rw [List.forall₂_nil_right_iff] at hsub
      exact iterate_ne_nil hpolygons htruthy hsub
    have hr : ∀ r ∈ rings, checkRing r = .ok () := by
      intro r hr
      obtain ⟨polygon, hpolygon, hr⟩ := Lib.mem_of_mapM_ok hrings r hr
      obtain ⟨items, hitems, hmem⟩ := (subscript_zero hr).1
      rw [ringsOf] at hchecked
      obtain ⟨polygons', hpolygons', hchecked⟩ := Lib.bind_ok.mp hchecked
      rw [hpolygons] at hpolygons'
      cases hpolygons'
      obtain ⟨lists, hlists, hret⟩ := Lib.bind_ok.mp hchecked
      cases hret
      obtain ⟨items', hitems', hiter⟩ := Lib.exists_of_mapM_ok hlists polygon hpolygon
      rw [hitems] at hiter
      cases hiter
      exact hcheck r (List.mem_flatten.mpr ⟨_, hitems', hmem⟩)
    refine ⟨hne, hr, fun points hpoints => ?_⟩
    have hexteriors := hasExteriors_of_subscripts hsub hr hpoints
    rcases iterate_ok hpolygons with harr | htexts
    · exact ⟨polygons, harr, hexteriors⟩
    · -- a text is not a polygon
      cases hexteriors with
      | nil => exact absurd rfl (iterate_ne_nil hpolygons htruthy)
      | cons hpolygon _ =>
        obtain ⟨_, _, heq, -⟩ := hpolygon
        obtain ⟨s, hs⟩ := htexts _ List.mem_cons_self
        rw [hs] at heq
        cases heq

theorem exteriorRings_of_hasExteriors (h : self.HasExteriors points) :
    ∃ rings, self.exteriorRings = .ok rings ∧ List.Forall₂ IsRing rings points := by
  unfold RawGeometry.exteriorRings
  unfold RawGeometry.HasExteriors at h
  cases htype : self.type with
  | polygon =>
    rw [htype] at h
    obtain ⟨ring, rfl, exterior, holes, hcoordinates, hring⟩ := h
    rw [hcoordinates]
    exact ⟨[exterior], rfl, .cons hring .nil⟩
  | multiPolygon =>
    rw [htype] at h
    obtain ⟨polygons, hcoordinates, hexteriors⟩ := h
    rw [hcoordinates]
    exact subscripts_of_hasExteriors hexteriors

end Exteriors

/-! ### Accepted geometries that can be measured -/

section Measurable

variable {self : RawGeometry} {lib : MathLibrary} {json : Json} {rings : List Json}
  {points : List Ring} {ring : Ring}

/-- The functions that measure a geometry return, the last one for every point. -/
structure Measured (lib : MathLibrary) (geometry : RawGeometry) : Prop where
  exteriorRings : ∃ rings, geometry.exteriorRings = .ok rings
  statistics : ∃ stats, geometry.computeAoiStatistics lib.trig = .ok stats
  contains : ∀ longitude latitude,
    ∃ inside, geometry.pointInGeometry longitude latitude = .ok inside

theorem four_le_length (hcheck : checkRing json = .ok ()) (hring : IsRing json ring) :
    4 ≤ ring.length := by
  obtain ⟨positions, rfl, hpositions⟩ := hring
  rcases checkRing_ok hcheck with ⟨positions', heq, hlen⟩ | ⟨s, heq, -⟩
  · cases heq
    exact hpositions.length_eq ▸ hlen
  · cases heq

theorem exists_forall₂_iff {α β : Type} {R : α → β → Prop} {P : β → Prop} {as : List α} :
    (∃ bs, List.Forall₂ R as bs ∧ ∀ b ∈ bs, P b) ↔ ∀ a ∈ as, ∃ b, R a b ∧ P b := by
  induction as with
  | nil => simp
  | cons a as ih =>
    rw [List.forall_mem_cons, ← ih]
    constructor
    · rintro ⟨bs, h, hP⟩
      cases h with
      | cons hb hbs =>
        rw [List.forall_mem_cons] at hP
        exact ⟨⟨_, hb, hP.1⟩, _, hbs, hP.2⟩
    · rintro ⟨⟨b, hb, hPb⟩, bs, hbs, hP⟩
      exact ⟨b :: bs, .cons hb hbs, List.forall_mem_cons.mpr ⟨hPb, hP⟩⟩

/-- Statistics are computed iff every ring has points, whose angles the library takes. -/
theorem statistics_ok_iff (hrings : self.exteriorRings = .ok rings)
    (hne : rings ≠ []) (hcheck : ∀ r ∈ rings, checkRing r = .ok ()) :
    (∃ stats, self.computeAoiStatistics lib.trig = .ok stats) ↔
      ∃ points, List.Forall₂ IsRing rings points ∧ ∀ ring ∈ points,
        (radians (meanLatitude ring)).isInf = false ∧
          ∀ s ∈ ring.zip ring.tail, CalmSide lib s.1 s.2 := by
  have hring : ∀ r ∈ rings,
      (∃ s, (do ringStatistics lib.trig (← ringPoints r) : Raised RingStatistics) = .ok s) ↔
        ∃ ring, IsRing r ring ∧ (radians (meanLatitude ring)).isInf = false ∧
          ∀ s ∈ ring.zip ring.tail, CalmSide lib s.1 s.2 := by
    intro r hr
    rw [Lib.exists_bind_ok]
    refine exists_congr fun ring => ?_
    rw [ringPoints_ok_iff (hcheck r hr)]
    exact and_congr_right fun h => ringStatistics_ok_iff (four_le_length (hcheck r hr) h)
  unfold RawGeometry.computeAoiStatistics
  rw [exists_forall₂_iff, hrings]
  constructor
  · rintro ⟨stats, h⟩ r hr
    obtain ⟨rings', hrings', h⟩ := Lib.bind_ok.mp h
    cases hrings'
    obtain ⟨all, hall, -⟩ := Lib.bind_ok.mp h
    obtain ⟨s, -, hs⟩ := Lib.exists_of_mapM_ok hall r hr
    exact (hring r hr).mp ⟨s, hs⟩
  · intro h
    obtain ⟨all, hall, -⟩ := exists_forall₂_iff (P := fun _ => True).mpr fun r hr => by
      obtain ⟨s, hs⟩ := (hring r hr).mpr (h r hr)
      exact ⟨s, hs, trivial⟩
    have hall_ne : all ≠ [] := by
      rintro rfl
      exact hne (List.forall₂_nil_right_iff.mp hall)
    obtain ⟨stats, hstats⟩ := aggregate_ok hall_ne
    exact ⟨stats, Lib.bind_ok.mpr ⟨rings, rfl, Lib.bind_ok.mpr ⟨all, Lib.mapM_ok.mpr hall, hstats⟩⟩⟩

/-- An accepted geometry can be measured, and tested against every point, iff its exterior rings are
    made of positions with two numbers, their angles are finite and their haversines not negative,
    and no side drops by the bias. -/
theorem measured_iff (lib : MathLibrary) (self : RawGeometry) : Measured lib self ↔
    ∃ points, self.HasExteriors points ∧ ∀ ring ∈ points, CalmRing lib ring := by
  constructor
  · rintro ⟨⟨rings, hrings⟩, hstats, hcontains⟩
    obtain ⟨hne, hcheck, hexteriors⟩ := exteriorRings_ok hrings
    obtain ⟨points, hpoints, hcalm⟩ := (statistics_ok_iff hrings hne hcheck).mp hstats
    refine ⟨points, hexteriors points hpoints, fun ring hring => ?_⟩
    refine ⟨(hcalm ring hring).1, (hcalm ring hring).2, fun s hs => ?_⟩
    by_contra hdrop
    rw [Bool.not_eq_false] at hdrop
    obtain ⟨lat, hlat⟩ := exists_latitude hdrop
    -- a point so far east that no ring before this one ends the search
    obtain ⟨inside, h⟩ := hcontains (.inf false) lat
    obtain ⟨rings', hrings', h⟩ := Lib.bind_ok.mp h
    rw [hrings] at hrings'
    cases hrings'
    obtain ⟨r, hr, hrr⟩ : ∃ r ∈ rings, IsRing r ring := by
      obtain ⟨i, hi, hget⟩ := List.getElem_of_mem hring
      have hi' : i < rings.length := hpoints.length_eq ▸ hi
      have hget' := hpoints.get hi' hi
      rw [List.get_eq_getElem, List.get_eq_getElem, hget] at hget'
      exact ⟨rings[i], List.getElem_mem hi', hget'⟩
    have hall := ok_of_anyM h fun r hr b hb => by
      obtain ⟨ring', -, hb⟩ := Lib.bind_ok.mp hb
      exact pointInRing_east hb
    obtain ⟨b, hb⟩ := hall r hr
    obtain ⟨ring', hring', hb⟩ := Lib.bind_ok.mp hb
    rw [(ringPoints_ok_iff (hcheck r hr)).mpr hrr] at hring'
    cases hring'
    exact hlat _ (pointInRing_ok_iff.mp ⟨b, hb⟩ s hs)
  · rintro ⟨points, hexteriors, hcalm⟩
    obtain ⟨rings, hrings, hpoints⟩ := exteriorRings_of_hasExteriors hexteriors
    obtain ⟨hne, hcheck, -⟩ := exteriorRings_ok hrings
    have hparts : ∀ r ∈ rings, ∃ ring, IsRing r ring ∧ CalmRing lib ring :=
      exists_forall₂_iff.mp ⟨points, hpoints, hcalm⟩
    refine ⟨⟨rings, hrings⟩, ?_, fun lon lat => ?_⟩
    · exact (statistics_ok_iff hrings hne hcheck).mpr ⟨points, hpoints, fun ring hring =>
        ⟨(hcalm ring hring).mean, (hcalm ring hring).sides⟩⟩
    · unfold RawGeometry.pointInGeometry
      rw [hrings]
      refine anyM_ok fun r hr => ?_
      obtain ⟨ring, hring, hcalm⟩ := hparts r hr
      rw [Lib.exists_bind_ok]
      exact ⟨ring, (ringPoints_ok_iff (hcheck r hr)).mpr hring,
        pointInRing_ok_iff.mpr fun s hs => intersects_ok (hcalm.drops s hs)⟩

/-- A polygon without rings is let through, and has no exterior ring. -/
theorem measured_empty_polygon : ∃ self : RawGeometry,
    self.geojson = [("type", .str "MultiPolygon"), ("coordinates", .arr [.arr []])] ∧
      ∀ lib, ¬ Measured lib self := by
  refine ⟨⟨_, .multiPolygon, .arr [.arr []], rfl⟩, rfl, fun lib h => ?_⟩
  obtain ⟨rings, hrings⟩ := h.exteriorRings
  cases hrings

end Measurable

end Geospatial

end GeoRisk
