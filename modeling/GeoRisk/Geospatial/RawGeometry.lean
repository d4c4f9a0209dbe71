import GeoRisk.DataAcquisition.ContentValidation
import GeoRisk.FloatRepr
import GeoRisk.FloatText
import GeoRisk.Geospatial.Geometry
import GeoRisk.Lib.Results

/-! Geometries before anything is known of their coordinates: the dictionary that the constructor is
    given, whose `coordinates` may be any JSON. The constructor takes lengths and first and last
    positions; the measuring functions index and convert whatever they find. Texts and objects have
    a length and are iterated over too:

        arr      items        by position
        str      characters   by position
        obj      keys         raises KeyError
        else     raises TypeError

    On arrays of floats the two agree with what `Geometry` does. -/

namespace GeoRisk

namespace Json

/-! ### Values of JSON in Python -/

/-- What a number or a boolean compares as. -/
def number : Json → Option PyFloat
  | .bool b => some (.finite (if b then 1 else 0))
  | .int n => some (.finite n)
  | .float x => some x
  | _ => none

mutual
/-- `a == b`; there is only one object `nan`. -/
def eq : Json → Json → Bool
  | .null, .null => true
  | .str s, .str t => s = t
  | .arr xs, .arr ys => eqItems xs ys
  | .obj xs, .obj ys => xs.length = ys.length && eqFields xs ys
  | x, y => x.number.isSome && x.number = y.number

/-- `tuple(xs) == tuple(ys)`. -/
def eqItems : List Json → List Json → Bool
  | [], [] => true
  | x :: xs, y :: ys => x.eq y && eqItems xs ys
  | _, _ => false

/-- Every field is one of the others. -/
def eqFields : List (String × Json) → List (String × Json) → Bool
  | [], _ => true
  | (key, x) :: xs, ys =>
    (match ys.lookup key with
      | some y => x.eq y
      | none => false) && eqFields xs ys
end

/-- `bool(value)`. -/
def truthy : Json → Bool
  | .null => false
  | .bool b => b
  | .int n => n ≠ 0
  | .float x => !x.isZero
  | .str s => s ≠ ""
  | .arr items => items ≠ []
  | .obj fields => !fields.isEmpty

end Json

namespace Geospatial

abbrev Raised := Except GeospatialError

def typeError (message : String) : GeospatialError := ⟨.typeError, message⟩

/-- The characters of a text, each a text of its own. -/
def characters (s : String) : List Json := s.toList.map fun c => .str (String.singleton c)

/-- `list(value)`. -/
def iterate : Json → Raised (List Json)
  | .arr items => .ok items
  | .str s => .ok (characters s)
  | .obj fields => .ok (fields.map fun p => .str p.1)
  | value => .error (typeError s!"'{value.typeName}' object is not iterable")

/-- `len(value)`. -/
def len : Json → Raised ℕ
  | .arr items => .ok items.length
  | .str s => .ok s.length
  | .obj fields => .ok fields.length
  | value => .error (typeError s!"object of type '{value.typeName}' has no len()")

/-- `value[index]`, for an index from the front. -/
def subscript (value : Json) (index : ℕ) : Raised Json :=
  match value with
  | .arr items =>
    match items[index]? with
    | some item => .ok item
    | none => .error indexError
  | .str s =>
    match (characters s)[index]? with
    | some c => .ok c
    | none => .error ⟨.indexError, "string index out of range"⟩
  | .obj _ => .error ⟨.keyError, toString index⟩
  | value => .error (typeError s!"'{value.typeName}' object is not subscriptable")

/-- `value[-1]`. -/
def lastItem (value : Json) : Raised Json :=
  match value with
  | .arr items =>
    match items.getLast? with
    | some item => .ok item
    | none => .error indexError
  | .str s =>
    match (characters s).getLast? with
    | some c => .ok c
    | none => .error ⟨.indexError, "string index out of range"⟩
  | .obj _ => .error ⟨.keyError, "-1"⟩
  | value => .error (typeError s!"'{value.typeName}' object is not subscriptable")

/-- A whole number that has been rounded to a float. -/
def notTooLarge : PyFloat → Raised PyFloat
  | .inf _ => .error ⟨.overflowError, "int too large to convert to float"⟩
  | x => .ok x

/-- `float(value)`. -/
def toFloat : Json → Raised PyFloat
  | .bool b => .ok (if b then 1 else 0)
  | .int n => notTooLarge (PyFloat.ofRat n)
  | .float x => .ok x
  | .str s =>
    match PyFloat.ofText s with
    | some x => .ok x
    | none => .error ⟨.valueError, "could not convert string to float: " ++ pyRepr s⟩
  | value => .error (typeError
      s!"float() argument must be a string or a real number, not '{value.typeName}'")

/-! ### The constructor -/

/-- `repr` of what is not a container. -/
def scalarRepr : Json → String
  | .bool b => if b then "True" else "False"
  | .int n => toString n
  | .float x => x.repr
  | .str s => pyRepr s
  | _ => "None"

/-- The two types a geometry may have. -/
inductive GeometryType where | polygon | multiPolygon
  deriving DecidableEq

def GeometryType.value : GeometryType → String
  | .polygon => "Polygon"
  | .multiPolygon => "MultiPolygon"

/-- `geojson.get("type")`, as one of the two. -/
def geometryType (geojson : List (String × Json)) : Raised GeometryType :=
  match (geojson.lookup "type").getD .null with
  | .arr _ => .error (typeError "unhashable type: 'list'")
  | .obj _ => .error (typeError "unhashable type: 'dict'")
  | .str "Polygon" => .ok .polygon
  | .str "MultiPolygon" => .ok .multiPolygon
  | value => .error ⟨.valueError,
      "Geometry.geojson['type'] must be one of ['MultiPolygon', 'Polygon'], got " ++
        scalarRepr value⟩

/-- `_rings`. -/
def ringsOf (type : GeometryType) (coordinates : Json) : Raised (List Json) :=
  match type with
  | .polygon => iterate coordinates
  | .multiPolygon => do return (← (← iterate coordinates).mapM iterate).flatten

/-- One round of the constructor's loop. -/
def checkRing (ring : Json) : Raised Unit := do
  let n ← len ring
  if n < 4 then
    throw ⟨.valueError,
      s!"Geometry ring must have at least 4 positions (closed triangle), got {n}"⟩
  else
    let first ← iterate (← subscript ring 0)
    let last ← iterate (← lastItem ring)
    if Json.eqItems first last then return ()
    else throw ⟨.valueError, "Geometry ring must be closed (first position == last position)"⟩

/-- `Geometry.__post_init__`, with what it has read of the dictionary. -/
def postInit (geojson : List (String × Json)) : Raised (GeometryType × Json) := do
  let type ← geometryType geojson
  let coordinates := (geojson.lookup "coordinates").getD .null
  if coordinates.truthy then
    let rings ← ringsOf type coordinates
    rings.forM checkRing
    return (type, coordinates)
  else throw ⟨.valueError, "Geometry.geojson['coordinates'] must be non-empty"⟩

/-- A geometry that the constructor has let through: its dictionary, and the type and coordinates
    in it. -/
structure RawGeometry where
  geojson : List (String × Json)
  type : GeometryType
  coordinates : Json
  accepted : postInit geojson = .ok (type, coordinates)

/-! ### Measuring -/

/-- One position of `_ring_points`. -/
def ringPoint (position : Json) : Raised Position := do
  let lon ← toFloat (← subscript position 0)
  let lat ← toFloat (← subscript position 1)
  return (lon, lat)

/-- `_ring_points`. -/
def ringPoints (ring : Json) : Raised Ring := do (← iterate ring).mapM ringPoint

namespace RawGeometry

def exteriorRings (self : RawGeometry) : Raised (List Json) :=
  match self.type with
  | .polygon => do return [← subscript self.coordinates 0]
  | .multiPolygon => do (← iterate self.coordinates).mapM (subscript · 0)

def pointInGeometry (longitude latitude : PyFloat) (self : RawGeometry) : Raised Bool := do
  (← self.exteriorRings).anyM fun ring => do pointInRing longitude latitude (← ringPoints ring)

end RawGeometry

section Statistics

variable (math : Trig)

/-- What is computed of one ring. -/
def ringStatistics (ring : Ring) : Raised RingStatistics := do
  return { area := ← ringAreaM2 math ring, perimeter := ← ringPerimeterM math ring
           centroid := ← ringCentroid ring, bbox := ← ringBbox ring }

/-- What is computed of the rings together. -/
def aggregate (stats : List RingStatistics) : Raised AoiStatistics := do
  let totalArea := PyFloat.sum (stats.map (·.area))
  let totalPerimeter := PyFloat.sum (stats.map (·.perimeter))
  let weighted := PyFloat.lt 0 totalArea
  let mean (coordinate : Position → PyFloat) : Raised PyFloat :=
    if weighted then divide (PyFloat.sum (stats.map fun s => s.area * coordinate s.centroid)) totalArea
    else divide (PyFloat.sum (stats.map fun s => coordinate s.centroid)) (PyFloat.ofRat stats.length)
  let lon ← mean Prod.fst
  let lat ← mean Prod.snd
  return {
    areaM2 := totalArea.roundTo 2, perimeterM := totalPerimeter.roundTo 2
    centroid := { longitude := lon.roundTo 6, latitude := lat.roundTo 6 }
    bbox := ← unionBbox (stats.map (·.bbox)) }

/-- Each function converts the ring again, with the same outcome. -/
def RawGeometry.computeAoiStatistics (self : RawGeometry) : Raised AoiStatistics := do
  aggregate (← (← self.exteriorRings).mapM fun ring => do ringStatistics math (← ringPoints ring))

theorem computeAoiStatistics_eq (geometry : Geometry) : computeAoiStatistics math geometry =
    (do aggregate (← (← geometry.exteriorRings).mapM (ringStatistics math))) := rfl

end Statistics

/-! ### Arrays of floats -/

section Floats

variable {math : Trig} {ring : Ring}

def positionJson (p : Position) : Json := .arr [.float p.1, .float p.2]

def ringJson (ring : Ring) : Json := .arr (ring.map positionJson)

/-- The dictionary of a geometry. -/
def GeoJson.toJson : GeoJson → List (String × Json)
  | .polygon rings => [("type", .str "Polygon"), ("coordinates", .arr (rings.map ringJson))]
  | .multiPolygon polygons => [("type", .str "MultiPolygon"),
      ("coordinates", .arr (polygons.map fun rings => .arr (rings.map ringJson)))]
  | .other type => [("type", .str type)]

theorem ringPoints_ringJson (ring : Ring) : ringPoints (ringJson ring) = .ok ring := by
  refine Lib.mapM_ok.mpr ?_
  rw [List.forall₂_map_left_iff]
  exact List.forall₂_same.mpr fun _ _ => rfl

theorem checkRing_ringJson (h : GeoJson.ringRefusal ring = none) :
    checkRing (ringJson ring) = .ok () := by
  unfold GeoJson.ringRefusal at h
  split at h
  · cases h
  · next hlen =>
    split at h
    · cases h
    · next hclosed =>
      rw [not_not] at hclosed
      cases ring with
      | nil => simp at hlen
      | cons p ring =>
        rw [List.head?_cons] at hclosed
        have hfirst : subscript (ringJson (p :: ring)) 0 = .ok (positionJson p) := rfl
        have hlast : lastItem (ringJson (p :: ring)) = .ok (positionJson p) := by
          rw [ringJson, lastItem, List.getLast?_map, ← hclosed]
          rfl
        have heq : Json.eqItems [.float p.1, .float p.2] [.float p.1, .float p.2] = true := by
          simp [Json.eqItems, Json.eq, Json.number]
        refine Lib.bind_ok.mpr ⟨_, congrArg Except.ok (List.length_map positionJson), ?_⟩
        rw [if_neg hlen]
        refine Lib.bind_ok.mpr ⟨_, hfirst, Lib.bind_ok.mpr ⟨_, rfl, ?_⟩⟩
        refine Lib.bind_ok.mpr ⟨_, hlast, Lib.bind_ok.mpr ⟨_, rfl, ?_⟩⟩
        rw [if_pos heq]
        rfl

theorem forM_ok {ε α : Type} {f : α → Except ε Unit} {as : List α} :
    as.forM f = .ok () ↔ ∀ a ∈ as, f a = .ok () := by
  induction as with
  | nil => simp [List.forM, pure, Except.pure]
  | cons a as ih =>
    rw [List.forall_mem_cons, ← ih]
    constructor
    · intro h
      obtain ⟨⟨⟩, ha, h⟩ := Lib.bind_ok.mp h
      exact ⟨ha, h⟩
    · rintro ⟨ha, h⟩
      exact Lib.bind_ok.mpr ⟨(), ha, h⟩

theorem mapM_arr (lists : List (List Json)) : (lists.map Json.arr).mapM iterate = .ok lists := by
  refine Lib.mapM_ok.mpr ?_
  rw [List.forall₂_map_left_iff]
  exact List.forall₂_same.mpr fun _ _ => rfl

theorem checkRings {rings : List Ring} (h : rings.findSome? GeoJson.ringRefusal = none) :
    (rings.map ringJson).forM checkRing = .ok () := by
  refine forM_ok.mpr fun r hr => ?_
  obtain ⟨ring, hring, rfl⟩ := List.mem_map.mp hr
  exact checkRing_ringJson (List.findSome?_eq_none_iff.mp h ring hring)

theorem mapM_exterior (polygons : List (List Ring)) :
    (polygons.map fun rings => Json.arr (rings.map ringJson)).mapM (subscript · 0) =
      (·.map ringJson) <$> polygons.mapM fun rings =>
        match rings with
        | ring :: _ => Except.ok ring
        | [] => .error indexError := by
  induction polygons with
  | nil => rfl
  | cons rings polygons ih =>
    rw [List.map_cons, List.mapM_cons, List.mapM_cons, ih]
    cases rings with
    | nil => rfl
    | cons ring holes =>
      generalize List.mapM (m := Except GeospatialError) _ polygons = rest
      cases rest <;> rfl

/-- The dictionary of a geometry is let through again, and its exterior rings are those of the
    geometry. -/
theorem exists_raw (geometry : Geometry) : ∃ raw : RawGeometry, raw.geojson = geometry.geojson.toJson ∧
    raw.exteriorRings = (·.map ringJson) <$> geometry.exteriorRings := by
  obtain ⟨geojson, srid, haccepted⟩ := geometry
  cases geojson with
  | other type => cases haccepted
  | polygon coordinates =>
    unfold GeoJson.refusal at haccepted
    dsimp only at haccepted
    split at haccepted
    · cases haccepted
    · next hne =>
      have htruthy : (Json.arr (coordinates.map ringJson)).truthy = true := by
        simpa [Json.truthy, GeoJson.isEmpty] using hne
      refine ⟨⟨(GeoJson.polygon coordinates).toJson, .polygon, .arr (coordinates.map ringJson), ?_⟩,
        rfl, ?_⟩
      · refine Lib.bind_ok.mpr ⟨.polygon, rfl, ?_⟩
        change (if (Json.arr (coordinates.map ringJson)).truthy then _ else _) = _
        rw [if_pos htruthy]
        exact Lib.bind_ok.mpr ⟨_, rfl, Lib.bind_ok.mpr ⟨(), checkRings haccepted, rfl⟩⟩
      · cases coordinates with
        | nil => rfl
        | cons ring rings => rfl
  | multiPolygon polygons =>
    unfold GeoJson.refusal at haccepted
    dsimp only at haccepted
    split at haccepted
    · cases haccepted
    · next hne =>
      set coordinates := Json.arr (polygons.map fun rings => .arr (rings.map ringJson)) with hcoordinates
      have htruthy : coordinates.truthy = true := by
        simpa [hcoordinates, Json.truthy, GeoJson.isEmpty] using hne
      have hrings : ringsOf .multiPolygon coordinates = .ok (polygons.flatten.map ringJson) := by
        refine Lib.bind_ok.mpr ⟨_, rfl, Lib.bind_ok.mpr ⟨polygons.map (List.map ringJson), ?_, ?_⟩⟩
        · simpa [List.map_map, Function.comp_def] using mapM_arr (polygons.map (List.map ringJson))
        · rw [List.map_flatten]
          rfl
      refine ⟨⟨(GeoJson.multiPolygon polygons).toJson, .multiPolygon, coordinates, ?_⟩, rfl,
        mapM_exterior polygons⟩
      refine Lib.bind_ok.mpr ⟨.multiPolygon, rfl, ?_⟩
      change (if coordinates.truthy then _ else _) = _
      rw [if_pos htruthy]
      exact Lib.bind_ok.mpr ⟨_, hrings, Lib.bind_ok.mpr ⟨(), checkRings haccepted, rfl⟩⟩

/-- And what is measured of it is what is measured of the geometry. -/
theorem raw_refines {raw : RawGeometry} {geometry : Geometry}
    (h : raw.exteriorRings = (·.map ringJson) <$> geometry.exteriorRings) (math : Trig) :
    raw.computeAoiStatistics math = computeAoiStatistics math geometry ∧
      ∀ longitude latitude, raw.pointInGeometry longitude latitude =
        pointInGeometry longitude latitude geometry := by
  have hpoints : ∀ {β : Type} (f : Ring → Raised β),
      (fun ring => do f (← ringPoints (ringJson ring))) = f := by
    intro β f
    funext ring
    rw [ringPoints_ringJson]
    rfl
  rw [computeAoiStatistics_eq]
  unfold RawGeometry.computeAoiStatistics RawGeometry.pointInGeometry pointInGeometry
  rw [h]
  cases geometry.exteriorRings with
  | error e => exact ⟨rfl, fun _ _ => rfl⟩
  | ok rings =>
    refine ⟨?_, fun longitude latitude => ?_⟩
    · change (do aggregate (← (rings.map ringJson).mapM _)) = (do aggregate (← rings.mapM _))
      rw [List.mapM_map]
      exact congrArg (fun f => (rings.mapM f >>= aggregate)) (hpoints (ringStatistics math))
    · change (rings.map ringJson).anyM (fun ring => do
        pointInRing longitude latitude (← ringPoints ring)) =
          rings.anyM (pointInRing longitude latitude)
      induction rings with
      | nil => rfl
      | cons ring rings ih =>
        rw [List.map_cons, List.anyM_cons, List.anyM_cons, ih, ringPoints_ringJson]
        rfl

end Floats

end Geospatial

end GeoRisk
