import Mathlib
import GeoRisk.PyFloat

/-! Areas on the map: GeoJSON polygons as the context accepts them, their extent and statistics, and
    the ray-casting test whether a point lies in one. Coordinates are doubles and every operation
    rounds. A position is taken as the two floats that `_ring_points` makes of it.

        polygon       [ring, hole, …]
        multiPolygon  [[ring, hole, …], [ring, hole, …], …]      only the exterior rings count -/

namespace GeoRisk.Geospatial

inductive GeospatialErrorKind where
  | aoiNotFound | samplingCampaignNotFound | samplePointOutsideAoi | samplingNotConfigured
  | valueError | indexError | keyError | typeError | zeroDivisionError | overflowError
  | multipleResultsFound
  deriving DecidableEq

structure GeospatialError where
  kind : GeospatialErrorKind
  message : String
  deriving DecidableEq

abbrev Position := PyFloat × PyFloat

abbrev Ring := List Position

/-- The `type` and the `coordinates` of a GeoJSON object. -/
inductive GeoJson where
  | polygon (coordinates : List Ring)
  | multiPolygon (coordinates : List (List Ring))
  | other (type : String)
  deriving DecidableEq

namespace GeoJson

def rings : GeoJson → List Ring
  | .polygon coordinates => coordinates
  | .multiPolygon coordinates => coordinates.flatten
  | .other _ => []

def isEmpty : GeoJson → Bool
  | .polygon coordinates => coordinates.isEmpty
  | .multiPolygon coordinates => coordinates.isEmpty
  | .other _ => true

/-- What is wrong with a ring. -/
def ringRefusal (ring : Ring) : Option String :=
  if ring.length < 4 then
    some s!"Geometry ring must have at least 4 positions (closed triangle), got {ring.length}"
  else if ring.head? ≠ ring.getLast? then
    some "Geometry ring must be closed (first position == last position)"
  else none

/-- What is wrong with an object, by the first check that fails. -/
def refusal (geojson : GeoJson) : Option String :=
  match geojson with
  | .other type => some ("Geometry.geojson['type'] must be one of ['MultiPolygon', 'Polygon'], got " ++
      pyRepr type)
  | _ =>
    if geojson.isEmpty then some "Geometry.geojson['coordinates'] must be non-empty"
    else geojson.rings.findSome? ringRefusal

end GeoJson

/-- A geometry that passed the checks of its constructor. -/
structure Geometry where
  geojson : GeoJson
  srid : ℕ := 4326
  accepted : geojson.refusal = none
  deriving DecidableEq

structure BoundingBox where
  minLon : PyFloat
  minLat : PyFloat
  maxLon : PyFloat
  maxLat : PyFloat
  deriving DecidableEq

structure Centroid where
  longitude : PyFloat
  latitude : PyFloat
  deriving DecidableEq

/-- `list index out of range`. -/
def indexError : GeospatialError := ⟨.indexError, "list index out of range"⟩

def divide (x y : PyFloat) : Except GeospatialError PyFloat :=
  (PyFloat.truediv x y).mapError fun message => ⟨.zeroDivisionError, message⟩

namespace Geometry

/-- `Geometry(geojson=…)`. -/
def create (geojson : GeoJson) : Except GeospatialError Geometry :=
  match h : geojson.refusal with
  | some message => .error ⟨.valueError, message⟩
  | none => .ok { geojson, accepted := h }

/-- The ring at index 0 of every polygon. -/
def exteriorRings (self : Geometry) : Except GeospatialError (List Ring) :=
  let exterior : List Ring → Except GeospatialError Ring
    | ring :: _ => .ok ring
    | [] => .error indexError
  match self.geojson with
  | .polygon coordinates => (exterior coordinates).map ([·])
  | .multiPolygon coordinates => coordinates.mapM exterior
  | .other _ => .ok []

end Geometry

/-! ### Is a point inside? -/

/-- The ray from the point crosses the side of a ring that ends in `pi` and begins in `pj`. -/
def intersects (longitude latitude : PyFloat) (pi pj : Position) : Except GeospatialError Bool :=
  if (PyFloat.lt latitude pi.2) != (PyFloat.lt latitude pj.2) then do
    let offset ← divide ((pj.1 - pi.1) * (latitude - pi.2)) (pj.2 - pi.2 + 1e-15)
    return PyFloat.lt longitude (offset + pi.1)
  else return false

def pointInRing (longitude latitude : PyFloat) (ring : Ring) : Except GeospatialError Bool :=
  -- each position with the one before it, the first with the last
  (ring.zip (ring.getLast?.toList ++ ring)).foldlM (fun inside (pi, pj) => do
    return xor inside (← intersects longitude latitude pi pj)) false

def pointInGeometry (longitude latitude : PyFloat) (geometry : Geometry) :
    Except GeospatialError Bool := do
  (← geometry.exteriorRings).anyM (pointInRing longitude latitude)

/-! ### Statistics -/

/-- The functions of `math`, which may raise a `ValueError`, and `**`, which may raise an
    `OverflowError`. -/
structure Trig where
  pow : PyFloat → PyFloat → Except GeospatialError PyFloat
  sin : PyFloat → Except GeospatialError PyFloat
  cos : PyFloat → Except GeospatialError PyFloat
  asin : PyFloat → Except GeospatialError PyFloat
  sqrt : PyFloat → Except GeospatialError PyFloat

/-- A library that knows no angle. -/
def Trig.flat : Trig where
  pow _ _ := .ok 0
  sin _ := .ok 0
  cos _ := .ok 1
  asin _ := .ok 0
  sqrt x := .ok x

def EARTH_RADIUS_M : PyFloat := 6371000

def METERS_PER_DEGREE_LAT : PyFloat := 111320

def radians (degrees : PyFloat) : PyFloat := degrees * 0.017453292519943295

section Statistics

variable (math : Trig)

def haversineDistance (lat1 lon1 lat2 lon2 : PyFloat) : Except GeospatialError PyFloat := do
  let sinPhi ← math.sin (← divide (radians (lat2 - lat1)) 2)
  let sinPhi2 ← math.pow sinPhi 2
  let cosines := (← math.cos (radians lat1)) * (← math.cos (radians lat2))
  let sinLambda ← math.sin (← divide (radians (lon2 - lon1)) 2)
  let a := sinPhi2 + cosines * (← math.pow sinLambda 2)
  return 2 * EARTH_RADIUS_M * (← math.asin (← math.sqrt (PyFloat.minimum 1 [a])))

def ringAreaM2 (ring : Ring) : Except GeospatialError PyFloat := do
  if ring.length < 4 then return 0
  let meanLat ← divide (PyFloat.sum (ring.map Prod.snd)) (PyFloat.ofRat ring.length)
  let lonM := METERS_PER_DEGREE_LAT * (← math.cos (radians meanLat))
  let scaled := ring.map fun p => (p.1 * lonM, p.2 * METERS_PER_DEGREE_LAT)
  let area := (scaled.zip scaled.tail).foldl (fun area (p, q) => area + (p.1 * q.2 - q.1 * p.2)) 0
  divide area.abs 2

def ringPerimeterM (ring : Ring) : Except GeospatialError PyFloat :=
  (ring.zip ring.tail).foldlM
    (fun total (p, q) => do return total + (← haversineDistance math p.2 p.1 q.2 q.1)) 0

/-- The mean of the positions without the closing one. -/
def ringCentroid (ring : Ring) : Except GeospatialError Position := do
  let closed := match ring.head?, ring.getLast? with
    | some p, some q => p.1.eq q.1 && p.2.eq q.2
    | _, _ => false
  let points := if closed then ring.dropLast else ring
  let lon ← divide (PyFloat.sum (points.map Prod.fst)) (PyFloat.ofRat points.length)
  let lat ← divide (PyFloat.sum (points.map Prod.snd)) (PyFloat.ofRat points.length)
  return (lon, lat)

def ringBbox (ring : Ring) : Except GeospatialError BoundingBox :=
  match ring with
  | p :: ps => .ok {
      minLon := PyFloat.minimum p.1 (ps.map Prod.fst), minLat := PyFloat.minimum p.2 (ps.map Prod.snd)
      maxLon := PyFloat.maximum p.1 (ps.map Prod.fst), maxLat := PyFloat.maximum p.2 (ps.map Prod.snd) }
  | [] => .error ⟨.valueError, "min() iterable argument is empty"⟩

structure AoiStatistics where
  areaM2 : PyFloat
  perimeterM : PyFloat
  centroid : Centroid
  bbox : BoundingBox
  deriving DecidableEq

structure RingStatistics where
  area : PyFloat
  perimeter : PyFloat
  centroid : Position
  bbox : BoundingBox

/-- The union of the boxes of the rings. -/
def unionBbox : List BoundingBox → Except GeospatialError BoundingBox
  | [] => .error ⟨.valueError, "min() iterable argument is empty"⟩
  | b :: bs => .ok {
      minLon := PyFloat.minimum b.minLon (bs.map (·.minLon))
      minLat := PyFloat.minimum b.minLat (bs.map (·.minLat))
      maxLon := PyFloat.maximum b.maxLon (bs.map (·.maxLon))
      maxLat := PyFloat.maximum b.maxLat (bs.map (·.maxLat)) }

def computeAoiStatistics (geometry : Geometry) : Except GeospatialError AoiStatistics := do
  let stats ← (← geometry.exteriorRings).mapM fun ring => do
    return { area := ← ringAreaM2 math ring, perimeter := ← ringPerimeterM math ring
             centroid := ← ringCentroid ring, bbox := ← ringBbox ring : RingStatistics }
  let totalArea := PyFloat.sum (stats.map (·.area))
  let totalPerimeter := PyFloat.sum (stats.map (·.perimeter))
  -- weighted by area, unless there is none
  let weighted := PyFloat.lt 0 totalArea
  let mean (coordinate : Position → PyFloat) : Except GeospatialError PyFloat :=
    if weighted then divide (PyFloat.sum (stats.map fun s => s.area * coordinate s.centroid)) totalArea
    else divide (PyFloat.sum (stats.map fun s => coordinate s.centroid)) (PyFloat.ofRat stats.length)
  let lon ← mean Prod.fst
  let lat ← mean Prod.snd
  return {
    areaM2 := totalArea.roundTo 2, perimeterM := totalPerimeter.roundTo 2
    centroid := { longitude := lon.roundTo 6, latitude := lat.roundTo 6 }
    bbox := ← unionBbox (stats.map (·.bbox)) }

end Statistics

end GeoRisk.Geospatial
