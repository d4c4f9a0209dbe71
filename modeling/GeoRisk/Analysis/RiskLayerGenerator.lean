import GeoRisk.Lib.Boxes
import GeoRisk.Analysis.StageResult
import GeoRisk.Cursors
import GeoRisk.Geospatial.RawGeometry

/-! The generator of risk layers. The features are copied one by one; the box around them is found by a
    walk over their coordinates, which stops at lists that do not begin with a list:

        [[[x, y], [x, y], …], …]        the first item is a list: walk through all
                  [x, y, z]             a position: x and y
                  [x]                   too short: nothing                                       -/

namespace GeoRisk.Analysis

open Geospatial (Raised toFloat)

def RISK_BANDS : List (PyFloat × String × String) :=
  [(0.2, "LOW", "Low Risk"), (0.4, "MODERATE", "Moderate Risk"), (0.6, "HIGH", "High Risk")]

def SEVERE : String × String := ("SEVERE", "Severe Risk")

def classifyRisk (riskIndex : PyFloat) : String × String :=
  match RISK_BANDS.find? fun band => PyFloat.lt riskIndex band.1 with
  | some (_, level, label) => (level, label)
  | none => SEVERE

/-! ### The walk -/

/-- A list that is no list of lists, as a position. -/
def readPosition : List Json → Raised (List (PyFloat × PyFloat))
  | x :: y :: _ => do return [(← toFloat x, ← toFloat y)]
  | _ => .ok []

mutual
/-- The positions that `_walk` adds. -/
def walk : Json → Raised (List (PyFloat × PyFloat))
  | .arr items =>
    match items with
    | .arr _ :: _ => walkItems items
    | _ => readPosition items
  | _ => .ok []

def walkItems : List Json → Raised (List (PyFloat × PyFloat))
  | [] => .ok []
  | item :: items => do return (← walk item) ++ (← walkItems items)
end

def boundingBoxOf (features : List Feature) : Raised (PyFloat × PyFloat × PyFloat × PyFloat) := do
  let walked ← features.mapM fun feature => walk ((feature.geometry.lookup "coordinates").getD .null)
  match walked.flatten with
  | [] => return (0, 0, 0, 0)
  | p :: ps =>
    return (PyFloat.minimum p.1 (ps.map Prod.fst), PyFloat.minimum p.2 (ps.map Prod.snd),
      PyFloat.maximum p.1 (ps.map Prod.fst), PyFloat.maximum p.2 (ps.map Prod.snd))

/-- The arguments of `build_risk_layer`. -/
structure LayerRequest where
  features : List Feature
  assessmentId : String
  hazardType : String
  stageType : String
  datasetId : String
  geometryType : String
  riskIndex : PyFloat
  analysisTimestamp : Timestamp
  formulaVersion : String
  hazardSpecificAttributes : List (String × PyFloat)

/-- The properties of a feature; a hazard's own attributes overwrite those of the same name. -/
def layerProperties (request : LayerRequest) (feature : Feature) : List (String × Json) :=
  let (riskLevel, classification) := classifyRisk request.riskIndex
  let common : List (String × Json) :=
    [("assessment_id", .str request.assessmentId), ("hazard_type", .str request.hazardType),
     ("stage_type", .str request.stageType), ("risk_index", .float request.riskIndex),
     ("risk_level", .str riskLevel), ("classification", .str classification),
     ("analysis_timestamp", .str (String.ofList (isoformat request.analysisTimestamp))),
     ("formula_version", .str request.formulaVersion), ("dataset_id", .str request.datasetId),
     ("geometry_type", .str request.geometryType)]
  let specific := request.hazardSpecificAttributes.foldl (fun properties p =>
    setItem properties p.1 (.float p.2)) common
  setItem specific "source_attributes" feature.properties

def layerFeature (request : LayerRequest) (feature : Feature) : Json :=
  .obj [("type", .str "Feature"), ("geometry", .obj feature.geometry),
    ("properties", .obj (layerProperties request feature))]

def buildRiskLayer (request : LayerRequest) : Raised RiskLayerFeatureCollection := do
  if request.features = [] then
    .error ⟨.valueError, "build_risk_layer requires at least one real feature's geometry"⟩
  else
    let (riskLevel, classification) := classifyRisk request.riskIndex
    let features := request.features.map (layerFeature request)
    return {
      geojson := .obj [("type", .str "FeatureCollection"), ("features", .arr features)]
      featureCount := features.length
      geometryType := request.geometryType
      boundingBox := ← boundingBoxOf request.features
      riskIndex := request.riskIndex
      riskLevel, classification }

/-! ### Nested coordinates -/

/-- A number of a document, and its value as a float. -/
structure Coordinate where
  json : Json
  value : ℚ
  number : json.number.isSome
  read : toFloat json = .ok (.finite value)

/-- Coordinates of a geometry: a position, which may have more numbers than two, or a list of such. -/
inductive Coordinates where
  | position (x y : Coordinate) (rest : List Json)
  | nested (items : List Coordinates)

mutual
def Coordinates.toJson : Coordinates → Json
  | .position x y rest => .arr (x.json :: y.json :: rest)
  | .nested items => .arr (Coordinates.itemsToJson items)

def Coordinates.itemsToJson : List Coordinates → List Json
  | [] => []
  | c :: cs => c.toJson :: Coordinates.itemsToJson cs
end

mutual
/-- All positions, from left to right. -/
def Coordinates.positions : Coordinates → List (ℚ × ℚ)
  | .position x y _ => [(x.value, y.value)]
  | .nested items => Coordinates.itemPositions items

def Coordinates.itemPositions : List Coordinates → List (ℚ × ℚ)
  | [] => []
  | c :: cs => c.positions ++ Coordinates.itemPositions cs
end

/-- A position as floats. -/
def floats (p : ℚ × ℚ) : PyFloat × PyFloat := (.finite p.1, .finite p.2)

theorem Coordinates.exists_toJson (c : Coordinates) : ∃ items, c.toJson = .arr items := by
  cases c <;> exact ⟨_, rfl⟩

mutual
/-- The walk adds every position, whatever the nesting. -/
theorem walk_toJson : ∀ c : Coordinates, walk c.toJson = .ok (c.positions.map floats)
  | .position x y rest => by
    rw [Coordinates.toJson, walk, readPosition, x.read, y.read]
    · rfl
    · rintro items _ hitems
      have hnumber := x.number
      rw [(List.cons_eq_cons.mp hitems).1] at hnumber
      cases hnumber
  | .nested items => by
    cases items with
    | nil => rfl
    | cons c cs =>
      have hitems := walkItems_toJson (c :: cs)
      obtain ⟨inner, hc⟩ := c.exists_toJson
      rw [Coordinates.itemsToJson, hc] at hitems
      rw [Coordinates.toJson, Coordinates.itemsToJson, hc, walk]
      exact hitems

theorem walkItems_toJson : ∀ cs : List Coordinates,
    walkItems (Coordinates.itemsToJson cs) = .ok ((Coordinates.itemPositions cs).map floats)
  | [] => rfl
  | c :: cs => by
    rw [Coordinates.itemsToJson, walkItems, walk_toJson c, walkItems_toJson cs,
      Coordinates.itemPositions, List.map_append]
    rfl
end

/-! ### The smallest box -/

theorem minimum_finite (x : ℚ) (xs : List ℚ) :
    PyFloat.minimum (.finite x) (xs.map .finite) = .finite (xs.foldl min x) := by
  induction xs generalizing x with
  | nil => rfl
  | cons y xs ih =>
    rw [List.foldl_cons, ← ih, PyFloat.minimum, List.map_cons, List.foldl_cons, PyFloat.lt]
    by_cases hy : y < x
    · rw [if_pos (decide_eq_true hy), min_eq_right hy.le]
      rfl
    · rw [if_neg (by simpa using hy), min_eq_left (not_lt.mp hy)]
      rfl

theorem maximum_finite (x : ℚ) (xs : List ℚ) :
    PyFloat.maximum (.finite x) (xs.map .finite) = .finite (xs.foldl max x) := by
  induction xs generalizing x with
  | nil => rfl
  | cons y xs ih =>
    rw [List.foldl_cons, ← ih, PyFloat.maximum, List.map_cons, List.foldl_cons, PyFloat.lt]
    by_cases hy : x < y
    · rw [if_pos (decide_eq_true hy), max_eq_right hy.le]
      rfl
    · rw [if_neg (by simpa using hy), max_eq_left (not_lt.mp hy)]
      rfl

/-- The box around a position and others. -/
def hull (p : ℚ × ℚ) (ps : List (ℚ × ℚ)) : Lib.Box ℚ where
  minX := (ps.map Prod.fst).foldl min p.1
  minY := (ps.map Prod.snd).foldl min p.2
  maxX := (ps.map Prod.fst).foldl max p.1
  maxY := (ps.map Prod.snd).foldl max p.2

theorem isLeast_hull (p : ℚ × ℚ) (ps : List (ℚ × ℚ)) :
    IsLeast {b : Lib.Box ℚ | ∀ q ∈ p :: ps, q ∈ b} (hull p ps) := by
  have hmin : ∀ (x : ℚ) (xs : List ℚ), xs.foldl min x ∈ x :: xs ∧
      ∀ y ∈ x :: xs, xs.foldl min x ≤ y := fun x xs => List.min?_eq_some_iff.mp rfl
  have hmax : ∀ (x : ℚ) (xs : List ℚ), xs.foldl max x ∈ x :: xs ∧
      ∀ y ∈ x :: xs, y ≤ xs.foldl max x := fun x xs => List.max?_eq_some_iff.mp rfl
  refine Lib.Box.isLeast_of_touches (fun q hq => ?_)
    ⟨(hmin _ _).1, (hmin _ _).1, (hmax _ _).1, (hmax _ _).1⟩
  have hfst := List.mem_map_of_mem (f := Prod.fst) hq
  have hsnd := List.mem_map_of_mem (f := Prod.snd) hq
  exact ⟨⟨(hmin _ _).2 _ hfst, (hmax _ _).2 _ hfst⟩, (hmin _ _).2 _ hsnd, (hmax _ _).2 _ hsnd⟩

/-! ### Layers -/

/-- The feature has these coordinates. -/
def HasCoordinates (feature : Feature) (c : Coordinates) : Prop :=
  feature.geometry.lookup "coordinates" = some c.toJson

/-- The four sides of a box as floats. -/
def sides (b : Lib.Box ℚ) : PyFloat × PyFloat × PyFloat × PyFloat :=
  (.finite b.minX, .finite b.minY, .finite b.maxX, .finite b.maxY)

theorem boundingBoxOf_spec {features : List Feature} {cs : List Coordinates}
    (hcs : List.Forall₂ HasCoordinates features cs) (hne : cs.flatMap (·.positions) ≠ []) :
    ∃ b, boundingBoxOf features = .ok (sides b) ∧
      IsLeast {b : Lib.Box ℚ | ∀ p ∈ cs.flatMap (·.positions), p ∈ b} b := by
  have hwalk : features.mapM (fun feature =>
      walk ((feature.geometry.lookup "coordinates").getD .null)) =
        .ok (cs.map fun c => c.positions.map floats) := by
    rw [Lib.mapM_ok, List.forall₂_map_right_iff]
    refine hcs.imp fun feature c h => ?_
    rw [h, Option.getD_some]
    exact walk_toJson c
  have hflat : (cs.map fun c => c.positions.map floats).flatten =
      (cs.flatMap (·.positions)).map floats := by
    rw [List.map_flatMap]
    rfl
  cases hps : cs.flatMap (·.positions) with
  | nil => exact absurd hps hne
  | cons p ps =>
    refine ⟨hull p ps, ?_, isLeast_hull p ps⟩
    have hfst : (ps.map floats).map Prod.fst = (ps.map Prod.fst).map PyFloat.finite := by simp [floats]
    have hsnd : (ps.map floats).map Prod.snd = (ps.map Prod.snd).map PyFloat.finite := by simp [floats]
    unfold boundingBoxOf
    rw [hwalk, Lib.bind_ok]
    refine ⟨_, rfl, ?_⟩
    rw [hflat, hps, List.map_cons]
    dsimp only
    rw [hfst, hsnd]
    unfold floats
    rw [minimum_finite, minimum_finite, maximum_finite, maximum_finite]
    rfl

/-- The levels from the lowest to the highest. -/
def LEVELS : List String := ["LOW", "MODERATE", "HIGH", "SEVERE"]

/-- The level is the number of the first band that the index is below. -/
theorem idxOf_classifyRisk (riskIndex : PyFloat) : LEVELS.idxOf (classifyRisk riskIndex).1 =
    RISK_BANDS.findIdx fun band => PyFloat.lt riskIndex band.1 := by
  unfold classifyRisk RISK_BANDS
  simp only [List.find?_cons, List.findIdx_cons]
  cases PyFloat.lt riskIndex 0.2 <;> cases PyFloat.lt riskIndex 0.4 <;>
    cases PyFloat.lt riskIndex 0.6 <;> rfl

theorem classifyRisk_mono {r r' : ℚ} (h : r ≤ r') :
    LEVELS.idxOf (classifyRisk (.finite r)).1 ≤ LEVELS.idxOf (classifyRisk (.finite r')).1 := by
  have hbelow : ∀ t, PyFloat.lt (.finite r') t = true → PyFloat.lt (.finite r) t = true := by
    intro t ht
    cases t with
    | finite t =>
      rw [PyFloat.lt, decide_eq_true_iff] at ht ⊢
      exact h.trans_lt ht
    | inf negative => exact ht
    | nan => exact ht
  rw [idxOf_classifyRisk, idxOf_classifyRisk]
  exact List.findIdx_le_findIdx fun band _ => hbelow band.1

/-- The layer has the features, one by one. -/
def Carries (geojson : Json) (features : List Feature) : Prop :=
  ∃ items, geojson = .obj [("type", .str "FeatureCollection"), ("features", .arr items)] ∧
    List.Forall₂ (fun feature item => ∃ properties,
      item = .obj [("type", .str "Feature"), ("geometry", .obj feature.geometry),
        ("properties", .obj properties)]) features items

theorem buildRiskLayer_faithful (request : LayerRequest) (cs : List Coordinates) (r : ℚ)
    (hfeatures : request.features ≠ []) (hcs : List.Forall₂ HasCoordinates request.features cs)
    (hne : cs.flatMap (·.positions) ≠ []) (hr : request.riskIndex = .finite r) :
    ∃ layer b, buildRiskLayer request = .ok layer ∧ Carries layer.geojson request.features ∧
      layer.featureCount = request.features.length ∧ layer.boundingBox = sides b ∧
      IsLeast {b : Lib.Box ℚ | ∀ p ∈ cs.flatMap (·.positions), p ∈ b} b ∧
      ∀ r' layer', r ≤ r' → buildRiskLayer { request with riskIndex := .finite r' } = .ok layer' →
        LEVELS.idxOf layer.riskLevel ≤ LEVELS.idxOf layer'.riskLevel := by
  obtain ⟨b, hbox, hleast⟩ := boundingBoxOf_spec hcs hne
  have hbuild : ∀ riskIndex, ∃ layer,
      buildRiskLayer { request with riskIndex } = .ok layer ∧
      layer.riskLevel = (classifyRisk riskIndex).1 ∧ Carries layer.geojson request.features ∧
      layer.featureCount = request.features.length ∧ layer.boundingBox = sides b := by
    intro riskIndex
    unfold buildRiskLayer
    rw [if_neg hfeatures, hbox]
    refine ⟨_, rfl, rfl, ⟨_, rfl, ?_⟩, List.length_map .., rfl⟩
    rw [List.forall₂_map_right_iff, List.forall₂_same]
    exact fun feature _ => ⟨_, rfl⟩
  obtain ⟨layer, hlayer, hlevel, hcarries, hcount, hsides⟩ := hbuild request.riskIndex
  refine ⟨layer, b, hlayer, hcarries, hcount, hsides, hleast, fun r' layer' hle hlayer' => ?_⟩
  obtain ⟨layer₂, hlayer₂, hlevel₂, -⟩ := hbuild (.finite r')
  obtain rfl : layer₂ = layer' := Except.ok.inj (hlayer₂.symm.trans hlayer')
  rw [hlevel, hlevel₂, hr]
  exact classifyRisk_mono hle

/-! ### A well and a river -/

def degrees (q : ℚ) : Coordinate := ⟨.float (.finite q), q, rfl, rfl⟩

def well : Coordinates := .position (degrees 30) (degrees 50) [.int 120]

def river : Coordinates :=
  .nested [.nested [.position (degrees 29) (degrees 51) [], .position (degrees 31) (degrees 52) []],
    .nested []]

def riverLayer : LayerRequest :=
  { features := [⟨[("type", .str "Point"), ("coordinates", well.toJson)], .obj []⟩,
      ⟨[("type", .str "MultiLineString"), ("coordinates", river.toJson)], .obj []⟩]
    assessmentId := "7", hazardType := "FLOOD", stageType := "RISK", datasetId := "8"
    geometryType := "Mixed", riskIndex := .finite (1 / 2), analysisTimestamp := 0
    formulaVersion := "1", hazardSpecificAttributes := [] }

theorem buildRiskLayer_faithful_river :
    ∃ layer b, buildRiskLayer riverLayer = .ok layer ∧ Carries layer.geojson riverLayer.features ∧
      layer.featureCount = riverLayer.features.length ∧ layer.boundingBox = sides b ∧
      IsLeast {b : Lib.Box ℚ | ∀ p ∈ [well, river].flatMap (·.positions), p ∈ b} b ∧
      ∀ r' layer', 1 / 2 ≤ r' → buildRiskLayer { riverLayer with riskIndex := .finite r' } = .ok layer' →
        LEVELS.idxOf layer.riskLevel ≤ LEVELS.idxOf layer'.riskLevel :=
  buildRiskLayer_faithful riverLayer [well, river] (1 / 2) (List.cons_ne_nil _ _)
    (.cons rfl (.cons rfl .nil)) (List.cons_ne_nil _ _) rfl

end GeoRisk.Analysis
