import Mathlib
import GeoRisk.PyFloat

/-! Spectral indices from the means of bands over an area. Each requested index is judged by itself,
    and either computed or skipped with a reason:

        requested   NDVI      LST        dNBR                 SPEI
                     │         │          │                    │
                   value   no thermal   no second window     value, or an exception
                     ▼         ▼          ▼                    ▼
                 computed   skipped    skipped              computed -/

namespace GeoRisk.DataAcquisition

open PyFloat (Libm)

inductive RemoteSensingSource where
  | sentinel1 | sentinel2 | landsat | modis | chirps | era5
  deriving DecidableEq

def RemoteSensingSource.value : RemoteSensingSource → String
  | .sentinel1 => "SENTINEL_1"
  | .sentinel2 => "SENTINEL_2"
  | .landsat => "LANDSAT"
  | .modis => "MODIS"
  | .chirps => "CHIRPS"
  | .era5 => "ERA5"

inductive SpectralIndex where
  | ndvi | evi | savi | ndwi | lst | nbr | dnbr | spei
  deriving DecidableEq

def SpectralIndex.value : SpectralIndex → String
  | .ndvi => "NDVI"
  | .evi => "EVI"
  | .savi => "SAVI"
  | .ndwi => "NDWI"
  | .lst => "LST"
  | .nbr => "NBR"
  | .dnbr => "DNBR"
  | .spei => "SPEI"

theorem SpectralIndex.value_injective : Function.Injective SpectralIndex.value := by
  intro a b hab
  cases a <;> cases b <;> first | rfl | exact absurd hab (by decide)

/-! ### Bands -/

/-- The mean of each band, by its name at the source; the mean over no pixel is null. -/
abbrev BandStatistics := List (String × Option PyFloat)

/-- `BAND_NAMES_BY_SOURCE`. -/
def bandNamesBySource : RemoteSensingSource → List (String × String)
  | .sentinel1 => []
  | .sentinel2 => [("BLUE", "B2"), ("GREEN", "B3"), ("RED", "B4"), ("NIR", "B8"), ("SWIR1", "B11"),
      ("SWIR2", "B12")]
  | .landsat => [("BLUE", "SR_B2"), ("GREEN", "SR_B3"), ("RED", "SR_B4"), ("NIR", "SR_B5"),
      ("SWIR1", "SR_B6"), ("SWIR2", "SR_B7"), ("THERMAL", "ST_B10")]
  | .modis => [("RED", "sur_refl_b01"), ("NIR", "sur_refl_b02"), ("BLUE", "sur_refl_b03"),
      ("GREEN", "sur_refl_b04"), ("SWIR1", "sur_refl_b06"), ("SWIR2", "sur_refl_b07")]
  | .chirps => [("PRECIPITATION", "precipitation")]
  | .era5 => [("PRECIPITATION", "total_precipitation"), ("TEMPERATURE", "mean_2m_air_temperature")]

/-- `_REQUIRED_BANDS_BY_INDEX`, which has no entry for dNBR. -/
def requiredBandsByIndex : SpectralIndex → List String
  | .ndvi => ["NIR", "RED"]
  | .evi => ["NIR", "RED", "BLUE"]
  | .savi => ["NIR", "RED"]
  | .ndwi => ["GREEN", "NIR"]
  | .nbr => ["NIR", "SWIR2"]
  | .lst => ["THERMAL"]
  | .spei => ["PRECIPITATION", "TEMPERATURE"]
  | .dnbr => []

/-- `_value`: the mean of a band under its logical name, if the source has it and it is not null. -/
def bandValue (source : RemoteSensingSource) (statistics : BandStatistics) (logicalName : String) :
    Option PyFloat :=
  match (bandNamesBySource source).lookup logicalName with
  | none => none
  | some geeBandName => (statistics.lookup geeBandName).join

/-! ### Formulas -/

/-- `_safe_ratio`. -/
def safeRatio (numerator denominator : PyFloat) : PyFloat :=
  if denominator.isZero then 0.0 else numerator.quotient denominator

def computeNdvi (nir red : PyFloat) : PyFloat := safeRatio (nir - red) (nir + red)

def computeEvi (nir red blue : PyFloat) : PyFloat :=
  safeRatio (2.5 * (nir - red)) (nir + 6 * red - 7.5 * blue + 1)

/-- `compute_savi`, with its default for the brightness of the soil. -/
def computeSavi (nir red : PyFloat) : PyFloat :=
  safeRatio ((1 + 0.5) * (nir - red)) (nir + red + 0.5)

def computeNdwi (green nir : PyFloat) : PyFloat := safeRatio (green - nir) (green + nir)

def computeNbr (nir swir2 : PyFloat) : PyFloat := safeRatio (nir - swir2) (nir + swir2)

def computeDnbr (preFireNbr postFireNbr : PyFloat) : PyFloat := preFireNbr - postFireNbr

def computeLstCelsius (thermalKelvin : PyFloat) : PyFloat := thermalKelvin - 273.15

/-- The exponent of the estimate, from the heat index, its cube and its square. -/
def petExponent (heatIndex cube square : PyFloat) : PyFloat :=
  6.75e-7 * cube - 7.71e-5 * square + 1.792e-2 * heatIndex + 0.49239

/-- `_thornthwaite_pet_mm`. -/
def thornthwaitePetMm (libm : Libm) (temperatureC : PyFloat) : Except String PyFloat :=
  if temperatureC.nonpositive then .ok 0.0
  else do
    let heatIndex ← libm.pow (temperatureC.quotient 5.0) 1.514
    let cube ← libm.pow heatIndex 3
    let square ← libm.pow heatIndex 2
    let base ← (10.0 * temperatureC).truediv heatIndex
    return 16.0 * (← libm.pow base (petExponent heatIndex cube square))

def computeSpei (libm : Libm) (precipitationMm temperatureC : PyFloat) : Except String PyFloat := do
  let pet ← thornthwaitePetMm libm temperatureC
  return 3.0 * libm.tanh ((precipitationMm - pet).quotient 100.0)

/-- The formula of an index other than dNBR, on the values of its bands. -/
def computeIndex (libm : Libm) : SpectralIndex → List PyFloat → Except String PyFloat
  | .ndvi, [nir, red] => .ok (computeNdvi nir red)
  | .evi, [nir, red, blue] => .ok (computeEvi nir red blue)
  | .savi, [nir, red] => .ok (computeSavi nir red)
  | .ndwi, [green, nir] => .ok (computeNdwi green nir)
  | .nbr, [nir, swir2] => .ok (computeNbr nir swir2)
  | .lst, [thermal] => .ok (computeLstCelsius thermal)
  | .spei, [precipitation, temperature] => computeSpei libm precipitation temperature
  | _, _ => .error "wrong number of positional arguments"

/-! ### Extraction -/

/-- What becomes of one requested index. -/
inductive Verdict where
  | computed (value : PyFloat)
  | skipped (reason : String)

/-- One round of the loop of `extract_features`. -/
def judge (libm : Libm) (source : RemoteSensingSource) (statistics : BandStatistics)
    (comparison : Option BandStatistics) (index : SpectralIndex) : Except String Verdict :=
  if index = .dnbr then
    match comparison with
    | none => .ok (.skipped "dNBR requires a comparison_temporal_start/end window (pre/post fire)")
    | some comparison =>
      match bandValue source statistics "NIR", bandValue source statistics "SWIR2",
          bandValue source comparison "NIR", bandValue source comparison "SWIR2" with
      | some preNir, some preSwir2, some postNir, some postSwir2 =>
        .ok (.computed (computeDnbr (computeNbr preNir preSwir2) (computeNbr postNir postSwir2)))
      | _, _, _, _ => .ok (.skipped
          s!"{source.value} does not provide the NIR/SWIR2 bands required for dNBR")
  else
    let requiredBands := requiredBandsByIndex index
    let rawValues := requiredBands.map (bandValue source statistics)
    if rawValues.any Option.isNone then
      let names := ", ".intercalate requiredBands
      .ok (.skipped (s!"{source.value} does not provide the band(s) required for " ++
        s!"{index.value} ({names})"))
    else .computed <$> computeIndex libm index (rawValues.filterMap id)

/-- The features computed so far and the indices skipped so far, after one more. -/
def record (features : List (String × PyFloat) × List (String × String)) (index : SpectralIndex) :
    Verdict → List (String × PyFloat) × List (String × String)
  | .computed value => (setItem features.1 index.value value, features.2)
  | .skipped reason => (features.1, setItem features.2 index.value reason)

/-- `extract_features`. -/
def extractFeatures (libm : Libm) (source : RemoteSensingSource) (bandStatistics : BandStatistics)
    (requestedIndices : List SpectralIndex) (comparisonBandStatistics : Option BandStatistics) :
    Except String (List (String × PyFloat) × List (String × String)) :=
  requestedIndices.foldlM (fun features index =>
    record features index <$> judge libm source bandStatistics comparisonBandStatistics index)
    ([], [])

end GeoRisk.DataAcquisition
