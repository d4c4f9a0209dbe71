import Mathlib
import GeoRisk.Geospatial.AreaOfInterest
import GeoRisk.Geospatial.Sampling

/-! The `SamplingCampaign` aggregate. `generatePoints` draws the points first, then checks that each
    lies in the area, and only then writes; it does not check how many there are, and a strategy
    whose strata do not split the sample size without loss gets another number of points:

        draft ──▶ draw ──▶ all inside? ─┬─ yes ──▶ generated
                    │                   └─ no ───▶ raises, draft
                    └─ raises, draft                                                            -/

namespace GeoRisk.Geospatial

structure SamplingCampaignId where
  value : UUID
  deriving DecidableEq

instance : ToString SamplingCampaignId := ⟨fun i => UUID.str i.value⟩

inductive SamplingCampaignStatus where | draft | generated
  deriving DecidableEq

/-- A campaign; a stratified one has strata. -/
structure SamplingCampaign where
  id : SamplingCampaignId
  tenantId : TenantId
  assessmentId : Spelled UUID
  aoiId : AoiId
  name : String
  status : SamplingCampaignStatus
  strategy : SamplingStrategy
  strata : List Stratum
  samplePoints : List SamplePoint
  createdBy : String
  createdAt : Timestamp
  strata_ok : strategy.method = .stratifiedRandom → strata ≠ []

structure SamplingCampaignConfigured where
  samplingCampaignId : SamplingCampaignId
  tenantId : TenantId
  assessmentId : String
  aoiId : AoiId

structure SamplePointsGenerated where
  samplingCampaignId : SamplingCampaignId
  tenantId : TenantId
  sampleCount : ℕ

namespace SamplingCampaign

/-- A new draft, under a fresh `id`. -/
def configure (id : SamplingCampaignId) (tenantId : TenantId) (assessmentId : Spelled UUID)
    (aoiId : AoiId) (name : String) (strategy : SamplingStrategy) (strata : List Stratum)
    (createdBy : String) (now : Timestamp) :
    Except GeospatialError (SamplingCampaign × SamplingCampaignConfigured) :=
  if h : strategy.method = .stratifiedRandom ∧ strata = [] then
    .error ⟨.samplingNotConfigured, "Stratified random sampling requires at least one Stratum"⟩
  else .ok ({ id, tenantId, assessmentId, aoiId, name, status := .draft, strategy, strata
              samplePoints := [], createdBy, createdAt := now
              strata_ok := fun hm hs => h ⟨hm, hs⟩ },
            { samplingCampaignId := id, tenantId, assessmentId := assessmentId.text, aoiId })

/-- The check of the points, which raises at the first outside. -/
def checkInside (geometry : Geometry) : List SamplePoint → Except GeospatialError Unit
  | [] => .ok ()
  | p :: ps => do
    if ← pointInGeometry p.longitude p.latitude geometry then checkInside geometry ps
    else .error ⟨.samplePointOutsideAoi,
      s!"Generated sample point {p.id} falls outside the AOI geometry"⟩

section Generate

variable (math : Trig) (geometry : Geometry) (random : ℕ → PyFloat) (ids : ℕ → SamplePointId)

/-- The points of the strategy, by its generator. -/
def draw (self : SamplingCampaign) : Except GeospatialError (List SamplePoint) :=
  match self.strategy.method with
  | .stratifiedRandom => generateStratifiedSamples math geometry random ids self.strata
      self.strategy.sampleSize self.strategy.allocationMethod
  | .simpleRandom => generateSimpleRandomSamples math geometry random ids self.strategy.sampleSize

/-- `random` is the stream that the seed of the strategy determines. -/
def generatePoints : EStateM GeospatialError SamplingCampaign SamplePointsGenerated := do
  let self ← get
  if self.status = .generated then
    throw ⟨.samplingNotConfigured,
      s!"SamplingCampaign {self.id} has already generated its sample points"⟩
  match self.draw math geometry random ids with
  | .error e => throw e
  | .ok points =>
    match checkInside geometry points with
    | .error e => throw e
    | .ok () =>
      set { self with samplePoints := points, status := .generated }
      return { samplingCampaignId := self.id, tenantId := self.tenantId
               sampleCount := points.length }

/-! ### What is delivered -/

/-- A campaign that delivers: all points it promised, inside the area and under labels of its strata,
    or none, and then it is as before. -/
def Delivers (c : SamplingCampaign) : Prop :=
  match (generatePoints math geometry random ids).run c with
  | .ok _ c' => c'.status = .generated ∧ c'.samplePoints.length = c.strategy.sampleSize ∧
      (∀ p ∈ c'.samplePoints, pointInGeometry p.longitude p.latitude geometry = .ok true) ∧
      (c.strategy.method = .stratifiedRandom →
        ∀ p ∈ c'.samplePoints, ∃ s ∈ c.strata, p.stratum = some s.label)
  | .error _ c' => c' = c

/-- The strategy asks for no strata, or its strata split the sample size without loss. -/
def Apportions (c : SamplingCampaign) : Prop :=
  c.strategy.method = .stratifiedRandom →
    Apportionable c.strata c.strategy.sampleSize c.strategy.allocationMethod

/-- Drawing raises, or one of the points drawn is outside the area. -/
def MissesAoi (c : SamplingCampaign) : Prop :=
  ∀ points, c.draw math geometry random ids = .ok points →
    ∃ p ∈ points, pointInGeometry p.longitude p.latitude geometry ≠ .ok true

end Generate

variable {math : Trig} {geometry : Geometry} {random : ℕ → PyFloat} {ids : ℕ → SamplePointId}
  {c : SamplingCampaign} {points : List SamplePoint}

theorem checkInside_ok_iff : checkInside geometry points = .ok () ↔
    ∀ p ∈ points, pointInGeometry p.longitude p.latitude geometry = .ok true := by
  induction points with
  | nil => simp [checkInside]
  | cons p ps ih =>
    rw [checkInside, List.forall_mem_cons, ← ih, Lib.bind_ok]
    constructor
    · rintro ⟨inside, hp, h⟩
      cases inside with
      | true => exact ⟨hp, h⟩
      | false => cases h
    · rintro ⟨hp, h⟩
      exact ⟨true, hp, h⟩

/-- What is drawn is labelled, and is as much as was promised iff the strategy apportions. -/
theorem draw_ok (h : c.draw math geometry random ids = .ok points) :
    (points.length = c.strategy.sampleSize ↔ c.Apportions) ∧
      (c.strategy.method = .stratifiedRandom → ∀ p ∈ points, ∃ s ∈ c.strata, p.stratum = some s.label) := by
  unfold draw at h
  cases hm : c.strategy.method with
  | stratifiedRandom =>
    rw [hm] at h
    obtain ⟨hlen, hlabel⟩ := generateStratified_ok (c.strata_ok hm) h
    exact ⟨hlen.trans ⟨fun ha _ => ha, fun ha => ha hm⟩, fun _ => hlabel⟩
  | simpleRandom =>
    rw [hm] at h
    refine ⟨iff_of_true (generateSimple_length h) ?_, by simp⟩
    intro hs
    rw [hm] at hs
    cases hs

/-- The three ways a call goes. -/
theorem generatePoints_cases (math : Trig) (geometry : Geometry) (random : ℕ → PyFloat)
    (ids : ℕ → SamplePointId) (c : SamplingCampaign) :
    (∃ e, (generatePoints math geometry random ids).run c = .error e c ∧
      (c.status = .generated ∨ c.MissesAoi math geometry random ids)) ∨
    ∃ points ev, (generatePoints math geometry random ids).run c =
        .ok ev { c with samplePoints := points, status := .generated } ∧
      c.status ≠ .generated ∧ c.draw math geometry random ids = .ok points ∧
      ∀ p ∈ points, pointInGeometry p.longitude p.latitude geometry = .ok true := by
  by_cases hs : c.status = .generated
  · exact .inl ⟨_, by simp [generatePoints, hs]; rfl, .inl hs⟩
  · cases hd : c.draw math geometry random ids with
    | error e =>
      refine .inl ⟨e, by simp [generatePoints, hs, hd]; rfl, .inr fun points h => ?_⟩
      rw [hd] at h
      cases h
    | ok points =>
      cases hc : checkInside geometry points with
      | error e =>
        refine .inl ⟨e, by simp [generatePoints, hs, hd, hc]; rfl, .inr fun points' h => ?_⟩
        rw [hd] at h
        cases h
        by_contra hall
        push Not at hall
        rw [checkInside_ok_iff.mpr hall] at hc
        cases hc
      | ok u =>
        exact .inr ⟨points, _, by simp [generatePoints, hs, hd, hc]; rfl, hs, rfl,
          checkInside_ok_iff.mp hc⟩

/-- A campaign delivers iff its strategy apportions the sample size, or it raises: because it has
    generated already, or because a point is not found in the area. -/
theorem delivers_iff (math : Trig) (geometry : Geometry) (random : ℕ → PyFloat)
    (ids : ℕ → SamplePointId) (c : SamplingCampaign) :
    c.Delivers math geometry random ids ↔
      c.Apportions ∨ c.status = .generated ∨ c.MissesAoi math geometry random ids := by
  rcases generatePoints_cases math geometry random ids c with
    ⟨e, hrun, hwhy⟩ | ⟨points, ev, hrun, hs, hd, hinside⟩
  · refine iff_of_true ?_ (.inr hwhy)
    rw [Delivers, hrun]
  · obtain ⟨hlen, hlabel⟩ := draw_ok hd
    have hmiss : ¬ c.MissesAoi math geometry random ids := by
      intro hmiss
      obtain ⟨p, hp, hout⟩ := hmiss points hd
      exact hout (hinside p hp)
    rw [Delivers, hrun]
    simp only [hs, hmiss, or_false, ← hlen, true_and]
    exact ⟨fun h => h.1, fun h => ⟨h, hinside, hlabel⟩⟩

/-! ### A label given twice -/

/-- A stratum of half the sample. -/
def half : Stratum where
  label := "A"
  proportion := .finite (1 / 2)
  accepted := by decide +kernel

/-- A campaign with the stratum twice, which is to be given equal shares. -/
def twice : SamplingCampaign where
  id := ⟨1⟩
  tenantId := ⟨1⟩
  assessmentId := ⟨UUID.str 2, 2⟩
  aoiId := ⟨3⟩
  name := "Basin"
  status := .draft
  strategy := { sampleSize := 1000, allocationMethod := .equal }
  strata := [half, half]
  samplePoints := []
  createdBy := "alice"
  createdAt := 0
  strata_ok _ := List.cons_ne_nil _ _

def unitSquare : Geometry where
  geojson := .polygon [[(.finite 0, .finite 0), (.finite 1, .finite 0), (.finite 1, .finite 1),
    (.finite 0, .finite 1), (.finite 0, .finite 0)]]
  accepted := by decide +kernel

/-- It generates 500 points for a sample of 1000. -/
theorem twice_not_delivers : ¬ ∀ (math : Trig) (geometry : Geometry) (random : ℕ → PyFloat)
    (ids : ℕ → SamplePointId) (c : SamplingCampaign), c.Delivers math geometry random ids := by
  intro h
  have hbbox : (computeAoiStatistics Trig.flat unitSquare).map (·.bbox) =
      .ok ⟨.finite 0, .finite 0, .finite 1, .finite 1⟩ := by decide +kernel
  have hhit : pointInGeometry (uniform (.finite 0) (.finite 1) (.finite (1 / 2)))
      (uniform (.finite 0) (.finite 1) (.finite (1 / 2))) unitSquare = .ok true := by decide +kernel
  have halloc : allocateStratifiedSamples twice.strata twice.strategy.sampleSize
      twice.strategy.allocationMethod = .ok [("A", 500)] := by decide +kernel
  obtain ⟨drawn, hdrawn, hin⟩ := @drawPoints_of_hit Trig.flat _ (fun i => ⟨i⟩)
    (some "A") _ _ hbbox hhit 500 {}
  have hdraw : twice.draw Trig.flat unitSquare (fun _ => .finite (1 / 2)) (fun i => ⟨i⟩) =
      .ok drawn.points := by
    rw [draw, show twice.strategy.method = .stratifiedRandom from rfl]
    simp only [generateStratifiedSamples, halloc, List.foldlM_cons, List.foldlM_nil, bind,
      Except.bind, pure, Except.pure, Int.reduceToNat, hdrawn]
  have hlen : drawn.points.length = 500 := by simpa using (drawPoints_ok hdrawn).1
  rcases generatePoints_cases Trig.flat unitSquare (fun _ => .finite (1 / 2)) (fun i => ⟨i⟩) twice with
    ⟨_, _, hs | hmiss⟩ | ⟨points, ev, hrun, _, hd, _⟩
  · cases hs
  · obtain ⟨p, hp, hout⟩ := hmiss _ hdraw
    exact hout ((hin p hp).resolve_left (by simp))
  · have hall := h Trig.flat unitSquare (fun _ => .finite (1 / 2)) (fun i => ⟨i⟩) twice
    rw [Delivers, hrun] at hall
    rw [hdraw] at hd
    cases hd
    have hsize : drawn.points.length = 1000 := hall.2.1
    omega

end SamplingCampaign

end GeoRisk.Geospatial
