import Mathlib
import GeoRisk.PyFloat
import GeoRisk.Prediction.Correlation
import GeoRisk.Prediction.Handlers

/-! How many observations a coefficient is computed from, against the number that is recorded with it.
    Kendall's tau looks at no more than 500 of them; the recorded number is the length of the column:

        column  x₀ x₁ x₂ … xₙ₋₁ ─────────────────────────────▶ sample_size = n
                   └─▶ every n/500-th ─▶ tau over 500 pairs ──▶ coefficient

    The formulas are those over floats. -/

namespace GeoRisk.Prediction

/-- What of the arithmetic of floats is left open: `math.sqrt`, `** 2`, and `sorted` of the positions of a
    column by their values. -/
structure Numerics where
  sqrt : PyFloat → Except String PyFloat
  square : PyFloat → Except String PyFloat
  order : List PyFloat → List ℕ

/-! ### The coefficients -/

/-- `round(max(-1.0, min(1.0, q)), 6)`. -/
def clampCoefficient (q : PyFloat) : PyFloat :=
  PyFloat.roundTo 6 (PyFloat.maximum (-1) [PyFloat.minimum 1 [q]])

/-- `sum(values) / len(values)`. -/
def meanOf (values : List PyFloat) : Except String PyFloat :=
  PyFloat.truediv (PyFloat.sum values) (PyFloat.ofRat values.length)

def pearson (num : Numerics) (x y : List PyFloat) : Except String PyFloat := do
  let xMean ← meanOf x
  let yMean ← meanOf y
  let cov := PyFloat.sum ((x.zip y).map fun p => (p.1 - xMean) * (p.2 - yMean))
  let xVar := PyFloat.sum (← x.mapM fun v => num.square (v - xMean))
  let yVar := PyFloat.sum (← y.mapM fun v => num.square (v - yMean))
  let denom ← num.sqrt (xVar * yVar)
  if denom.isZero then return 0
  return clampCoefficient (← PyFloat.truediv cov denom)

/-- The ranks of the runs of equal values, the first at the `i`-th place. -/
def runRanks (i : ℕ) : List (List ℕ) → List (ℕ × PyFloat)
  | [] => []
  | run :: runs =>
    let j := i + run.length - 1
    run.map (·, PyFloat.ofRat ((i + j) / 2) + 1) ++ runRanks (j + 1) runs

/-- `_average_ranks`. -/
def averageRanks (num : Numerics) (values : List PyFloat) : List PyFloat :=
  let runs := (num.order values).splitBy fun a b =>
    PyFloat.eq (values.getD b 0) (values.getD a 0)
  (List.range values.length).map fun k => ((runRanks 0 runs).lookup k).getD 0

def spearman (num : Numerics) (x y : List PyFloat) : Except String PyFloat :=
  pearson num (averageRanks num x) (averageRanks num y)

/-- `int(x)`. -/
def truncate : PyFloat → Except String ℤ
  | .finite q => .ok (if 0 ≤ q then ⌊q⌋ else ⌈q⌉)
  | .inf _ => .error "cannot convert float infinity to integer"
  | .nan => .error "cannot convert float NaN to integer"

/-- `values[i]`; the positions are not negative. -/
def itemAt (values : List PyFloat) (i : ℤ) : Except String PyFloat :=
  match values[i.toNat]? with
  | some value => .ok value
  | none => .error "tuple index out of range"

/-- `_subsample_deterministic`. -/
def subsampleDeterministic (x y : List PyFloat) (maxObservations : ℕ) :
    Except String (List PyFloat × List PyFloat) :=
  if x.length ≤ maxObservations then .ok (x, y) else do
    let stride := PyFloat.ofRat (x.length / maxObservations)
    let indices ← (List.range maxObservations).mapM fun i : ℕ => truncate (PyFloat.ofRat i * stride)
    return (← indices.mapM (itemAt x), ← indices.mapM (itemAt y))

/-- One pair of observations. -/
def countPair (t : Correlation.Tally) (p : (PyFloat × PyFloat) × (PyFloat × PyFloat)) :
    Correlation.Tally :=
  let dx := p.1.1 - p.2.1
  let dy := p.1.2 - p.2.2
  if dx.isZero && dy.isZero then { t with xTies := t.xTies + 1, yTies := t.yTies + 1 }
  else if dx.isZero then { t with xTies := t.xTies + 1 }
  else if dy.isZero then { t with yTies := t.yTies + 1 }
  else if PyFloat.lt 0 dx = PyFloat.lt 0 dy then { t with concordant := t.concordant + 1 }
  else { t with discordant := t.discordant + 1 }

/-- Tau-b of the observations it is given. -/
def tauB (num : Numerics) (x y : List PyFloat) : Except String PyFloat := do
  let n := x.length
  let t := (Correlation.pairs (x.zip y)).foldl countPair {}
  let n0 := PyFloat.ofRat (n * (n - 1) / 2)
  let denom ← num.sqrt ((n0 - PyFloat.ofRat t.xTies) * (n0 - PyFloat.ofRat t.yTies))
  if denom.isZero then return 0
  return clampCoefficient (← PyFloat.truediv (PyFloat.ofRat (t.concordant - t.discordant)) denom)

def kendallTau (num : Numerics) (x y : List PyFloat) : Except String PyFloat := do
  let (x, y) ← subsampleDeterministic x y Correlation.MAX_KENDALL_OBSERVATIONS
  tauB num x y

/-- `_METHOD_FUNCTIONS`, on two columns of one length. -/
def methodFunctions (num : Numerics) : PredictionMethod → List PyFloat → List PyFloat →
    Except String PyFloat
  | .pearsonCorrelation => pearson num
  | .spearmanCorrelation => spearman num
  | .kendallCorrelation => kendallTau num
  | .multipleLinearRegression => fun _ _ =>
    .error (pyRepr PredictionMethod.multipleLinearRegression.value)

/-- The handler's ports, with these formulas. -/
def Ports.withFormulas (ports : Ports) (num : Numerics) : Ports :=
  { ports with coefficient := methodFunctions num }

/-! ### The observations of a coefficient -/

/-- The observations that enter the formula of a method. -/
def observationsOf (method : PredictionMethod) (x y : List PyFloat) :
    Except String (List PyFloat × List PyFloat) :=
  match method with
  | .kendallCorrelation => subsampleDeterministic x y Correlation.MAX_KENDALL_OBSERVATIONS
  | _ => .ok (x, y)

/-- The formula of a method, over the observations that enter it. -/
def formulaOf (num : Numerics) : PredictionMethod → List PyFloat → List PyFloat →
    Except String PyFloat
  | .kendallCorrelation => tauB num
  | method => methodFunctions num method

/-- A coefficient is the formula over these observations. -/
theorem methodFunctions_eq (num : Numerics) (method : PredictionMethod) (x y : List PyFloat) :
    methodFunctions num method x y =
      observationsOf method x y >>= fun obs => formulaOf num method obs.1 obs.2 := by
  cases method <;> rfl

theorem length_observationsOf {method : PredictionMethod} {x y xs ys : List PyFloat}
    (h : observationsOf method x y = .ok (xs, ys)) : xs.length =
      if method = .kendallCorrelation then min x.length Correlation.MAX_KENDALL_OBSERVATIONS
      else x.length := by
  unfold observationsOf at h
  split at h
  · rw [if_pos rfl]
    unfold subsampleDeterministic at h
    split at h
    · next hle =>
      cases h
      exact (min_eq_left hle).symm
    · next hlt =>
      obtain ⟨indices, hindices, h⟩ := Lib.bind_ok.mp h
      obtain ⟨xs, hxs, h⟩ := Lib.bind_ok.mp h
      obtain ⟨ys, -, h⟩ := Lib.bind_ok.mp h
      cases h
      rw [← (Lib.mapM_ok.mp hxs).length_eq, ← (Lib.mapM_ok.mp hindices).length_eq, List.length_range,
        min_eq_right (not_le.mp hlt).le]
  · next hne =>
    cases h
    rw [if_neg hne]

/-! ### The data of a run -/

section Data

variable {infos : List PredictorVariableInfo} {rows : List Row} {data : List (String × List PyFloat)}

/-- The data of a correlation: one column for each code, in any order. -/
structure ColumnsOf (infos : List PredictorVariableInfo) (rows : List Row)
    (data : List (String × List PyFloat)) : Prop where
  nodup : (data.map Prod.fst).Nodup
  codes : ∀ code, code ∈ data.map Prod.fst ↔ code ∈ infos.map (·.code)
  column : ∀ p ∈ data, rows.mapM (fun row => item row p.1) = .ok p.2

theorem columnsOf_dataOf (h : dataOf infos rows = .ok data) : ColumnsOf infos rows data := by
  unfold dataOf at h
  induction infos using List.reverseRecOn generalizing data with
  | nil =>
    cases h
    exact ⟨List.nodup_nil, by simp, by simp⟩
  | append_singleton infos info ih =>
    rw [List.foldlM_append] at h
    obtain ⟨d, hd, h⟩ := Lib.bind_ok.mp h
    rw [List.foldlM_cons] at h
    obtain ⟨d', h, hnil⟩ := Lib.bind_ok.mp h
    cases hnil
    obtain ⟨column, hcolumn, h⟩ := Lib.bind_ok.mp h
    cases h
    obtain ⟨hnodup, hcodes, hcol⟩ := ih hd
    refine ⟨setItem_keys_nodup hnodup, fun code => ?_, fun p hp => ?_⟩
    · simp only [mem_setItem_keys, hcodes, List.map_append, List.mem_append, List.map_cons,
        List.map_nil, List.mem_singleton]
    · rcases mem_setItem hp with hp | rfl
      · exact hcol p hp
      · exact hcolumn

theorem mem_sortedKeys_iff (h : ColumnsOf infos rows data) {code : String} :
    code ∈ sortedKeys data ↔ code ∈ infos.map (·.code) :=
  ((List.perm_insertionSort _ _).mem_iff).trans (h.codes code)

theorem nodup_sortedKeys (h : ColumnsOf infos rows data) : (sortedKeys data).Nodup :=
  (List.perm_insertionSort _ _).nodup_iff.mpr h.nodup

theorem pairwise_sortedKeys (h : ColumnsOf infos rows data) : (sortedKeys data).Pairwise (· < ·) := by
  have hsorted : (sortedKeys data).Pairwise (· ≤ ·) := List.pairwise_insertionSort _ _
  exact (hsorted.and (nodup_sortedKeys h)).imp fun hle => lt_of_le_of_ne hle.1 hle.2

/-- Where every code has a column there is data. -/
theorem exists_dataOf (h : ∀ info ∈ infos, ∃ column, rows.mapM (fun row => item row info.code) =
    .ok column) : ∃ data, dataOf infos rows = .ok data := by
  unfold dataOf
  generalize ([] : List (String × List PyFloat)) = data
  induction infos generalizing data with
  | nil => exact ⟨data, rfl⟩
  | cons info infos ih =>
    obtain ⟨column, hcolumn⟩ := h info List.mem_cons_self
    obtain ⟨data', hdata'⟩ := ih (fun i hi => h i (List.mem_cons_of_mem _ hi))
      (setItem data info.code column)
    refine ⟨data', ?_⟩
    rw [List.foldlM_cons, hcolumn]
    exact hdata'

/-- A code that is sorted has its column, as long as the rows are many. -/
theorem ColumnsOf.getD (h : ColumnsOf infos rows data) {code : String}
    (hcode : code ∈ sortedKeys data) :
    rows.mapM (fun row => item row code) = .ok ((data.lookup code).getD []) ∧
      ((data.lookup code).getD []).length = rows.length := by
  obtain ⟨column, hlookup, hmem⟩ := exists_lookup ((List.perm_insertionSort _ _).mem_iff.mp hcode)
  have hcolumn := h.column _ hmem
  rw [hlookup, Option.getD_some]
  exact ⟨hcolumn, (Lib.mapM_ok.mp hcolumn).length_eq.symm⟩

end Data

/-! ### Pairs -/

section Pairs

/-- Whether a pair names two codes, in either order. -/
def names (a b : String) (p : String × String) : Bool := p = (a, b) || p = (b, a)

theorem pairsOf_ne {codes : List String} (h : codes.Nodup) {p : String × String}
    (hp : p ∈ pairsOf codes) : p.1 ≠ p.2 := by
  induction codes with
  | nil => cases hp
  | cons a rest ih =>
    rcases List.mem_append.mp hp with hp | hp
    · obtain ⟨b, hb, rfl⟩ := List.mem_map.mp hp
      intro (heq : a = b)
      exact (List.nodup_cons.mp h).1 (heq ▸ hb)
    · exact ih (List.nodup_cons.mp h).2 hp

/-- Of ordered codes each is paired with those after it. -/
theorem mem_pairsOf_of_lt {a b : String} {codes : List String} (h : codes.Pairwise (· < ·))
    (ha : a ∈ codes) (hb : b ∈ codes) (hab : a < b) : (a, b) ∈ pairsOf codes := by
  induction codes with
  | nil => cases ha
  | cons c rest ih =>
    obtain ⟨hc, hrest⟩ := List.pairwise_cons.mp h
    rw [pairsOf, List.mem_append]
    rcases List.mem_cons.mp ha with rfl | ha'
    · have hb' : b ∈ rest := (List.mem_cons.mp hb).resolve_left hab.ne'
      exact .inl (List.mem_map_of_mem hb')
    · rcases List.mem_cons.mp hb with rfl | hb
      · exact absurd hab (hc _ ha').le.not_gt
      · exact .inr (ih hrest ha' hb)

theorem lt_of_mem_pairsOf {codes : List String} (h : codes.Pairwise (· < ·)) {p : String × String}
    (hp : p ∈ pairsOf codes) : p.1 < p.2 := by
  induction codes with
  | nil => cases hp
  | cons a rest ih =>
    obtain ⟨ha, hrest⟩ := List.pairwise_cons.mp h
    rcases List.mem_append.mp hp with hp | hp
    · obtain ⟨b, hb, rfl⟩ := List.mem_map.mp hp
      exact ha b hb
    · exact ih hrest hp

/-- The first code is paired once with each of the others. -/
theorem countP_map_pair {a b : String} {rest : List String} (ha : a ∉ rest) (hrest : rest.Nodup)
    (hb : b ∈ rest) : (rest.map (a, ·)).countP (names a b) = 1 := by
  rw [List.countP_map]
  have hcount : ∀ c ∈ rest, (names a b ∘ (a, ·)) c = true ↔ (c == b) = true := by
    intro c hc
    have hca : c ≠ a := fun h => ha (h ▸ hc)
    simp [names, hca]
  rw [List.countP_congr hcount]
  exact List.count_eq_one_of_mem hrest hb

theorem names_comm (a b : String) : names a b = names b a :=
  funext fun _ => Bool.or_comm ..

theorem countP_eq_zero_of_notMem {a b : String} {codes : List String} (ha : a ∉ codes) :
    (pairsOf codes).countP (names a b) = 0 := by
  refine List.countP_eq_zero.mpr fun p hp hnames => ?_
  obtain ⟨h1, h2⟩ := mem_pairsOf hp
  simp only [names, Bool.or_eq_true, decide_eq_true_eq] at hnames
  rcases hnames with rfl | rfl
  · exact ha h1
  · exact ha h2

/-- Of distinct codes every two make one pair. -/
theorem countP_pairsOf {a b : String} {codes : List String} (h : codes.Nodup) (ha : a ∈ codes)
    (hb : b ∈ codes) (hab : a ≠ b) : (pairsOf codes).countP (names a b) = 1 := by
  induction codes with
  | nil => cases ha
  | cons c rest ih =>
    obtain ⟨hc, hrest⟩ := List.nodup_cons.mp h
    rw [pairsOf, List.countP_append]
    by_cases hca : c = a
    · subst hca
      have hb' : b ∈ rest := (List.mem_cons.mp hb).resolve_left hab.symm
      rw [countP_map_pair hc hrest hb', countP_eq_zero_of_notMem hc]
    · by_cases hcb : c = b
      · subst hcb
        have ha' : a ∈ rest := (List.mem_cons.mp ha).resolve_left hab
        rw [names_comm, countP_map_pair hc hrest ha', countP_eq_zero_of_notMem hc]
      · have hnone : (rest.map (c, ·)).countP (names a b) = 0 := by
          refine List.countP_eq_zero.mpr fun p hp => ?_
          obtain ⟨d, -, rfl⟩ := List.mem_map.mp hp
          simp [names, hca, hcb]
        rw [hnone, Nat.zero_add]
        exact ih hrest ((List.mem_cons.mp ha).resolve_left (Ne.symm hca))
          ((List.mem_cons.mp hb).resolve_left (Ne.symm hcb))

end Pairs

/-! ### What a run reports -/

section Reports

variable {ports : Ports} {num : Numerics} {method : PredictionMethod}
  {infos : List PredictorVariableInfo} {rows : List Row} {now : Timestamp}
  {metadata : ModelMetadata} {result : CorrelationResult}

/-- `n` observations have entered the coefficient of a pair. -/
def Entered (num : Numerics) (method : PredictionMethod) (rows : List Row) (p : CorrelationPair)
    (n : ℕ) : Prop :=
  ∃ x y xs ys, rows.mapM (fun row => item row p.variableA) = .ok x ∧
    rows.mapM (fun row => item row p.variableB) = .ok y ∧
    observationsOf method x y = .ok (xs, ys) ∧ formulaOf num method xs ys = .ok p.coefficient ∧
    n = xs.length

/-- Every recorded size is that of the observations that entered, and every two variables are compared
    once. -/
structure Reported (num : Numerics) (method : PredictionMethod) (infos : List PredictorVariableInfo)
    (rows : List Row) (pairs : List CorrelationPair) : Prop where
  sizes : ∀ p ∈ pairs, Entered num method rows p p.sampleSize
  distinct : ∀ p ∈ pairs, p.variableA ≠ p.variableB
  once : ∀ a ∈ infos, ∀ b ∈ infos, a.code ≠ b.code →
    pairs.countP (fun p => names a.code b.code (p.variableA, p.variableB)) = 1

/-- A pair records the number of the rows; Kendall's tau has seen 500 of them at most. -/
theorem entered_of_mem {data : List (String × List PyFloat)} (hdata : ColumnsOf infos rows data)
    {codes : String × String} (hcodes : codes ∈ pairsOf (sortedKeys data)) {p : CorrelationPair}
    (h : (do
      let x := (data.lookup codes.1).getD []
      let y := (data.lookup codes.2).getD []
      validateEqualLength x y
      return ⟨codes.1, codes.2, ← methodFunctions num method x y, x.length⟩) =
        Except.ok p) :
    (p.variableA, p.variableB) = codes ∧ p.sampleSize = rows.length ∧
    Entered num method rows p (if method = .kendallCorrelation
      then min rows.length Correlation.MAX_KENDALL_OBSERVATIONS else rows.length) := by
  obtain ⟨-, -, h⟩ := Lib.bind_ok.mp h
  obtain ⟨coefficient, hcoefficient, h⟩ := Lib.bind_ok.mp h
  cases h
  rw [methodFunctions_eq] at hcoefficient
  obtain ⟨⟨xs, ys⟩, hobs, hformula⟩ := Lib.bind_ok.mp hcoefficient
  obtain ⟨hx, hlen⟩ := hdata.getD (mem_pairsOf hcodes).1
  obtain ⟨hy, -⟩ := hdata.getD (mem_pairsOf hcodes).2
  refine ⟨rfl, hlen, _, _, xs, ys, hx, hy, hobs, hformula, ?_⟩
  rw [length_observationsOf hobs, hlen]

theorem entered_unique {p : CorrelationPair} {n m : ℕ} (hn : Entered num method rows p n)
    (hm : Entered num method rows p m) : n = m := by
  obtain ⟨x, y, xs, ys, hx, hy, hobs, -, rfl⟩ := hn
  obtain ⟨x', y', xs', ys', hx', hy', hobs', -, rfl⟩ := hm
  cases hx.symm.trans hx'
  cases hy.symm.trans hy'
  cases hobs.symm.trans hobs'
  rfl

/-- A correlation reports what it used iff Kendall's tau did not leave observations out, or there was
    nothing to compare. -/
theorem runCorrelation_reported
    (h : runCorrelation (ports.withFormulas num) method infos rows now = .ok (metadata, result)) :
    Reported num method infos rows result.pairs ↔ method ≠ .kendallCorrelation ∨
      rows.length ≤ Correlation.MAX_KENDALL_OBSERVATIONS ∨
      ∀ a ∈ infos, ∀ b ∈ infos, a.code = b.code := by
  obtain ⟨data, hdata, h⟩ := Lib.bind_ok.mp h
  obtain ⟨pairs, hpairs, h⟩ := Lib.bind_ok.mp h
  obtain ⟨metadata, -, h⟩ := Lib.bind_ok.mp h
  cases h
  have hcolumns := columnsOf_dataOf hdata
  have hnodup := nodup_sortedKeys hcolumns
  have hcodes : ∀ info ∈ infos, info.code ∈ sortedKeys data := fun info hinfo =>
    (mem_sortedKeys_iff hcolumns).mpr (List.mem_map_of_mem hinfo)
  have hspec : ∀ p ∈ pairs, (p.variableA, p.variableB) ∈ pairsOf (sortedKeys data) ∧
      p.sampleSize = rows.length ∧ Entered num method rows p (if method = .kendallCorrelation
        then min rows.length Correlation.MAX_KENDALL_OBSERVATIONS else rows.length) := by
    intro p hp
    obtain ⟨codes, hmem, hp⟩ := Lib.mem_of_mapM_ok hpairs p hp
    obtain ⟨rfl, hrest⟩ := entered_of_mem hcolumns hmem hp
    exact ⟨hmem, hrest⟩
  have hnames : pairs.map (fun p => (p.variableA, p.variableB)) = pairsOf (sortedKeys data) := by
    refine Lib.map_eq_of_mapM_ok hpairs fun codes p hp => ?_
    obtain ⟨-, -, hp⟩ := Lib.bind_ok.mp hp
    obtain ⟨coefficient, -, hp⟩ := Lib.bind_ok.mp hp
    cases hp
    rfl
  have honce : ∀ a ∈ infos, ∀ b ∈ infos, a.code ≠ b.code →
      pairs.countP (fun p => names a.code b.code (p.variableA, p.variableB)) = 1 := by
    intro a ha b hb hab
    rw [← countP_pairsOf hnodup (hcodes a ha) (hcodes b hb) hab, ← hnames, List.countP_map]
    rfl
  have hdistinct : ∀ p ∈ pairs, p.variableA ≠ p.variableB := fun p hp =>
    pairsOf_ne hnodup (hspec p hp).1
  constructor
  · rintro ⟨hsizes, -, -⟩
    by_contra hcond
    push Not at hcond
    obtain ⟨hkendall, hmany, a, ha, b, hb, hab⟩ := hcond
    have hone := honce a ha b hb hab
    obtain ⟨p, hp, -⟩ := List.countP_pos_iff.mp (hone ▸ Nat.one_pos)
    obtain ⟨-, hsize, hentered⟩ := hspec p hp
    have hsame := entered_unique (hsizes p hp) hentered
    rw [if_pos hkendall, hsize, min_eq_right hmany.le] at hsame
    omega
  · intro hcond
    refine ⟨fun p hp => ?_, hdistinct, honce⟩
    obtain ⟨hmem, hsize, hentered⟩ := hspec p hp
    rw [hsize]
    split_ifs at hentered with hkendall
    · rcases hcond with hcond | hcond | hcond
      · exact (hcond hkendall).elim
      · rwa [min_eq_left hcond] at hentered
      · exfalso
        obtain ⟨ha, hb⟩ := mem_pairsOf hmem
        obtain ⟨a, hai, ha⟩ := List.mem_map.mp ((mem_sortedKeys_iff hcolumns).mp ha)
        obtain ⟨b, hbi, hb⟩ := List.mem_map.mp ((mem_sortedKeys_iff hcolumns).mp hb)
        exact hdistinct p hp (ha.symm.trans ((hcond a hai b hbi).trans hb))
    · exact hentered

/-- A loop returns when every round does. -/
theorem exists_mapM_ok {α β ε : Type} {f : α → Except ε β} {as : List α}
    (h : ∀ a ∈ as, ∃ b, f a = .ok b) : ∃ bs, as.mapM f = .ok bs := by
  induction as with
  | nil => exact ⟨[], rfl⟩
  | cons a as ih =>
    obtain ⟨b, hb⟩ := h a List.mem_cons_self
    obtain ⟨bs, hbs⟩ := ih fun a ha => h a (List.mem_cons_of_mem _ ha)
    exact ⟨b :: bs, Lib.mapM_ok.mpr (.cons hb (Lib.mapM_ok.mp hbs))⟩

/-- Both columns are there, and the formula of the method returns on them. -/
def Computes (num : Numerics) (method : PredictionMethod) (rows : List Row) (a b : String) : Prop :=
  ∃ x y r, rows.mapM (fun row => item row a) = .ok x ∧ rows.mapM (fun row => item row b) = .ok y ∧
    methodFunctions num method x y = .ok r

theorem validateEqualLength_ok {x y : List PyFloat} (h : x.length = y.length) :
    validateEqualLength x y = .ok () ↔ 2 ≤ x.length := by
  unfold validateEqualLength
  rw [if_neg (not_not.mpr h)]
  split
  · next hfew => exact iff_of_false (fun h => by cases h) (by omega)
  · next hmany => exact iff_of_true rfl (by omega)

/-- What returns has computed every two columns, of two observations at least. -/
theorem computes_of_runCorrelation
    (h : runCorrelation (ports.withFormulas num) method infos rows now = .ok (metadata, result)) :
    ∀ a ∈ infos, ∀ b ∈ infos, a.code < b.code →
      2 ≤ rows.length ∧ Computes num method rows a.code b.code := by
  obtain ⟨data, hdata, h⟩ := Lib.bind_ok.mp h
  obtain ⟨pairs, hpairs, -⟩ := Lib.bind_ok.mp h
  have hcolumns := columnsOf_dataOf hdata
  intro a ha b hb hab
  have hacode := (mem_sortedKeys_iff hcolumns).mpr (List.mem_map_of_mem ha)
  have hbcode := (mem_sortedKeys_iff hcolumns).mpr (List.mem_map_of_mem hb)
  obtain ⟨p, -, hp⟩ := Lib.exists_of_mapM_ok hpairs _
    (mem_pairsOf_of_lt (pairwise_sortedKeys hcolumns) hacode hbcode hab)
  obtain ⟨_, hvalid, hp⟩ := Lib.bind_ok.mp hp
  obtain ⟨r, hr, -⟩ := Lib.bind_ok.mp hp
  obtain ⟨hx, hxlen⟩ := hcolumns.getD hacode
  obtain ⟨hy, hylen⟩ := hcolumns.getD hbcode
  have htwo := (validateEqualLength_ok (hxlen.trans hylen.symm)).mp hvalid
  exact ⟨hxlen ▸ htwo, _, _, r, hx, hy, hr⟩

/-- Of two variables that differ one differs from any other, so that each has a column. -/
theorem exists_column {a b : PredictorVariableInfo} (ha : a ∈ infos) (hb : b ∈ infos)
    (hab : a.code ≠ b.code)
    (hcomputes : ∀ a ∈ infos, ∀ b ∈ infos, a.code < b.code → Computes num method rows a.code b.code) :
    ∀ info ∈ infos, ∃ column, rows.mapM (fun row => item row info.code) = .ok column := by
  intro info hinfo
  obtain ⟨other, hother, hne⟩ : ∃ other ∈ infos, info.code ≠ other.code := by
    by_cases h : info.code = a.code
    · exact ⟨b, hb, h ▸ hab⟩
    · exact ⟨a, ha, h⟩
  rcases lt_or_gt_of_ne hne with hlt | hlt
  · obtain ⟨x, -, -, hx, -⟩ := hcomputes info hinfo other hother hlt
    exact ⟨x, hx⟩
  · obtain ⟨-, y, -, -, hy, -⟩ := hcomputes other hother info hinfo hlt
    exact ⟨y, hy⟩

/-- All pairs of columns are computed. -/
theorem exists_pairs {data : List (String × List PyFloat)} (hcolumns : ColumnsOf infos rows data)
    (hlen : 2 ≤ rows.length)
    (hcomputes : ∀ a ∈ infos, ∀ b ∈ infos, a.code < b.code → Computes num method rows a.code b.code) :
    ∃ pairs, computeCorrelationPairs (ports.withFormulas num) data method = .ok pairs := by
  refine exists_mapM_ok fun codes hcodes => ?_
  obtain ⟨h1, h2⟩ := mem_pairsOf hcodes
  obtain ⟨a, ha, hacode⟩ := List.mem_map.mp ((mem_sortedKeys_iff hcolumns).mp h1)
  obtain ⟨b, hb, hbcode⟩ := List.mem_map.mp ((mem_sortedKeys_iff hcolumns).mp h2)
  have hlt : a.code < b.code := by
    rw [hacode, hbcode]
    exact lt_of_mem_pairsOf (pairwise_sortedKeys hcolumns) hcodes
  obtain ⟨x, y, r, hx, hy, hr⟩ := hcomputes a ha b hb hlt
  rw [hacode] at hx
  rw [hbcode] at hy
  obtain ⟨hx', hxlen⟩ := hcolumns.getD h1
  obtain ⟨hy', hylen⟩ := hcolumns.getD h2
  rw [Except.ok.inj (hx.symm.trans hx')] at hr
  rw [Except.ok.inj (hy.symm.trans hy')] at hr
  have hvalid := (validateEqualLength_ok (hxlen.trans hylen.symm)).mpr (hxlen.symm ▸ hlen)
  exact ⟨_, Lib.bind_ok.mpr ⟨(), hvalid, Lib.bind_ok.mpr ⟨r, hr, rfl⟩⟩⟩

/-- With variables to compare, a correlation returns iff there are two observations and the formula
    returns on every two columns. -/
theorem runCorrelation_ok_iff {a b : PredictorVariableInfo} (ha : a ∈ infos) (hb : b ∈ infos)
    (hab : a.code ≠ b.code) :
    (∃ metadata result, runCorrelation (ports.withFormulas num) method infos rows now =
      .ok (metadata, result)) ↔
    2 ≤ rows.length ∧ ∀ a ∈ infos, ∀ b ∈ infos, a.code < b.code →
      Computes num method rows a.code b.code := by
  constructor
  · rintro ⟨metadata, result, h⟩
    have hpair := computes_of_runCorrelation h
    refine ⟨?_, fun a ha b hb hab => (hpair a ha b hb hab).2⟩
    rcases lt_or_gt_of_ne hab with hlt | hlt
    · exact (hpair a ha b hb hlt).1
    · exact (hpair b hb a ha hlt).1
  · rintro ⟨hlen, hcomputes⟩
    obtain ⟨data, hdata⟩ := exists_dataOf (exists_column ha hb hab hcomputes)
    have hcolumns := columnsOf_dataOf hdata
    obtain ⟨pairs, hpairs⟩ := @exists_pairs ports _ _ _ _ _ hcolumns hlen hcomputes
    have hkeys : sortedKeys data ≠ [] :=
      List.ne_nil_of_mem ((mem_sortedKeys_iff hcolumns).mpr (List.mem_map_of_mem ha))
    obtain ⟨metadata, hmetadata⟩ : ∃ metadata, ModelMetadata.make method method.formulaVersion
        (sortedKeys data) none rows.length now = .ok metadata := by
      unfold ModelMetadata.make
      rw [dif_neg hkeys, dif_pos (by omega)]
      exact ⟨_, rfl⟩
    exact ⟨metadata, ⟨pairs⟩, Lib.bind_ok.mpr ⟨data, hdata, Lib.bind_ok.mpr ⟨pairs, hpairs,
      Lib.bind_ok.mpr ⟨metadata, hmetadata, rfl⟩⟩⟩⟩

variable {c : RunPrediction} {id : PredictionRunId} {version : ℕ} {selection : VariableSelectionInfo}

/-- The pairs that a run has recorded; a failed one has none. -/
def PredictionRun.recordedPairs (run : PredictionRun) : List CorrelationPair :=
  (run.correlationResult.map (·.pairs)).getD []

/-- A correlation records the pairs that it computes, and none when anything is raised. -/
theorem recordedPairs_resultOf (hobserve : observe ports c = .ok (selection, rows))
    (hmethod : c.method ≠ .multipleLinearRegression) :
    (∃ metadata result, runCorrelation ports c.method selection.variableInfos rows now =
        .ok (metadata, result) ∧
      (resultOf ports c id version now).1.recordedPairs = result.pairs) ∨
    (¬ ∃ metadata result, runCorrelation ports c.method selection.variableInfos rows now =
        .ok (metadata, result)) ∧
      (resultOf ports c id version now).1.recordedPairs = [] := by
  unfold resultOf
  simp only [hobserve]
  cases hrun : runCorrelation ports c.method selection.variableInfos rows now with
  | error e =>
    refine .inr ⟨by simp, ?_⟩
    simp [hmethod, hrun, bind, Except.bind, PredictionRun.failed, PredictionRun.ofCommand,
      PredictionRun.recordedPairs]
  | ok out =>
    obtain ⟨metadata, found⟩ := out
    refine .inl ⟨metadata, found, rfl, ?_⟩
    simp [hmethod, hrun, bind, Except.bind, pure, Except.pure, PredictionRun.completeCorrelation,
      PredictionRun.recordedPairs]

/-- The observations of a correlation all enter it, they are two at least, and the formula returns on
    every two columns. -/
structure Comparable (num : Numerics) (method : PredictionMethod)
    (infos : List PredictorVariableInfo) (rows : List Row) : Prop where
  kept : method ≠ .kendallCorrelation ∨ rows.length ≤ Correlation.MAX_KENDALL_OBSERVATIONS
  enough : 2 ≤ rows.length
  computes : ∀ a ∈ infos, ∀ b ∈ infos, a.code < b.code → Computes num method rows a.code b.code

/-- Whatever is observed, a run of a correlation, completed or failed, reports every pair with the
    observations it used iff there is nothing to compare, or the observations can be compared and
    Kendall's tau leaves none out. -/
theorem resultOf_reported (hobserve : observe ports c = .ok (selection, rows))
    (hmethod : c.method ≠ .multipleLinearRegression) :
    Reported num c.method selection.variableInfos rows
        (resultOf (ports.withFormulas num) c id version now).1.recordedPairs ↔
      (∀ a ∈ selection.variableInfos, ∀ b ∈ selection.variableInfos, a.code = b.code) ∨
        Comparable num c.method selection.variableInfos rows := by
  have hobserve' : observe (ports.withFormulas num) c = .ok (selection, rows) := hobserve
  by_cases hsame : ∀ a ∈ selection.variableInfos, ∀ b ∈ selection.variableInfos, a.code = b.code
  · refine iff_of_true ?_ (.inl hsame)
    rcases recordedPairs_resultOf hobserve' hmethod with ⟨metadata, result, hrun, hpairs⟩ | ⟨-, hpairs⟩
    · rw [hpairs]
      exact (runCorrelation_reported hrun).mpr (.inr (.inr hsame))
    · rw [hpairs]
      exact ⟨by simp, by simp, fun a ha b hb hab => absurd (hsame a ha b hb) hab⟩
  · rw [or_iff_right hsame]
    push Not at hsame
    obtain ⟨a, ha, b, hb, hab⟩ := hsame
    have hok := @runCorrelation_ok_iff ports num c.method _ rows now _ _ ha hb hab
    rcases recordedPairs_resultOf hobserve' hmethod with
      ⟨metadata, result, hrun, hpairs⟩ | ⟨hfailed, hpairs⟩
    · obtain ⟨henough, hcomputes⟩ := hok.mp ⟨metadata, result, hrun⟩
      rw [hpairs, runCorrelation_reported hrun, ← or_assoc]
      constructor
      · intro h
        exact ⟨h.resolve_right fun hall => hab (hall a ha b hb), henough, hcomputes⟩
      · exact fun h => .inl h.kept
    · rw [hpairs]
      constructor
      · intro h
        have hone := h.once a ha b hb hab
        cases hone
      · exact fun h => absurd (hok.mpr ⟨h.enough, h.computes⟩) hfailed

end Reports

/-! ### Two variables that do not vary -/

section Flat

def flatVariable (code : String) : PredictorVariableInfo where
  predictorVariableId := code
  code := code
  name := code
  variableRole := "INDEPENDENT"
  valueMin := none
  valueMax := none

def flatSelection : VariableSelectionInfo where
  variableSelectionId := "selection"
  status := "CONFIRMED"
  hazardType := none
  variableInfos := [flatVariable "a", flatVariable "b"]

def flatRows (n : ℕ) : List Row := List.replicate n [("a", 0), ("b", 0)]

def flatPorts (n : ℕ) : Ports where
  getSelection _ _ := .ok (some flatSelection)
  getSampleCount _ _ := .ok (some n)
  generateObservations _ _ _ sampleCount _ := .ok (flatRows sampleCount)
  deterministicSeed _ := 0
  coefficient _ _ _ := .ok 0
  fit _ _ _ := .error "singular design matrix"

/-- Square roots of 0, squares, and the order of equal values. -/
def flatNumerics : Numerics where
  sqrt x := .ok x
  square x := .ok (x * x)
  order values := List.range values.length

def flatCommand (method : PredictionMethod) : RunPrediction where
  tenantId := ⟨1⟩
  assessmentId := ⟨UUID.str 2, 2⟩
  variableSelectionId := ⟨UUID.str 3, 3⟩
  samplingCampaignId := ⟨UUID.str 4, 4⟩
  method := method
  issuedBy := "analyst"

theorem mapM_flatRows {n : ℕ} {code : String} (h : code = "a" ∨ code = "b") :
    (flatRows n).mapM (fun row => item row code) = .ok (List.replicate n 0) := by
  have hitem : item [("a", 0), ("b", 0)] code = .ok 0 := by
    rcases h with rfl | rfl <;> rfl
  refine Lib.mapM_ok.mpr (List.forall₂_iff_get.mpr ⟨by simp [flatRows], fun i h₁ h₂ => ?_⟩)
  simpa [flatRows] using hitem

theorem dataOf_flat (n : ℕ) : dataOf flatSelection.variableInfos (flatRows n) =
    .ok [("a", List.replicate n 0), ("b", List.replicate n 0)] := by
  simp [dataOf, flatSelection, flatVariable, mapM_flatRows, setItem, bind, Except.bind, pure,
    Except.pure]

theorem tauB_flat (x y : List PyFloat) : ∃ r, tauB flatNumerics x y = .ok r := by
  unfold tauB flatNumerics
  simp only [bind, Except.bind, pure, Except.pure]
  split
  · exact ⟨0, rfl⟩
  · next hzero => exact ⟨_, by simp only [PyFloat.truediv, if_neg hzero]; rfl⟩

/-- Where the sample can be drawn, the correlation of the two is computed. -/
theorem runCorrelation_flat {n : ℕ} (hn : 2 ≤ n) {xs ys : List PyFloat}
    (h : subsampleDeterministic (List.replicate n 0) (List.replicate n 0)
      Correlation.MAX_KENDALL_OBSERVATIONS = .ok (xs, ys)) :
    ∃ metadata result, runCorrelation ((flatPorts n).withFormulas flatNumerics)
      .kendallCorrelation flatSelection.variableInfos (flatRows n) 0 = .ok (metadata, result) := by
  obtain ⟨r, hr⟩ := tauB_flat xs ys
  have hkeys : sortedKeys [("a", List.replicate n (0 : PyFloat)), ("b", List.replicate n 0)] =
      ["a", "b"] := by
    change ["a", "b"].insertionSort (· ≤ ·) = ["a", "b"]
    decide
  have hvalid : validateEqualLength (List.replicate n (0 : PyFloat)) (List.replicate n 0) = .ok () := by
    unfold validateEqualLength
    rw [if_neg (by simp), if_neg (by simp; omega)]
  have htau : methodFunctions flatNumerics .kendallCorrelation (List.replicate n 0)
      (List.replicate n 0) = .ok r := by
    rw [methodFunctions_eq]
    exact Lib.bind_ok.mpr ⟨(xs, ys), h, hr⟩
  have hpairs : computeCorrelationPairs ((flatPorts n).withFormulas flatNumerics)
      [("a", List.replicate n 0), ("b", List.replicate n 0)] .kendallCorrelation =
        .ok [⟨"a", "b", r, n⟩] := by
    unfold computeCorrelationPairs
    rw [hkeys]
    refine Lib.mapM_ok.mpr (.cons ?_ .nil)
    refine Lib.bind_ok.mpr ⟨(), hvalid, Lib.bind_ok.mpr ⟨r, htau, ?_⟩⟩
    change Except.ok _ = _
    simp
  have hmetadata : ∃ metadata, ModelMetadata.make .kendallCorrelation
      PredictionMethod.kendallCorrelation.formulaVersion ["a", "b"] none (flatRows n).length 0 =
        .ok metadata := by
    unfold ModelMetadata.make
    rw [dif_neg (by simp), dif_pos (by simp [flatRows]; omega)]
    exact ⟨_, rfl⟩
  obtain ⟨metadata, hmetadata⟩ := hmetadata
  refine ⟨metadata, ⟨[⟨"a", "b", r, n⟩]⟩, Lib.bind_ok.mpr ⟨_, dataOf_flat n, ?_⟩⟩
  exact Lib.bind_ok.mpr ⟨_, hpairs, Lib.bind_ok.mpr ⟨metadata, hkeys.symm ▸ hmetadata, rfl⟩⟩

/-- Of a thousand observations every second one is drawn. -/
theorem subsample_thousand : ∃ xs ys, subsampleDeterministic (List.replicate 1000 0) (List.replicate 1000 0)
      Correlation.MAX_KENDALL_OBSERVATIONS = .ok (xs, ys) := by
  have hstride : PyFloat.ofRat (((List.replicate 1000 (0 : PyFloat)).length : ℚ) /
      (Correlation.MAX_KENDALL_OBSERVATIONS : ℕ)) = .finite 2 := by
    have htwo : ((List.replicate 1000 (0 : PyFloat)).length : ℚ) /
      (Correlation.MAX_KENDALL_OBSERVATIONS : ℕ) = ((2 : ℕ) : ℚ) := by
      rw [List.length_replicate, Correlation.MAX_KENDALL_OBSERVATIONS]
      norm_num
    rw [htwo, PyFloat.ofRat_natCast (by norm_num)]
    rfl
  have hindex : ∀ i ∈ List.range 500, truncate (PyFloat.ofRat (i : ℕ) * .finite 2) = .ok (2 * i : ℕ) := by
    intro i hi
    have hlt := List.mem_range.mp hi
    rw [PyFloat.ofRat_natCast (by omega)]
    change truncate (PyFloat.ofRat ((i : ℚ) * 2)) = _
    have hdouble : (i : ℚ) * 2 = ((2 * i : ℕ) : ℚ) := by push_cast; ring
    rw [hdouble, PyFloat.ofRat_natCast (by omega), truncate, if_pos (Nat.cast_nonneg _),
      Int.floor_natCast]
  have hitem : ∀ i ∈ (List.range 500).map fun i => ((2 * i : ℕ) : ℤ),
      itemAt (List.replicate 1000 0) i = .ok 0 := by
    intro i hi
    obtain ⟨k, hk, rfl⟩ := List.mem_map.mp hi
    have hlt := List.mem_range.mp hk
    rw [itemAt, Int.toNat_natCast, List.getElem?_replicate_of_lt (by omega)]
  have hindices : (List.range 500).mapM (fun i : ℕ => truncate (PyFloat.ofRat i * .finite 2)) =
      .ok ((List.range 500).map fun i => ((2 * i : ℕ) : ℤ)) :=
    Lib.mapM_ok.mpr (List.forall₂_map_right_iff.mpr (List.forall₂_same.mpr hindex))
  obtain ⟨sampled, hitems⟩ : ∃ sampled, ((List.range 500).map fun i => ((2 * i : ℕ) : ℤ)).mapM
      (itemAt (List.replicate 1000 0)) = .ok sampled :=
    ⟨_, Lib.mapM_ok.mpr (List.forall₂_map_right_iff.mpr (List.forall₂_same.mpr hitem))⟩
  refine ⟨sampled, sampled, ?_⟩
  rw [subsampleDeterministic, if_neg (by rw [List.length_replicate]; decide)]
  simp only [hstride]
  exact Lib.bind_ok.mpr ⟨_, hindices, Lib.bind_ok.mpr ⟨_, hitems,
    Lib.bind_ok.mpr ⟨_, hitems, rfl⟩⟩⟩

theorem observe_flat (n : ℕ) : observe (flatPorts n) (flatCommand .kendallCorrelation) =
    .ok (flatSelection, flatRows n) := rfl

/-- Two variables and a thousand rows: the recorded size is 1000, and 500 have been used. -/
theorem resultOf_not_reported_thousand : ¬ ∀ (num : Numerics) (ports : Ports) (c : RunPrediction)
    (id : PredictionRunId) (version : ℕ) (now : Timestamp) (selection : VariableSelectionInfo)
    (rows : List Row), observe ports c = .ok (selection, rows) →
    c.method ≠ .multipleLinearRegression →
    (∃ metadata result, runCorrelation (ports.withFormulas num) c.method selection.variableInfos rows
      now = .ok (metadata, result)) →
    Reported num c.method selection.variableInfos rows
      (resultOf (ports.withFormulas num) c id version now).1.recordedPairs := by
  intro h
  obtain ⟨xs, ys, hsample⟩ := subsample_thousand
  obtain ⟨metadata, result, hrun⟩ := runCorrelation_flat (by norm_num) hsample
  have hreported := h flatNumerics (flatPorts 1000) (flatCommand .kendallCorrelation) ⟨5⟩ 1 0
    flatSelection (flatRows 1000) (observe_flat 1000) (by decide) ⟨metadata, result, hrun⟩
  have hrows : (flatRows 1000).length = 1000 := List.length_replicate
  have hab : (flatVariable "a").code ≠ (flatVariable "b").code := by decide
  have hobserve : observe ((flatPorts 1000).withFormulas flatNumerics)
      (flatCommand .kendallCorrelation) = .ok (flatSelection, flatRows 1000) := observe_flat 1000
  rcases @recordedPairs_resultOf _ _ 0 _ ⟨5⟩ 1 _ hobserve (by decide) with
    ⟨metadata', result', hrun', hpairs⟩ | ⟨hfailed, -⟩
  · rw [hpairs] at hreported
    rcases (runCorrelation_reported hrun').mp hreported with hmethod | hlen | hcodes
    · exact hmethod rfl
    · rw [hrows] at hlen
      exact absurd hlen (by decide)
    · exact hab (hcodes _ (by simp [flatSelection]) _ (by simp [flatSelection]))
  · exact hfailed ⟨metadata, result, hrun⟩

/-- Two variables and two rows. -/
theorem resultOf_reported_two : Reported flatNumerics .kendallCorrelation flatSelection.variableInfos
    (flatRows 2) (resultOf ((flatPorts 2).withFormulas flatNumerics)
      (flatCommand .kendallCorrelation) ⟨5⟩ 1 0).1.recordedPairs := by
  obtain ⟨metadata, result, hrun⟩ := runCorrelation_flat le_rfl
    (if_pos (by simp [Correlation.MAX_KENDALL_OBSERVATIONS]))
  have hab : (flatVariable "a").code ≠ (flatVariable "b").code := by decide
  obtain ⟨henough, hcomputes⟩ := (runCorrelation_ok_iff (by simp [flatSelection])
    (by simp [flatSelection]) hab).mp ⟨metadata, result, hrun⟩
  refine (resultOf_reported (observe_flat 2) (by decide)).mpr (.inr ⟨.inr ?_, henough, hcomputes⟩)
  simp [flatRows, Correlation.MAX_KENDALL_OBSERVATIONS]

end Flat

end GeoRisk.Prediction
