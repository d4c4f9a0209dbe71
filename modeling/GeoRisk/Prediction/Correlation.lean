import Mathlib
import GeoRisk.Lib.Ranks
import GeoRisk.Lib.Results
import GeoRisk.Lib.Rounding

/-! The correlation engine, over exact numbers. Spearman correlates the ranks of two variables; Kendall
    compares them pair by pair, on a sample of the observations where there are many:

        x  ─ranks─▶ ┐                       i < j     dx = 0, dy = 0    tied
        y  ─ranks─▶ ┴─▶ pearson                       dx · dy > 0       concordant
                                                      dx · dy < 0       discordant

    Both see the order of the values and nothing else of them. -/

namespace GeoRisk.Prediction.Correlation

def MAX_KENDALL_OBSERVATIONS : ℕ := 500

inductive CorrelationError where
  | insufficientObservations (message : String)
  deriving DecidableEq

/-- `_validate_equal_length`, of two columns of one length. -/
def validateEqualLength (n : ℕ) : Except CorrelationError Unit :=
  if n < 2 then .error (.insufficientObservations "Correlation requires at least 2 observations")
  else .ok ()

variable {α : Type} [Field α] [LinearOrder α] [FloorRing α] {n : ℕ}

/-- A quotient, rounded into its range; zero where there is nothing to divide by. -/
def clamped (numerator denom : α) : α :=
  if denom = 0 then 0 else Lib.roundTo 6 (max (-1) (min 1 (numerator / denom)))

/-! ### Pearson and Spearman -/

def pearson (sqrt : α → α) (x y : Fin n → α) : Except CorrelationError α := do
  validateEqualLength n
  let xMean := (∑ i, x i) / n
  let yMean := (∑ i, y i) / n
  let cov := ∑ i, (x i - xMean) * (y i - yMean)
  let xVar := ∑ i, (x i - xMean) ^ 2
  let yVar := ∑ i, (y i - yMean) ^ 2
  return clamped cov (sqrt (xVar * yVar))

def spearman (sqrt : α → α) (x y : Fin n → α) : Except CorrelationError α := do
  validateEqualLength n
  pearson sqrt (Lib.averageRanks x) (Lib.averageRanks y)

/-! ### Kendall -/

/-- The indices of `_subsample_deterministic`: all of them, or as many as allowed at even distances. -/
def subsampleIndices (n maxObservations : ℕ) : List (Fin n) :=
  if n ≤ maxObservations then List.finRange n
  else (List.finRange maxObservations).filterMap fun i =>
    if h : i * n / maxObservations < n then some ⟨i * n / maxObservations, h⟩ else none

/-- Every observation with each one after it. -/
def pairs {γ : Type} : List γ → List (γ × γ)
  | [] => []
  | a :: rest => rest.map (a, ·) ++ pairs rest

structure Tally where
  concordant : ℕ := 0
  discordant : ℕ := 0
  xTies : ℕ := 0
  yTies : ℕ := 0

/-- One pair of observations. -/
def Tally.count (x y : Fin n → α) (t : Tally) (p : Fin n × Fin n) : Tally :=
  let dx := x p.1 - x p.2
  let dy := y p.1 - y p.2
  if dx = 0 ∧ dy = 0 then { t with xTies := t.xTies + 1, yTies := t.yTies + 1 }
  else if dx = 0 then { t with xTies := t.xTies + 1 }
  else if dy = 0 then { t with yTies := t.yTies + 1 }
  else if decide (0 < dx) = decide (0 < dy) then { t with concordant := t.concordant + 1 }
  else { t with discordant := t.discordant + 1 }

def tally (x y : Fin n → α) (sample : List (Fin n)) : Tally :=
  (pairs sample).foldl (Tally.count x y) {}

def kendallTau (sqrt : α → α) (x y : Fin n → α) : Except CorrelationError α := do
  validateEqualLength n
  let sample := subsampleIndices n MAX_KENDALL_OBSERVATIONS
  let t := tally x y sample
  let n0 : α := sample.length * (sample.length - 1) / 2
  return clamped (t.concordant - t.discordant) (sqrt ((n0 - t.xTies) * (n0 - t.yTies)))

/-! ### Order only -/

/-- A coefficient of two variables that is symmetric, between -1 and 1, kept by strictly increasing
    functions of a variable and negated by strictly decreasing ones. -/
structure OrderOnly (ρ : (Fin n → α) → (Fin n → α) → Except CorrelationError α) : Prop where
  symmetric : ∀ x y, ρ x y = ρ y x
  bounded : ∀ x y r, ρ x y = .ok r → -1 ≤ r ∧ r ≤ 1
  increasing : ∀ (f : α → α) x y, StrictMonoOn f (Set.range x) →
    ρ (fun i => f (x i)) y = ρ x y ∧ ρ y (fun i => f (x i)) = ρ y x
  decreasing : ∀ (f : α → α) x y, StrictAntiOn f (Set.range x) →
    ρ (fun i => f (x i)) y = (ρ x y).map (- ·) ∧ ρ y (fun i => f (x i)) = (ρ y x).map (- ·)

omit [FloorRing α] in
/-- For a symmetric coefficient it is enough to look at the first variable. -/
theorem OrderOnly.of_symmetric {ρ : (Fin n → α) → (Fin n → α) → Except CorrelationError α}
    (symmetric : ∀ x y, ρ x y = ρ y x) (bounded : ∀ x y r, ρ x y = .ok r → -1 ≤ r ∧ r ≤ 1)
    (increasing : ∀ (f : α → α) x y, StrictMonoOn f (Set.range x) → ρ (fun i => f (x i)) y = ρ x y)
    (decreasing : ∀ (f : α → α) x y, StrictAntiOn f (Set.range x) →
      ρ (fun i => f (x i)) y = (ρ x y).map (- ·)) : OrderOnly ρ where
  symmetric := symmetric
  bounded := bounded
  increasing f x y hf := ⟨increasing f x y hf, by rw [symmetric, increasing f x y hf, symmetric]⟩
  decreasing f x y hf := ⟨decreasing f x y hf, by rw [symmetric, decreasing f x y hf, symmetric y]⟩

section Proofs

variable [IsStrictOrderedRing α]

theorem clamp_neg (q : α) : max (-1) (min 1 (-q)) = -max (-1) (min 1 q) := by
  rcases le_total q (-1) with h | h
  · rw [min_eq_right (by linarith : q ≤ 1), max_eq_left h, min_eq_left (by linarith : 1 ≤ -q),
      max_eq_right (by linarith), neg_neg]
  · rcases le_total q 1 with h' | h'
    · rw [min_eq_right h', max_eq_right h, min_eq_right (by linarith), max_eq_right (by linarith)]
    · rw [min_eq_left h', max_eq_right (by linarith : (-1 : α) ≤ 1), min_eq_right (by linarith),
        max_eq_left (by linarith)]

theorem clamped_neg (a d : α) : clamped (-a) d = -clamped a d := by
  unfold clamped
  split
  · exact neg_zero.symm
  · rw [← Lib.roundTo_neg, neg_div, clamp_neg]

theorem clamped_mem (a d : α) : -1 ≤ clamped a d ∧ clamped a d ≤ 1 := by
  unfold clamped
  split
  · constructor <;> linarith
  · constructor
    · have h := @Lib.roundTo_mono _ _ _ _ _ _ 6 _ (le_max_left (-1 : α) (min 1 (a / d)))
      rwa [Lib.roundTo_neg, Lib.roundTo_one] at h
    · exact Lib.roundTo_le_one (max_le (by linarith) (min_le_left _ _))

/-- A coefficient that is a clamped quotient, or an error, is in its range. -/
theorem bounded_of_clamped {e : Except CorrelationError Unit} {numerator denom r : α}
    (h : (do e; return clamped numerator denom : Except CorrelationError α) = .ok r) :
    -1 ≤ r ∧ r ≤ 1 := by
  obtain ⟨-, -, hr⟩ := Lib.bind_ok.mp h
  cases hr
  exact clamped_mem _ _

theorem validated_map {e : Except CorrelationError Unit} {numerator denom : α} :
    (do e; return clamped (-numerator) denom : Except CorrelationError α) =
      (do e; return clamped numerator denom : Except CorrelationError α).map (- ·) := by
  cases e with
  | error e => rfl
  | ok u =>
    show Except.ok _ = Except.ok _
    rw [clamped_neg]

/-! ### Pearson -/

omit [IsStrictOrderedRing α] in
theorem pearson_comm (sqrt : α → α) (x y : Fin n → α) : pearson sqrt x y = pearson sqrt y x := by
  simp only [pearson, mul_comm]

theorem pearson_bounded {sqrt : α → α} {x y : Fin n → α} {r : α} (h : pearson sqrt x y = .ok r) :
    -1 ≤ r ∧ r ≤ 1 := bounded_of_clamped h

/-- Turned around and moved, a variable keeps its variance, and its covariances change sign. -/
theorem pearson_const_sub (sqrt : α → α) (c : α) (x y : Fin n → α) :
    pearson sqrt (fun i => c - x i) y = (pearson sqrt x y).map (- ·) := by
  by_cases hn : n = 0
  · subst hn
    rfl
  have hcast : (n : α) ≠ 0 := Nat.cast_ne_zero.mpr hn
  have hmean : ∀ i, c - x i - (∑ i, (c - x i)) / n = -(x i - (∑ i, x i) / n) := by
    intro i
    rw [Finset.sum_sub_distrib, Finset.sum_const, Finset.card_univ, Fintype.card_fin, nsmul_eq_mul]
    field_simp
    ring
  unfold pearson
  simp only [hmean, neg_mul, Finset.sum_neg_distrib, neg_sq]
  exact validated_map

/-! ### Spearman -/

theorem spearman_orderOnly (sqrt : α → α) : OrderOnly (n := n) (spearman sqrt) := by
  refine .of_symmetric (fun x y => ?_) (fun x y r h => ?_) (fun f x y hf => ?_) fun f x y hf => ?_
  · simp only [spearman, pearson_comm]
  · obtain ⟨-, -, hr⟩ := Lib.bind_ok.mp h
    exact pearson_bounded hr
  · simp only [spearman, Lib.averageRanks_comp_strictMono hf]
  · have hranks : Lib.averageRanks (fun i => f (x i)) =
        fun i => (n + 1 : α) - Lib.averageRanks x i :=
      funext fun i => Lib.averageRanks_comp_strictAnti hf i
    unfold spearman
    rw [hranks, pearson_const_sub]
    cases validateEqualLength n <;> rfl

/-! ### Kendall -/

/-- What a pair says of the variables in the other order. -/
def Tally.transpose (t : Tally) : Tally := { t with xTies := t.yTies, yTies := t.xTies }

/-- What a pair says when one variable is turned around. -/
def Tally.turn (t : Tally) : Tally := { t with concordant := t.discordant, discordant := t.concordant }

omit [FloorRing α] [IsStrictOrderedRing α] in
theorem foldl_count {x y x' y' : Fin n → α} {g : Tally → Tally}
    (h : ∀ t p, Tally.count x' y' (g t) p = g (Tally.count x y t p)) (ps : List (Fin n × Fin n))
    (t : Tally) : ps.foldl (Tally.count x' y') (g t) = g (ps.foldl (Tally.count x y) t) := by
  induction ps generalizing t with
  | nil => rfl
  | cons p ps ih => rw [List.foldl_cons, List.foldl_cons, h, ih]

omit [FloorRing α] [IsStrictOrderedRing α] in
theorem tally_comm (x y : Fin n → α) (sample : List (Fin n)) :
    tally y x sample = (tally x y sample).transpose := by
  refine foldl_count (g := Tally.transpose) (fun t p => ?_) (pairs sample) {}
  unfold Tally.count
  by_cases hx : x p.1 - x p.2 = 0 <;> by_cases hy : y p.1 - y p.2 = 0
  · simp [hx, hy, Tally.transpose]
  · simp [hx, hy, Tally.transpose]
  · simp [hx, hy, Tally.transpose]
  · simp only [hx, hy, and_self, if_false, eq_comm (a := decide (0 < y p.1 - y p.2))]
    split <;> rfl

omit [FloorRing α] in
theorem tally_strictMono {f : α → α} {x : Fin n → α} (hf : StrictMonoOn f (Set.range x))
    (y : Fin n → α) (sample : List (Fin n)) :
    tally (fun i => f (x i)) y sample = tally x y sample := by
  refine foldl_count (g := id) (fun t p => ?_) (pairs sample) {}
  have hzero : f (x p.1) - f (x p.2) = 0 ↔ x p.1 - x p.2 = 0 := by
    rw [sub_eq_zero, sub_eq_zero]
    exact hf.injOn.eq_iff (Set.mem_range_self _) (Set.mem_range_self _)
  have hpos : 0 < f (x p.1) - f (x p.2) ↔ 0 < x p.1 - x p.2 := by
    rw [sub_pos, sub_pos]
    exact hf.lt_iff_lt (Set.mem_range_self _) (Set.mem_range_self _)
  simp only [Tally.count, hzero, hpos, id_eq]

omit [FloorRing α] in
theorem tally_strictAnti {f : α → α} {x : Fin n → α} (hf : StrictAntiOn f (Set.range x))
    (y : Fin n → α) (sample : List (Fin n)) :
    tally (fun i => f (x i)) y sample = (tally x y sample).turn := by
  refine foldl_count (g := Tally.turn) (fun t p => ?_) (pairs sample) {}
  have hzero : f (x p.1) - f (x p.2) = 0 ↔ x p.1 - x p.2 = 0 := by
    rw [sub_eq_zero, sub_eq_zero]
    exact hf.injOn.eq_iff (Set.mem_range_self _) (Set.mem_range_self _)
  have hpos : 0 < f (x p.1) - f (x p.2) ↔ x p.1 - x p.2 < 0 := by
    rw [sub_pos, sub_neg]
    exact hf.lt_iff_gt (Set.mem_range_self _) (Set.mem_range_self _)
  unfold Tally.count
  by_cases hx : x p.1 - x p.2 = 0
  · by_cases hy : y p.1 - y p.2 = 0 <;> simp [hzero, hx, hy, Tally.turn]
  · by_cases hy : y p.1 - y p.2 = 0
    · simp [hzero, hx, hy, Tally.turn]
    · -- a difference other than zero has one sign, and the other one afterwards
      have hsign : decide (0 < f (x p.1) - f (x p.2)) = !decide (0 < x p.1 - x p.2) := by
        rcases lt_or_gt_of_ne hx with h | h
        · rw [decide_eq_true (hpos.mpr h), decide_eq_false h.not_gt]
          rfl
        · rw [decide_eq_false (hpos.not.mpr h.not_gt), decide_eq_true h]
          rfl
      simp only [hzero, hx, hy, false_and, if_false, hsign]
      cases decide (0 < x p.1 - x p.2) <;> cases decide (0 < y p.1 - y p.2) <;> rfl

theorem kendallTau_orderOnly (sqrt : α → α) : OrderOnly (n := n) (kendallTau sqrt) := by
  refine .of_symmetric (fun x y => ?_) (fun x y r h => bounded_of_clamped h) (fun f x y hf => ?_)
    fun f x y hf => ?_
  · simp only [kendallTau, tally_comm y x, Tally.transpose, mul_comm]
  · simp only [kendallTau, tally_strictMono hf]
  · simp only [kendallTau, tally_strictAnti hf, Tally.turn]
    rw [← validated_map]
    simp only [neg_sub]

/-- Spearman and Kendall depend on the order of the values only. -/
theorem rankCorrelations_orderOnly (sqrt : α → α) (n : ℕ) :
    OrderOnly (n := n) (spearman sqrt) ∧ OrderOnly (n := n) (kendallTau sqrt) :=
  ⟨spearman_orderOnly sqrt, kendallTau_orderOnly sqrt⟩

theorem rankCorrelations_orderOnly_real :
    OrderOnly (n := 3) (spearman Real.sqrt) ∧ OrderOnly (n := 3) (kendallTau Real.sqrt) :=
  rankCorrelations_orderOnly Real.sqrt 3

end Proofs

end GeoRisk.Prediction.Correlation
