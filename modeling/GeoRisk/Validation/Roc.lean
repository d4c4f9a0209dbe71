import Mathlib
import GeoRisk.Lib.Ranks
import GeoRisk.Lib.Rounding

/-! The ROC curve of a score, over exact numbers. The area under it is computed from the ranks of the
    positive observations; the curve itself by a sweep over the distinct scores, the highest first:

        tpr 1 ┌────────●      each score turns the observations at or above it positive:
              │   ●            up by the true ones, right by the false ones
              │ ●
            0 ●────────  1 fpr -/

namespace GeoRisk.Validation.Roc

section Code

variable {α : Type} [Field α] [LinearOrder α] {n : ℕ}

/-- `_safe_div`. -/
def safeDiv (numerator denominator default : α) : α :=
  if denominator = 0 then default else numerator / denominator

/-- The observations with a label. -/
def labelled (yTrue : Fin n → Bool) (label : Bool) : Finset (Fin n) :=
  Finset.univ.filter fun i => yTrue i = label

/-- The area under the curve, by the rank sum of the positive observations. -/
def auc (yTrue : Fin n → Bool) (scores : Fin n → α) : α :=
  let nPos : α := (labelled yTrue true).card
  let nNeg : α := (labelled yTrue false).card
  let rankSumPos := ∑ i ∈ labelled yTrue true, Lib.averageRanks scores i
  (rankSumPos - nPos * (nPos + 1) / 2) / (nPos * nNeg)

structure RocPoint (α : Type) where
  fpr : α
  tpr : α
  threshold : α

/-- How many observations of a label have at least the score. -/
def atLeast (yTrue : Fin n → Bool) (scores : Fin n → α) (label : Bool) (t : α) : ℕ :=
  ((labelled yTrue label).filter fun i => t ≤ scores i).card

def pointAt (yTrue : Fin n → Bool) (scores : Fin n → α) (t : α) : RocPoint α where
  fpr := safeDiv (atLeast yTrue scores false t) (labelled yTrue false).card 0
  tpr := safeDiv (atLeast yTrue scores true t) (labelled yTrue true).card 0
  threshold := t

/-- `sorted(set(y_scores), reverse=True)`. -/
def thresholds (scores : Fin n → α) : List α := (Finset.univ.image scores).sort (· ≥ ·)

/-- The sweep so far: the points, and the best threshold. -/
structure Sweep (α : Type) where
  points : List (RocPoint α)
  bestJ : α
  bestThreshold : α

def Sweep.step (yTrue : Fin n → Bool) (scores : Fin n → α) (s : Sweep α) (t : α) : Sweep α :=
  let point := pointAt yTrue scores t
  let j := point.tpr - point.fpr
  if s.bestJ < j then { points := s.points ++ [point], bestJ := j, bestThreshold := t }
  else { s with points := s.points ++ [point] }

def sweep (yTrue : Fin n → Bool) (scores : Fin n → α) : Sweep α :=
  (thresholds scores).foldl (Sweep.step yTrue scores)
    { points := [], bestJ := -1, bestThreshold := (thresholds scores).headD (1 / 2) }

variable [FloorRing α]

def RocPoint.rounded (p : RocPoint α) : RocPoint α where
  fpr := Lib.roundTo 6 p.fpr
  tpr := Lib.roundTo 6 p.tpr
  threshold := Lib.roundTo 6 p.threshold

/-- `_compute_roc`: the area, the optimal threshold and the points. -/
def computeRoc (yTrue : Fin n → Bool) (scores : Fin n → α) : α × α × List (RocPoint α) :=
  if (labelled yTrue true).card = 0 ∨ (labelled yTrue false).card = 0 then (1 / 2, 1 / 2, [])
  else
    let s := sweep yTrue scores
    (Lib.roundTo 6 (auc yTrue scores), Lib.roundTo 6 s.bestThreshold, s.points.map RocPoint.rounded)

end Code

/-! ### The area by pairs -/

section Area

variable {α : Type} [Field α] [LinearOrder α] [IsStrictOrderedRing α] {n : ℕ}
  {yTrue : Fin n → Bool} {scores : Fin n → α}

/-- The pairs of a positive and a negative observation. -/
def rankingPairs (yTrue : Fin n → Bool) : Finset (Fin n × Fin n) :=
  labelled yTrue true ×ˢ labelled yTrue false

/-- The pairs that the score ranks correctly, and half of those it ties. -/
def rankedCorrectly (yTrue : Fin n → Bool) (scores : Fin n → α) : α :=
  ((rankingPairs yTrue).filter fun p => scores p.2 < scores p.1).card +
    ((rankingPairs yTrue).filter fun p => scores p.2 = scores p.1).card / 2

theorem labelled_compl (label : Bool) : (labelled yTrue label)ᶜ = labelled yTrue (!label) := by
  ext i
  cases label <;> simp [labelled]

omit [IsStrictOrderedRing α] in
theorem sum_below_eq (yTrue : Fin n → Bool) (scores : Fin n → α) :
    ∑ p ∈ labelled yTrue true, ∑ q ∈ labelled yTrue false, Lib.below scores q p =
      rankedCorrectly yTrue scores := by
  have hterm : ∀ p : Fin n × Fin n, (Lib.below scores p.2 p.1 : α) =
      (if scores p.2 < scores p.1 then 1 else 0) + (if scores p.2 = scores p.1 then 1 else 0) / 2 := by
    intro p
    unfold Lib.below
    rcases lt_trichotomy (scores p.2) (scores p.1) with h | h | h
    · simp [h, h.ne]
    · simp [h]
    · simp [h.not_gt, h.ne']
  rw [rankedCorrectly, rankingPairs, ← Finset.sum_product']
  simp only [hterm, Finset.sum_add_distrib, ← Finset.sum_div, Finset.sum_boole]

/-- The area is the share of the pairs that are ranked correctly. -/
theorem auc_eq (yTrue : Fin n → Bool) (scores : Fin n → α) :
    auc yTrue scores = rankedCorrectly yTrue scores /
      ((labelled yTrue true).card * (labelled yTrue false).card) := by
  rw [auc, Lib.sum_averageRanks, labelled_compl, Bool.not_true, sum_below_eq, add_sub_cancel_right]

theorem auc_mem (yTrue : Fin n → Bool) (scores : Fin n → α) :
    0 ≤ auc yTrue scores ∧ auc yTrue scores ≤ 1 := by
  have hbelow : ∀ q p, 0 ≤ (Lib.below scores q p : α) ∧ (Lib.below scores q p : α) ≤ 1 := by
    intro q p
    unfold Lib.below
    split_ifs <;> constructor <;> norm_num
  rw [auc_eq, ← sum_below_eq]
  refine ⟨div_nonneg ?_ (by positivity), div_le_one_of_le₀ ?_ (by positivity)⟩
  · exact Finset.sum_nonneg fun p _ => Finset.sum_nonneg fun q _ => (hbelow q p).1
  · calc ∑ p ∈ labelled yTrue true, ∑ q ∈ labelled yTrue false, Lib.below scores q p
        ≤ ∑ p ∈ labelled yTrue true, ∑ q ∈ labelled yTrue false, (1 : α) :=
          Finset.sum_le_sum fun p _ => Finset.sum_le_sum fun q _ => (hbelow q p).2
      _ = (labelled yTrue true).card * (labelled yTrue false).card := by simp

theorem labelled_not (label : Bool) :
    labelled (fun i => !yTrue i) label = labelled yTrue (!label) := by
  ext i
  cases label <;> simp [labelled]

/-- Swapping the labels turns every pair around. -/
theorem auc_not (hpos : (labelled yTrue true).card ≠ 0) (hneg : (labelled yTrue false).card ≠ 0) :
    auc (fun i => !yTrue i) scores = 1 - auc yTrue scores := by
  have hp : ((labelled yTrue true).card : α) ≠ 0 := Nat.cast_ne_zero.mpr hpos
  have hn : ((labelled yTrue false).card : α) ≠ 0 := Nat.cast_ne_zero.mpr hneg
  have htogether : ∑ p ∈ labelled yTrue true, ∑ q ∈ labelled yTrue false, Lib.below scores q p +
      ∑ q ∈ labelled yTrue false, ∑ p ∈ labelled yTrue true, Lib.below scores p q =
      ((labelled yTrue true).card * (labelled yTrue false).card : α) := by
    rw [Finset.sum_comm (s := labelled yTrue false), ← Finset.sum_add_distrib]
    simp only [← Finset.sum_add_distrib, Lib.below_add_below, Finset.sum_const, nsmul_eq_mul, mul_one]
  rw [auc_eq, auc_eq, ← sum_below_eq, ← sum_below_eq]
  simp only [labelled_not, Bool.not_true, Bool.not_false]
  rw [eq_sub_iff_add_eq, mul_comm ((labelled yTrue false).card : α), ← add_div,
    div_eq_one_iff_eq (mul_ne_zero hp hn), add_comm, htogether]

end Area

/-! ### The sweep -/

section Sweep

variable {α : Type} [Field α] [LinearOrder α] {n : ℕ} {yTrue : Fin n → Bool} {scores : Fin n → α}

/-- Youden's J of a threshold. -/
def youden (yTrue : Fin n → Bool) (scores : Fin n → α) (t : α) : α :=
  (pointAt yTrue scores t).tpr - (pointAt yTrue scores t).fpr

theorem step_eq (s : Sweep α) (t : α) : s.step yTrue scores t =
    if s.bestJ < youden yTrue scores t then
      ⟨s.points ++ [pointAt yTrue scores t], youden yTrue scores t, t⟩
    else ⟨s.points ++ [pointAt yTrue scores t], s.bestJ, s.bestThreshold⟩ := rfl

theorem foldl_step_points (ts : List α) (s : Sweep α) :
    (ts.foldl (Sweep.step yTrue scores) s).points = s.points ++ ts.map (pointAt yTrue scores) := by
  induction ts generalizing s with
  | nil => simp
  | cons t ts ih =>
    have hstep : (s.step yTrue scores t).points = s.points ++ [pointAt yTrue scores t] := by
      rw [step_eq]
      split <;> rfl
    rw [List.foldl_cons, ih, hstep, List.map_cons, List.append_assoc, List.singleton_append]

/-- The sweep returns one point for each distinct score. -/
theorem sweep_points : (sweep yTrue scores).points =
    (thresholds scores).map (pointAt yTrue scores) := by
  rw [sweep, foldl_step_points, List.nil_append]

/-- What the sweep knows of its best threshold after a run over `ts`: nothing seen is better, and unless
    nothing was, it is one of them. -/
structure BestOf (yTrue : Fin n → Bool) (scores : Fin n → α) (start : Sweep α) (ts : List α)
    (s : Sweep α) : Prop where
  least : start.bestJ ≤ s.bestJ
  seen : ∀ t ∈ ts, youden yTrue scores t ≤ s.bestJ
  taken : start.bestJ < s.bestJ → youden yTrue scores s.bestThreshold = s.bestJ

theorem bestOf_step {start s : Sweep α} {ts : List α} (h : BestOf yTrue scores start ts s) (t : α) :
    BestOf yTrue scores start (ts ++ [t]) (s.step yTrue scores t) := by
  rw [step_eq]
  split
  · next hlt =>
    refine ⟨h.least.trans hlt.le, fun u hu => ?_, fun _ => rfl⟩
    rcases List.mem_append.mp hu with hu | hu
    · exact (h.seen u hu).trans hlt.le
    · rw [List.mem_singleton] at hu
      exact hu ▸ le_rfl
  · next hlt =>
    refine ⟨h.least, fun u hu => ?_, h.taken⟩
    rcases List.mem_append.mp hu with hu | hu
    · exact h.seen u hu
    · rw [List.mem_singleton] at hu
      subst hu
      exact not_lt.mp hlt

theorem bestOf_foldl (start : Sweep α) (ts : List α) :
    BestOf yTrue scores start ts (ts.foldl (Sweep.step yTrue scores) start) := by
  induction ts using List.reverseRecOn with
  | nil => exact ⟨le_rfl, by simp, fun h => (lt_irrefl _ h).elim⟩
  | append_singleton ts t ih =>
    rw [List.foldl_concat]
    exact bestOf_step ih t

omit [Field α] in
theorem mem_thresholds {t : α} : t ∈ thresholds scores ↔ ∃ i, scores i = t := by
  simp [thresholds]

omit [Field α] in
theorem thresholds_descend : (thresholds scores).Pairwise (· > ·) := by
  have hsorted : (thresholds scores).Pairwise (· ≥ ·) := Finset.pairwise_sort _ _
  have hnodup : (thresholds scores).Nodup := Finset.sort_nodup _ _
  exact (hsorted.and hnodup).imp fun h => lt_of_le_of_ne h.1 h.2.symm

/-- The trapezoids from a point over the next ones. -/
def areaFrom (fpr tpr : α) : List (RocPoint α) → α
  | [] => 0
  | p :: rest => (p.fpr - fpr) * (p.tpr + tpr) / 2 + areaFrom p.fpr p.tpr rest

/-- The observations of a label above the scores that are still to come. -/
def passed (yTrue : Fin n → Bool) (scores : Fin n → α) (label : Bool) (ts : List α) :
    Finset (Fin n) :=
  (labelled yTrue label).filter fun i => scores i ∉ ts

/-- The observations of a label at one score. -/
def tiedAt (yTrue : Fin n → Bool) (scores : Fin n → α) (label : Bool) (t : α) : Finset (Fin n) :=
  (labelled yTrue label).filter fun i => scores i = t

/-- The scores to come descend, and every other score is above them. -/
structure Suffix (scores : Fin n → α) (ts : List α) : Prop where
  descend : ts.Pairwise (· > ·)
  above : ∀ i, scores i ∉ ts → ∀ t ∈ ts, t < scores i

omit [Field α] in
theorem Suffix.tail {t : α} {ts : List α} (h : Suffix scores (t :: ts)) : Suffix scores ts := by
  refine ⟨h.descend.of_cons, fun i hi u hu => ?_⟩
  by_cases ht : scores i = t
  · exact ht ▸ (List.pairwise_cons.mp h.descend).1 u hu
  · exact h.above i (by simp [ht, hi]) u (List.mem_cons_of_mem t hu)

omit [Field α] in
theorem Suffix.le_iff {t : α} {ts : List α} (h : Suffix scores (t :: ts)) (i : Fin n) :
    t ≤ scores i ↔ scores i ∉ ts := by
  refine ⟨fun hle hi => ?_, fun hi => ?_⟩
  · exact absurd ((List.pairwise_cons.mp h.descend).1 _ hi) (not_lt.mpr hle)
  · by_cases ht : scores i = t
    · exact ht.ge
    · exact (h.above i (by simp [ht, hi]) t List.mem_cons_self).le

omit [Field α] in
theorem Suffix.lt_iff {t : α} {ts : List α} (h : Suffix scores (t :: ts)) (i : Fin n) :
    t < scores i ↔ scores i ∉ t :: ts := by
  rw [lt_iff_le_and_ne, h.le_iff, List.mem_cons, not_or, and_comm, ne_comm]

omit [Field α] in
theorem Suffix.atLeast_eq {t : α} {ts : List α} (h : Suffix scores (t :: ts)) (label : Bool) :
    atLeast yTrue scores label t = (passed yTrue scores label ts).card := by
  simp only [atLeast, passed, h.le_iff]

omit [Field α] in
/-- A score turns the observations at it. -/
theorem Suffix.card_passed {t : α} {ts : List α} (h : Suffix scores (t :: ts)) (label : Bool) :
    (passed yTrue scores label ts).card =
      (passed yTrue scores label (t :: ts)).card + (tiedAt yTrue scores label t).card := by
  have hsplit : passed yTrue scores label ts =
      passed yTrue scores label (t :: ts) ∪ tiedAt yTrue scores label t := by
    ext i
    simp only [passed, tiedAt, Finset.mem_union, Finset.mem_filter, ← h.le_iff, ← h.lt_iff,
      le_iff_lt_or_eq, eq_comm (a := t)]
    tauto
  rw [hsplit, Finset.card_union_of_disjoint]
  refine Finset.disjoint_filter.mpr fun i _ hi heq => hi ?_
  exact heq ▸ List.mem_cons_self

/-- An observation is below the positive ones that have passed its score, and half those at it. -/
theorem Suffix.sum_below {t : α} {ts : List α} (h : Suffix scores (t :: ts)) {q : Fin n}
    (hq : scores q = t) : ∑ p ∈ labelled yTrue true, (Lib.below scores q p : α) =
      (passed yTrue scores true (t :: ts)).card + (tiedAt yTrue scores true t).card / 2 := by
  have hterm : ∀ p, (Lib.below scores q p : α) = (if scores p ∉ t :: ts then 1 else 0) +
      (if scores p = t then 1 else 0) / 2 := by
    intro p
    rw [Lib.below, hq]
    simp only [← h.lt_iff, eq_comm (a := t)]
    rcases lt_trichotomy t (scores p) with hlt | heq | hlt
    · simp [hlt, hlt.ne']
    · simp [heq]
    · simp [hlt.not_gt, hlt.ne]
  simp only [hterm, Finset.sum_add_distrib, ← Finset.sum_div, Finset.sum_boole]
  rfl

/-- The share of a label above the scores that are still to come. -/
def share (yTrue : Fin n → Bool) (scores : Fin n → α) (label : Bool) (ts : List α) : α :=
  (passed yTrue scores label ts).card / (labelled yTrue label).card

variable [IsStrictOrderedRing α]

/-- The trapezoids over a suffix hold the pairs whose negative observation is in it. -/
theorem areaFrom_eq (hpos : (labelled yTrue true).card ≠ 0)
    (hneg : (labelled yTrue false).card ≠ 0) {ts : List α} (h : Suffix scores ts) :
    areaFrom (share yTrue scores false ts) (share yTrue scores true ts)
        (ts.map (pointAt yTrue scores)) =
      (∑ q ∈ labelled yTrue false with scores q ∈ ts, ∑ p ∈ labelled yTrue true,
        Lib.below scores q p) / ((labelled yTrue true).card * (labelled yTrue false).card) := by
  have hp : ((labelled yTrue true).card : α) ≠ 0 := Nat.cast_ne_zero.mpr hpos
  have hn : ((labelled yTrue false).card : α) ≠ 0 := Nat.cast_ne_zero.mpr hneg
  induction ts with
  | nil => simp [areaFrom]
  | cons t ts ih =>
    have hpoint : pointAt yTrue scores t =
        ⟨share yTrue scores false ts, share yTrue scores true ts, t⟩ := by
      rw [pointAt, h.atLeast_eq, h.atLeast_eq, safeDiv, safeDiv, if_neg hn, if_neg hp, share, share]
    have hsplit : ∑ q ∈ labelled yTrue false with scores q ∈ t :: ts,
          ∑ p ∈ labelled yTrue true, (Lib.below scores q p : α) =
        ∑ q ∈ tiedAt yTrue scores false t, ∑ p ∈ labelled yTrue true, Lib.below scores q p +
          ∑ q ∈ labelled yTrue false with scores q ∈ ts,
            ∑ p ∈ labelled yTrue true, Lib.below scores q p := by
      rw [tiedAt, ← Finset.sum_union]
      · refine Finset.sum_congr ?_ fun _ _ => rfl
        ext q
        simp only [Finset.mem_filter, Finset.mem_union, List.mem_cons]
        tauto
      · refine Finset.disjoint_filter.mpr fun q _ heq hq => ?_
        exact (h.le_iff q).mp heq.ge hq
    have htied : ∑ q ∈ tiedAt yTrue scores false t,
          ∑ p ∈ labelled yTrue true, (Lib.below scores q p : α) =
        (tiedAt yTrue scores false t).card * ((passed yTrue scores true (t :: ts)).card +
          (tiedAt yTrue scores true t).card / 2) := by
      have hterm : ∀ q ∈ tiedAt yTrue scores false t, ∑ p ∈ labelled yTrue true, Lib.below scores q p =
          ((passed yTrue scores true (t :: ts)).card + (tiedAt yTrue scores true t).card / 2 : α) :=
        fun q hq => h.sum_below (Finset.mem_filter.mp hq).2
      rw [Finset.sum_congr rfl hterm, Finset.sum_const, nsmul_eq_mul]
    rw [List.map_cons, areaFrom, hpoint, ih h.tail, hsplit, htied]
    simp only [share, h.card_passed]
    push_cast
    field_simp
    ring

omit [Field α] [IsStrictOrderedRing α] in
theorem suffix_thresholds : Suffix scores (thresholds scores) :=
  ⟨thresholds_descend, fun i hi => (hi (mem_thresholds.mpr ⟨i, rfl⟩)).elim⟩

/-- The trapezoids from the origin on make up the area of the ranks. -/
theorem area_sweep (hpos : (labelled yTrue true).card ≠ 0) (hneg : (labelled yTrue false).card ≠ 0) :
    areaFrom 0 0 (sweep yTrue scores).points = auc yTrue scores := by
  have hall : ∀ i, scores i ∈ thresholds scores := fun i => mem_thresholds.mpr ⟨i, rfl⟩
  have hstart : ∀ label, share yTrue scores label (thresholds scores) = 0 := by
    intro label
    simp [share, passed, hall]
  have harea := areaFrom_eq hpos hneg (@suffix_thresholds _ _ _ scores)
  rw [hstart, hstart] at harea
  rw [sweep_points, harea, auc_eq, ← sum_below_eq, Finset.sum_comm,
    Finset.filter_true_of_mem fun q _ => hall q]

omit [Field α] [IsStrictOrderedRing α] in
theorem atLeast_anti {label : Bool} {t u : α} (h : t ≤ u) :
    atLeast yTrue scores label u ≤ atLeast yTrue scores label t :=
  Finset.card_le_card (Finset.monotone_filter_right _ fun _ _ => h.trans)

/-- A lower threshold is passed by as many of either class at least. -/
theorem pointAt_anti {t u : α} (h : t ≤ u) :
    (pointAt yTrue scores u).fpr ≤ (pointAt yTrue scores t).fpr ∧
      (pointAt yTrue scores u).tpr ≤ (pointAt yTrue scores t).tpr := by
  have hdiv : ∀ {a b : ℕ} (d : ℕ), a ≤ b → safeDiv (a : α) (d : α) 0 ≤ safeDiv (b : α) (d : α) 0 := by
    intro a b d hab
    unfold safeDiv
    split
    · exact le_rfl
    · exact div_le_div_of_nonneg_right (Nat.cast_le.mpr hab) (Nat.cast_nonneg d)
  exact ⟨hdiv _ (atLeast_anti h), hdiv _ (atLeast_anti h)⟩

theorem pointAt_least (hpos : (labelled yTrue true).card ≠ 0)
    (hneg : (labelled yTrue false).card ≠ 0) {t : α} (h : ∀ i, t ≤ scores i) :
    (pointAt yTrue scores t).fpr = 1 ∧ (pointAt yTrue scores t).tpr = 1 := by
  have hall : ∀ label, atLeast yTrue scores label t = (labelled yTrue label).card := by
    intro label
    rw [atLeast, Finset.filter_true_of_mem fun i _ => h i]
  have hp : ((labelled yTrue true).card : α) ≠ 0 := Nat.cast_ne_zero.mpr hpos
  have hn : ((labelled yTrue false).card : α) ≠ 0 := Nat.cast_ne_zero.mpr hneg
  simp only [pointAt, hall, safeDiv, if_neg hp, if_neg hn, div_self hp, div_self hn, and_self]

omit [Field α] [IsStrictOrderedRing α] in
theorem thresholds_last (i : Fin n) :
    ∃ t, (thresholds scores).getLast? = some t ∧ ∀ i, t ≤ scores i := by
  have hne : thresholds scores ≠ [] := List.ne_nil_of_mem (mem_thresholds.mpr ⟨i, rfl⟩)
  refine ⟨_, List.getLast?_eq_some_getLast hne, fun k => ?_⟩
  have hk : scores k ∈ thresholds scores := mem_thresholds.mpr ⟨k, rfl⟩
  rw [← List.dropLast_append_getLast hne] at hk
  rcases List.mem_append.mp hk with hk | hk
  · have hdesc := @thresholds_descend _ _ _ scores
    rw [← List.dropLast_append_getLast hne, List.pairwise_append] at hdesc
    exact (hdesc.2.2 _ hk _ (List.mem_singleton_self _)).le
  · exact (List.mem_singleton.mp hk).ge

/-- A threshold that is no score does what the next score above it does, or nothing. -/
theorem youden_eq (t : α) : youden yTrue scores t = 0 ∨
    ∃ u ∈ thresholds scores, youden yTrue scores t = youden yTrue scores u := by
  by_cases hex : ∃ i, t ≤ scores i
  · obtain ⟨i, hi⟩ := hex
    obtain ⟨k, hk, hmin⟩ := Finset.exists_min_image (Finset.univ.filter fun i => t ≤ scores i) scores
      ⟨i, by simpa using hi⟩
    have hle : ∀ m, t ≤ scores m ↔ scores k ≤ scores m := fun m =>
      ⟨fun h => hmin m (by simpa using h), (by simpa using hk : t ≤ scores k).trans⟩
    refine .inr ⟨scores k, mem_thresholds.mpr ⟨k, rfl⟩, ?_⟩
    simp only [youden, pointAt, atLeast, hle]
  · push Not at hex
    left
    simp [youden, pointAt, atLeast, safeDiv, fun i => not_le.mpr (hex i)]

/-- No threshold parts the classes better than the one that the sweep keeps. -/
theorem youden_le_best (hpos : (labelled yTrue true).card ≠ 0)
    (hneg : (labelled yTrue false).card ≠ 0) (t : α) :
    youden yTrue scores t ≤ youden yTrue scores (sweep yTrue scores).bestThreshold := by
  obtain ⟨i, -⟩ := Finset.card_ne_zero.mp hpos
  obtain ⟨last, hlast, hleast⟩ := @thresholds_last _ _ _ scores i
  have hzero : youden yTrue scores last = 0 := by
    obtain ⟨hfpr, htpr⟩ := pointAt_least hpos hneg hleast
    rw [youden, hfpr, htpr, sub_self]
  have hbest := @bestOf_foldl _ _ _ _ yTrue scores
    { points := [], bestJ := -1, bestThreshold := (thresholds scores).headD (1 / 2) }
    (thresholds scores)
  rw [← sweep] at hbest
  have hnonneg : 0 ≤ (sweep yTrue scores).bestJ :=
    hzero ▸ hbest.seen last (List.mem_of_getLast? hlast)
  rw [hbest.taken (lt_of_lt_of_le (by norm_num) hnonneg)]
  rcases @youden_eq _ _ _ _ yTrue scores _ t with h | ⟨u, hu, h⟩
  · exact h ▸ hnonneg
  · exact h ▸ hbest.seen u hu

end Sweep

/-! ### The whole curve -/

section Curve

variable {α : Type} [Field α] [LinearOrder α] [IsStrictOrderedRing α] [FloorRing α] {n : ℕ}

/-- What the area and the curve of a score are, before they are rounded. -/
structure RocAnalysis (yTrue : Fin n → Bool) (scores : Fin n → α) : Prop where
  returned : computeRoc yTrue scores =
    (Lib.roundTo 6 (auc yTrue scores), Lib.roundTo 6 (sweep yTrue scores).bestThreshold,
      (sweep yTrue scores).points.map RocPoint.rounded)
  probability : auc yTrue scores = rankedCorrectly yTrue scores /
    ((labelled yTrue true).card * (labelled yTrue false).card)
  area : areaFrom 0 0 (sweep yTrue scores).points = auc yTrue scores
  mem : 0 ≤ auc yTrue scores ∧ auc yTrue scores ≤ 1
  swapped : auc (fun i => !yTrue i) scores = 1 - auc yTrue scores
  rising : (sweep yTrue scores).points.Pairwise fun p q => p.fpr ≤ q.fpr ∧ p.tpr ≤ q.tpr
  ends : ∃ p, (sweep yTrue scores).points.getLast? = some p ∧ p.fpr = 1 ∧ p.tpr = 1
  best : ∀ t, youden yTrue scores t ≤ youden yTrue scores (sweep yTrue scores).bestThreshold

/-- Whenever both classes occur, the area is the probability of a correct ranking and the area under the
    curve, the curve rises to (1, 1), and the threshold parts the classes best. -/
theorem rocAnalysis {yTrue : Fin n → Bool} {scores : Fin n → α}
    (hpos : (labelled yTrue true).card ≠ 0) (hneg : (labelled yTrue false).card ≠ 0) :
    RocAnalysis yTrue scores where
  returned := if_neg (not_or.mpr ⟨hpos, hneg⟩)
  probability := auc_eq yTrue scores
  area := area_sweep hpos hneg
  mem := auc_mem yTrue scores
  swapped := auc_not hpos hneg
  rising := by
    rw [sweep_points, List.pairwise_map]
    exact thresholds_descend.imp fun h => pointAt_anti h.le
  ends := by
    obtain ⟨i, -⟩ := Finset.card_ne_zero.mp hpos
    obtain ⟨t, hlast, hleast⟩ := @thresholds_last _ _ _ scores i
    refine ⟨pointAt yTrue scores t, ?_, pointAt_least hpos hneg hleast⟩
    rw [sweep_points, List.getLast?_map, hlast, Option.map_some]
  best := youden_le_best hpos hneg

/-- Two positive and two negative observations, one of each tied. -/
theorem rocAnalysis_tied :
    RocAnalysis ![true, false, true, false] ![(3 : ℚ) / 4, 1 / 2, 1 / 2, 1 / 4] :=
  rocAnalysis (by decide) (by decide)

end Curve

end GeoRisk.Validation.Roc
