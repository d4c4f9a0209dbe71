import Mathlib
import GeoRisk.Validation.Classification

/-! The classification metrics as a whole: what is read off the matrix is what the observations say, every
    metric is in its range before and after rounding, and no order of labels or observations matters.

        kappa = (accuracy − chance) / (1 − chance)        chance ≤ (1 + accuracy) / 2  ⟹  −1 ≤ kappa -/

namespace GeoRisk.Validation.Classification

open Roc (safeDiv)

/-! ### The ranges of the metrics -/

section Ranges

variable {α : Type} [Field α] [LinearOrder α] [IsStrictOrderedRing α]

/-- The share of the correct predictions. -/
def accuracy (cm : ConfusionMatrix) : α := safeDiv (cm.correct : α) (cm.total : α) 0

/-- The ranges of the metrics of a matrix with so many labels. -/
structure MetricRanges (labelCount : ℕ) (oa k : α) (metrics : ClassMetrics α) : Prop where
  accuracy : oa ∈ Set.Icc 0 1
  precision : metrics.precision ∈ Set.Icc 0 1
  «recall» : metrics.recall ∈ Set.Icc 0 1
  specificity : ∀ s ∈ metrics.specificity, s ∈ Set.Icc 0 1
  f1Score : metrics.f1Score ∈ Set.Icc 0 1
  kappa : k ∈ Set.Icc (-1) 1
  kappa_le : k ≤ oa
  between : labelCount = 2 → metrics.f1Score ∈
    Set.Icc (min metrics.precision metrics.recall) (max metrics.precision metrics.recall)

theorem safeDiv_mem {a b : α} (ha : 0 ≤ a) (hab : a ≤ b) : safeDiv a b 0 ∈ Set.Icc 0 1 := by
  unfold safeDiv
  split
  · exact ⟨le_rfl, zero_le_one⟩
  · exact ⟨div_nonneg ha (ha.trans hab), div_le_one_of_le₀ hab (ha.trans hab)⟩

theorem accuracy_mem (cm : ConfusionMatrix) : (accuracy cm : α) ∈ Set.Icc 0 1 :=
  safeDiv_mem (Nat.cast_nonneg _) (Nat.cast_le.mpr (Lib.Contingency.agreement_le_total cm.matrix))

/-- The bounds of kappa, for agreement and chance as shares of the observations. -/
theorem kappa_bounds {oa pe : α} (hoa : 0 ≤ oa) (hoa1 : oa ≤ 1) (hpe : 0 ≤ pe) (hpe1 : pe ≤ 1)
    (hchance : 2 * pe ≤ 1 + oa) :
    -1 ≤ safeDiv (oa - pe) (1 - pe) 0 ∧ safeDiv (oa - pe) (1 - pe) 0 ≤ oa := by
  unfold safeDiv
  split
  · exact ⟨by norm_num, hoa⟩
  · next hne =>
    have hpos : 0 < 1 - pe := lt_of_le_of_ne (sub_nonneg.mpr hpe1) (Ne.symm hne)
    refine ⟨(le_div_iff₀ hpos).mpr (by linarith), (div_le_iff₀ hpos).mpr ?_⟩
    nlinarith only [mul_nonneg hpe (sub_nonneg.mpr hoa1)]

theorem computeKappa_bounds (cm : ConfusionMatrix) :
    -1 ≤ (computeKappa cm : α) ∧ (computeKappa cm : α) ≤ accuracy cm := by
  have hmem := accuracy_mem (α := α) cm
  unfold computeKappa
  split
  · exact ⟨by norm_num, hmem.1⟩
  · next hne =>
    have htotal : (0 : α) < cm.total := Nat.cast_pos.mpr (Nat.pos_of_ne_zero hne)
    have hchance : ((Lib.Contingency.chance cm.matrix : ℕ) : α) ≤ ((cm.total * cm.total : ℕ) : α) :=
      Nat.cast_le.mpr (Lib.Contingency.chance_le cm.matrix)
    have hdiag : 2 * ((Lib.Contingency.chance cm.matrix : ℕ) : α) ≤
        cm.total * cm.total + cm.total * cm.correct := by
      exact_mod_cast Lib.Contingency.two_mul_chance_le cm.matrix
    have hpe := safeDiv_mem (Nat.cast_nonneg (α := α) (Lib.Contingency.chance cm.matrix)) hchance
    refine kappa_bounds hmem.1 hmem.2 hpe.1 hpe.2 ?_
    change 2 * safeDiv ((Lib.Contingency.chance cm.matrix : ℕ) : α) ((cm.total * cm.total : ℕ) : α) 0 ≤
      1 + safeDiv (cm.correct : α) (cm.total : α) 0
    push_cast
    rw [safeDiv, safeDiv, if_neg (mul_pos htotal htotal).ne', if_neg htotal.ne', ← mul_div_assoc,
      div_le_iff₀ (mul_pos htotal htotal)]
    calc 2 * ((Lib.Contingency.chance cm.matrix : ℕ) : α)
        ≤ cm.total * cm.total + cm.total * cm.correct := hdiag
      _ = (1 + cm.correct / cm.total) * (cm.total * cm.total) := by field_simp

theorem f1Of_between {p r : α} (hp : 0 ≤ p) (hr : 0 ≤ r) :
    min p r ≤ f1Of p r ∧ f1Of p r ≤ max p r := by
  unfold f1Of safeDiv
  split
  · next hzero =>
    obtain ⟨rfl, rfl⟩ := (add_eq_zero_iff_of_nonneg hp hr).mp hzero
    simp
  · next hne =>
    have hpos : 0 < p + r := lt_of_le_of_ne (add_nonneg hp hr) (Ne.symm hne)
    rw [le_div_iff₀ hpos, div_le_iff₀ hpos]
    rcases le_total p r with h | h
    · rw [min_eq_left h, max_eq_right h]
      constructor <;> nlinarith only [mul_le_mul_of_nonneg_left h hp, mul_le_mul_of_nonneg_left h hr]
    · rw [min_eq_right h, max_eq_left h]
      constructor <;> nlinarith only [mul_le_mul_of_nonneg_left h hp, mul_le_mul_of_nonneg_left h hr]

theorem f1Of_mem {p r : α} (hp : p ∈ Set.Icc 0 1) (hr : r ∈ Set.Icc 0 1) :
    f1Of p r ∈ Set.Icc 0 1 := by
  obtain ⟨hlow, hhigh⟩ := f1Of_between hp.1 hr.1
  exact ⟨(le_min hp.1 hr.1).trans hlow, hhigh.trans (max_le hp.2 hr.2)⟩

theorem mean_mem {values : List α} (h : ∀ v ∈ values, v ∈ Set.Icc 0 1) :
    mean values ∈ Set.Icc 0 1 := by
  unfold mean
  split
  · exact ⟨le_rfl, zero_le_one⟩
  · have hsum : values.sum ≤ values.length • (1 : α) :=
      List.sum_le_card_nsmul values 1 fun v hv => (h v hv).2
    rw [nsmul_eq_mul, mul_one] at hsum
    exact ⟨div_nonneg (List.sum_nonneg fun v hv => (h v hv).1) (Nat.cast_nonneg _),
      div_le_one_of_le₀ hsum (Nat.cast_nonneg _)⟩

/-- The counts are numbers of observations. -/
structure Counts.Nonneg (c : Counts) : Prop where
  tp : 0 ≤ c.tp
  fp : 0 ≤ c.fp
  tn : 0 ≤ c.tn
  fn : 0 ≤ c.fn

theorem oneVsRest_nonneg (obs : List (String × String)) (label : String) :
    (oneVsRest obs label).Nonneg :=
  ⟨Int.natCast_nonneg _, Int.natCast_nonneg _, Int.natCast_nonneg _, Int.natCast_nonneg _⟩

theorem Counts.Nonneg.precision_mem {c : Counts} (h : c.Nonneg) :
    (c.precision : α) ∈ Set.Icc 0 1 :=
  safeDiv_mem (Int.cast_nonneg h.tp) (Int.cast_le.mpr (le_add_of_nonneg_right h.fp))

theorem Counts.Nonneg.recall_mem {c : Counts} (h : c.Nonneg) : (c.recall : α) ∈ Set.Icc 0 1 :=
  safeDiv_mem (Int.cast_nonneg h.tp) (Int.cast_le.mpr (le_add_of_nonneg_right h.fn))

theorem Counts.Nonneg.specificity_mem {c : Counts} (h : c.Nonneg) :
    (c.specificity : α) ∈ Set.Icc 0 1 :=
  safeDiv_mem (Int.cast_nonneg h.tn) (Int.cast_le.mpr (le_add_of_nonneg_right h.fp))

theorem ConfusionMatrix.isSome_binaryCounts (cm : ConfusionMatrix) (htwo : cm.labels.length = 2) :
    cm.binaryCounts.isSome := by
  unfold binaryCounts
  split
  · next negative positive heq =>
    obtain ⟨i, hi⟩ := List.get_of_mem (heq ▸ by simp : positive ∈ cm.labels)
    rw [perClassCounts, Option.isSome_map, position, List.find?_isSome]
    exact ⟨i, List.mem_finRange i, decide_eq_true hi⟩
  · next hno =>
    obtain ⟨a, b, hab⟩ := List.length_eq_two.mp htwo
    exact (hno a b hab).elim

/-- Metrics from counts of observations are in their ranges. -/
theorem classMetrics_ranges {cm : ConfusionMatrix}
    (h : ∀ label, ∀ c ∈ cm.perClassCounts label, c.Nonneg) :
    MetricRanges cm.labels.length (accuracy cm : α) (computeKappa cm) (classMetrics cm) := by
  have hacc := accuracy_mem (α := α) cm
  have hkappa := computeKappa_bounds (α := α) cm
  have hk : (computeKappa cm : α) ∈ Set.Icc (-1) 1 := ⟨hkappa.1, hkappa.2.trans hacc.2⟩
  unfold classMetrics
  cases hbinary : cm.binaryCounts with
  | some c =>
    have hc : c.Nonneg := by
      unfold ConfusionMatrix.binaryCounts at hbinary
      split at hbinary
      · exact h _ c hbinary
      · cases hbinary
    exact ⟨hacc, hc.precision_mem, hc.recall_mem,
      fun s hs => Option.some.inj hs ▸ hc.specificity_mem, f1Of_mem hc.precision_mem hc.recall_mem,
      hk, hkappa.2, fun _ => f1Of_between hc.precision_mem.1 hc.recall_mem.1⟩
  | none =>
    have hall : ∀ c ∈ cm.labels.filterMap cm.perClassCounts, c.Nonneg := by
      intro c hc
      obtain ⟨label, -, hlabel⟩ := List.mem_filterMap.mp hc
      exact h label c hlabel
    have hmean : ∀ f : Counts → α, (∀ c : Counts, c.Nonneg → f c ∈ Set.Icc 0 1) →
        mean ((cm.labels.filterMap cm.perClassCounts).map f) ∈ Set.Icc 0 1 := by
      intro f hf
      refine mean_mem fun v hv => ?_
      obtain ⟨c, hc, rfl⟩ := List.mem_map.mp hv
      exact hf c (hall c hc)
    exact ⟨hacc, hmean _ fun _ hc => hc.precision_mem, hmean _ fun _ hc => hc.recall_mem,
      fun s hs => (Option.some_ne_none s hs.symm).elim,
      hmean _ fun _ hc => f1Of_mem hc.precision_mem hc.recall_mem, hk, hkappa.2,
      fun htwo => by simpa [hbinary] using cm.isSome_binaryCounts htwo⟩

variable [FloorRing α]

/-- Rounding keeps the ranges. -/
theorem MetricRanges.rounded {labelCount : ℕ} {oa k : α} {metrics : ClassMetrics α}
    (h : MetricRanges labelCount oa k metrics) : MetricRanges labelCount (Lib.roundTo 6 oa)
      (Lib.roundTo 6 k) { precision := Lib.roundTo 6 metrics.precision
                          «recall» := Lib.roundTo 6 metrics.recall
                          specificity := metrics.specificity.map (Lib.roundTo 6)
                          f1Score := Lib.roundTo 6 metrics.f1Score } := by
  have hmono : Monotone (Lib.roundTo 6 : α → α) := fun _ _ => Lib.roundTo_mono
  have hunit : ∀ {x : α}, x ∈ Set.Icc 0 1 → Lib.roundTo 6 x ∈ Set.Icc 0 1 := fun hx =>
    ⟨Lib.roundTo_nonneg hx.1, Lib.roundTo_le_one hx.2⟩
  refine ⟨hunit h.accuracy, hunit h.precision, hunit h.recall, ?_, hunit h.f1Score,
    ⟨?_, Lib.roundTo_le_one h.kappa.2⟩, hmono h.kappa_le, fun htwo => ?_⟩
  · intro s hs
    obtain ⟨x, hx, rfl⟩ := Option.map_eq_some_iff.mp hs
    exact hunit (h.specificity x hx)
  · simpa [Lib.roundTo_neg] using hmono h.kappa.1
  · exact ⟨hmono.map_min ▸ hmono (h.between htwo).1, hmono.map_max ▸ hmono (h.between htwo).2⟩

end Ranges

/-! ### The metrics of a dataset -/

section Dataset

variable {α : Type} [Field α] [LinearOrder α]

def ValidationDataset.observations (d : ValidationDataset α) : List (String × String) :=
  d.yTrue.zip d.yPred

def ValidationDataset.confusionMatrix (d : ValidationDataset α) : ConfusionMatrix :=
  buildConfusionMatrix d.yTrue d.yPred d.labels

/-- The observations that the matrix counts. -/
def ValidationDataset.counted (d : ValidationDataset α) : List (String × String) :=
  kept d.confusionMatrix.labels d.observations

/-- Labels that are given are pairwise distinct. -/
def ValidationDataset.DistinctLabels (d : ValidationDataset α) : Prop :=
  ∀ labels ∈ d.labels, labels.Nodup

omit [Field α] [LinearOrder α] in
theorem nodup_labels {d : ValidationDataset α} (h : d.DistinctLabels) :
    d.confusionMatrix.labels.Nodup := by
  change (resolveLabels d.yTrue d.yPred d.labels).Nodup
  unfold resolveLabels
  split
  · exact Finset.sort_nodup _ _
  · exact Finset.sort_nodup _ _
  · next heq => exact h _ heq

omit [Field α] [LinearOrder α] in
theorem tallies_confusionMatrix {d : ValidationDataset α} (h : d.DistinctLabels) :
    Tallies d.confusionMatrix.labels d.observations d.confusionMatrix.matrix :=
  tallies_build (nodup_labels h) d.observations

omit [Field α] [LinearOrder α] in
/-- A label of the matrix has the counts of the observations. -/
theorem perClassCounts_eq {d : ValidationDataset α} (h : d.DistinctLabels) {label : String}
    (hlabel : label ∈ d.confusionMatrix.labels) :
    d.confusionMatrix.perClassCounts label = some (oneVsRest d.counted label) := by
  obtain ⟨i, rfl⟩ := List.get_of_mem hlabel
  have hnodup := nodup_labels h
  have htallies := tallies_confusionMatrix h
  have hcol := congrArg (Nat.cast (R := ℤ)) (htallies.colSum_eq hnodup i)
  have hrow := congrArg (Nat.cast (R := ℤ)) (htallies.rowSum_eq hnodup i)
  have htotal := congrArg (Nat.cast (R := ℤ)) (htallies.total_eq hnodup)
  rw [oneVsRest_predicted] at hcol
  rw [oneVsRest_actual] at hrow
  rw [oneVsRest_all _ (d.confusionMatrix.labels.get i)] at htotal
  rw [ConfusionMatrix.perClassCounts, (position_eq_some hnodup).mpr rfl, Option.map_some,
    htallies.diag_eq i]
  simp only [Lib.Contingency.colSum, Lib.Contingency.rowSum, Lib.Contingency.total] at hcol hrow htotal
  rw [hcol, hrow, ConfusionMatrix.total, htotal, ValidationDataset.counted]
  generalize oneVsRest (kept d.confusionMatrix.labels d.observations) _ = c
  have htn : c.tp + c.fp + c.tn + c.fn - c.tp - c.fp - c.fn = c.tn := by ring
  simp only [add_sub_cancel_left, htn]

omit [Field α] [LinearOrder α] in
theorem position_eq_none {labels : List String} {label : String} (h : label ∉ labels) :
    ConfusionMatrix.position labels label = none := by
  refine List.find?_eq_none.mpr fun i _ hi => h ?_
  exact of_decide_eq_true hi ▸ labels.get_mem i

omit [Field α] [LinearOrder α] in
theorem perClassCounts_nonneg {d : ValidationDataset α} (h : d.DistinctLabels) (label : String) :
    ∀ c ∈ d.confusionMatrix.perClassCounts label, c.Nonneg := by
  intro c hc
  by_cases hlabel : label ∈ d.confusionMatrix.labels
  · rw [perClassCounts_eq h hlabel] at hc
    exact Option.some.inj hc ▸ oneVsRest_nonneg _ _
  · rw [ConfusionMatrix.perClassCounts, position_eq_none hlabel] at hc
    cases hc

omit [Field α] [LinearOrder α] in
theorem confusionMatrix_labels (d : ValidationDataset α) : d.confusionMatrix.labels =
    if d.labels.getD [] = [] then (d.yTrue.toFinset ∪ d.yPred.toFinset).sort (· ≤ ·)
    else d.labels.getD [] := by
  change resolveLabels d.yTrue d.yPred d.labels = _
  unfold resolveLabels
  split
  · next hnone => rw [hnone, Option.getD_none, if_pos rfl]
  · next hempty => rw [hempty, Option.getD_some, if_pos rfl]
  · next labels hne hgiven => rw [hgiven, Option.getD_some, if_neg hne]

omit [Field α] [LinearOrder α] in
/-- Labels that are not given are all that occur, so that every observation is counted. -/
theorem counted_eq_of_no_labels {d : ValidationDataset α} (h : d.labels.getD [] = []) :
    d.counted = d.observations := by
  rw [ValidationDataset.counted, kept, confusionMatrix_labels, if_pos h, List.filter_eq_self]
  intro o ho
  have hmem := List.of_mem_zip ho
  simp [hmem.1, hmem.2]

/-- The same observations and labels, in another order. -/
structure Reordered (d d' : ValidationDataset α) : Prop where
  observations : d'.observations.Perm d.observations
  labels : (d'.labels.getD []).Perm (d.labels.getD [])

omit [Field α] [LinearOrder α] in
theorem Reordered.labels_perm {d d' : ValidationDataset α} (h : Reordered d d') :
    d'.confusionMatrix.labels.Perm d.confusionMatrix.labels := by
  have htrue : ∀ e : ValidationDataset α, e.yTrue = e.observations.map Prod.fst := fun e =>
    (List.map_fst_zip e.same_length.le).symm
  have hpred : ∀ e : ValidationDataset α, e.yPred = e.observations.map Prod.snd := fun e =>
    (List.map_snd_zip e.same_length.ge).symm
  rw [confusionMatrix_labels, confusionMatrix_labels]
  by_cases hempty : d.labels.getD [] = []
  · have hempty' : d'.labels.getD [] = [] := (hempty ▸ h.labels).eq_nil
    rw [if_pos hempty, if_pos hempty', htrue d, htrue d', hpred d, hpred d',
      List.toFinset_eq_of_perm _ _ (h.observations.map Prod.fst),
      List.toFinset_eq_of_perm _ _ (h.observations.map Prod.snd)]
  · have hempty' : d'.labels.getD [] ≠ [] := fun h' => hempty (h' ▸ h.labels).symm.eq_nil
    rw [if_neg hempty, if_neg hempty']
    exact h.labels

omit [Field α] [LinearOrder α] in
theorem Reordered.counted_perm {d d' : ValidationDataset α} (h : Reordered d d') :
    d'.counted.Perm d.counted := by
  have hmem : ∀ l, l ∈ d'.confusionMatrix.labels ↔ l ∈ d.confusionMatrix.labels := fun l =>
    h.labels_perm.mem_iff
  simp only [ValidationDataset.counted, kept, hmem]
  exact h.observations.filter _

omit [Field α] [LinearOrder α] in
/-- What accuracy and kappa read of the matrix, read off the observations. -/
theorem reads_eq {d : ValidationDataset α} (h : d.DistinctLabels) :
    d.confusionMatrix.total = d.counted.length ∧
    d.confusionMatrix.correct = d.counted.countP (fun o => decide (o.1 = o.2)) ∧
    Lib.Contingency.chance d.confusionMatrix.matrix = (d.confusionMatrix.labels.map fun l =>
      d.counted.countP (fun o => decide (o.1 = l)) * d.counted.countP fun o => decide (o.2 = l)).sum := by
  have hnodup := nodup_labels h
  have htallies := tallies_confusionMatrix h
  refine ⟨htallies.total_eq hnodup, htallies.agreement_eq hnodup, ?_⟩
  rw [← Lib.Contingency.sum_get, Lib.Contingency.chance]
  refine Finset.sum_congr rfl fun k _ => ?_
  rw [htallies.rowSum_eq hnodup, htallies.colSum_eq hnodup]
  rfl

omit [Field α] [LinearOrder α] in
theorem Reordered.reads {d d' : ValidationDataset α} (h : Reordered d d') (hd : d.DistinctLabels)
    (hd' : d'.DistinctLabels) :
    d'.confusionMatrix.total = d.confusionMatrix.total ∧
    d'.confusionMatrix.correct = d.confusionMatrix.correct ∧
    Lib.Contingency.chance d'.confusionMatrix.matrix =
      Lib.Contingency.chance d.confusionMatrix.matrix := by
  obtain ⟨htotal, hcorrect, hchance⟩ := reads_eq hd
  obtain ⟨htotal', hcorrect', hchance'⟩ := reads_eq hd'
  have hcounted := h.counted_perm
  rw [htotal, hcorrect, hchance, htotal', hcorrect', hchance', hcounted.length_eq,
    hcounted.countP_eq]
  refine ⟨rfl, rfl, ?_⟩
  simp only [hcounted.countP_eq]
  exact (h.labels_perm.map _).sum_eq

omit [Field α] [LinearOrder α] in
theorem Reordered.distinctLabels {d d' : ValidationDataset α} (h : Reordered d d')
    (hd : d.DistinctLabels) : d'.DistinctLabels := by
  intro labels hlabels
  have hperm := h.labels
  rw [Option.mem_def.mp hlabels, Option.getD_some] at hperm
  cases hgiven : d.labels with
  | none =>
    rw [hgiven] at hperm
    exact hperm.eq_nil ▸ List.nodup_nil
  | some given =>
    rw [hgiven] at hperm
    exact hperm.nodup_iff.mpr (hd given hgiven)

theorem computeKappa_congr {cm cm' : ConfusionMatrix} (htotal : cm'.total = cm.total)
    (hcorrect : cm'.correct = cm.correct)
    (hchance : Lib.Contingency.chance cm'.matrix = Lib.Contingency.chance cm.matrix) :
    (computeKappa cm' : α) = computeKappa cm := by
  change (∑ k, (∑ j, cm'.matrix k j) * ∑ i, cm'.matrix i k) =
    ∑ k, (∑ j, cm.matrix k j) * ∑ i, cm.matrix i k at hchance
  simp only [computeKappa, htotal, hcorrect, hchance]

/-- The metrics of a dataset as a whole. -/
structure FaithfulMetrics [FloorRing α] (d : ValidationDataset α) (m : MetricSet α) : Prop where
  matrix : m.confusionMatrix = d.confusionMatrix
  counts : ∀ label ∈ d.confusionMatrix.labels, ∃ c, d.confusionMatrix.perClassCounts label = some c ∧
    c = oneVsRest d.counted label ∧ c.Nonneg ∧ c.tp + c.fp + c.tn + c.fn = m.sampleSize
  sampleSize : m.sampleSize = d.counted.length ∧
    (d.labels.getD [] = [] → m.sampleSize = d.yTrue.length)
  truePositives : ((d.confusionMatrix.labels.filterMap d.confusionMatrix.perClassCounts).map
    Counts.tp).sum = d.counted.countP fun o => decide (o.1 = o.2)
  exact : MetricRanges d.confusionMatrix.labels.length (accuracy d.confusionMatrix)
    (computeKappa d.confusionMatrix) (classMetrics d.confusionMatrix : ClassMetrics α)
  rounded : MetricRanges d.confusionMatrix.labels.length m.overallAccuracy m.kappa
    ⟨m.precision, m.recall, m.specificity, m.f1Score⟩
  orderless : ∀ d', Reordered d d' →
    (accuracy d'.confusionMatrix : α) = accuracy d.confusionMatrix ∧
    (computeKappa d'.confusionMatrix : α) = computeKappa d.confusionMatrix ∧
    (computeMetricSet d').overallAccuracy = m.overallAccuracy ∧ (computeMetricSet d').kappa = m.kappa

/-- With distinct labels the matrix counts the observations, the metrics are in their ranges, and the
    order of labels and observations does not matter. -/
theorem computeMetricSet_faithful [IsStrictOrderedRing α] [FloorRing α] (d : ValidationDataset α)
    (h : d.DistinctLabels) : FaithfulMetrics d (computeMetricSet d) := by
  obtain ⟨htotal, hcorrect, -⟩ := reads_eq h
  have hranges := classMetrics_ranges (α := α) (perClassCounts_nonneg h)
  refine ⟨rfl, fun label hlabel => ?_, ⟨htotal, fun hnone => ?_⟩, ?_, hranges, hranges.rounded,
    fun d' hd' => ?_⟩
  · refine ⟨_, perClassCounts_eq h hlabel, rfl, oneVsRest_nonneg _ _, ?_⟩
    rw [← oneVsRest_all, ← htotal]
    rfl
  · change d.confusionMatrix.total = _
    rw [htotal, counted_eq_of_no_labels hnone, ValidationDataset.observations, List.length_zip,
      ← d.same_length, min_self]
  · have hfound : d.confusionMatrix.labels.filterMap d.confusionMatrix.perClassCounts =
        d.confusionMatrix.labels.map (oneVsRest d.counted) := by
      rw [← List.filterMap_eq_map]
      exact List.filterMap_congr fun l hl => perClassCounts_eq h hl
    rw [hfound, List.map_map, ← Lib.Contingency.sum_get, ← hcorrect, ConfusionMatrix.correct,
      Nat.cast_sum]
    exact Finset.sum_congr rfl fun i _ => ((tallies_confusionMatrix h).diag_eq i).symm
  · obtain ⟨htotal', hcorrect', hchance'⟩ := hd'.reads h (hd'.distinctLabels h)
    have hacc : (accuracy d'.confusionMatrix : α) = accuracy d.confusionMatrix := by
      rw [accuracy, accuracy, htotal', hcorrect']
    have hkappa : (computeKappa d'.confusionMatrix : α) = computeKappa d.confusionMatrix :=
      computeKappa_congr htotal' hcorrect' hchance'
    exact ⟨hacc, hkappa, congrArg (Lib.roundTo 6) hacc, congrArg (Lib.roundTo 6) hkappa⟩

/-- An observation of a label outside of the given ones is left out. -/
theorem computeMetricSet_faithful_outside :
    ∃ d : ValidationDataset ℚ, d.labels = some ["low", "high"] ∧
      d.yTrue = ["low", "high", "none"] ∧ FaithfulMetrics d (computeMetricSet d) :=
  ⟨⟨["low", "high", "none"], ["low", "low", "high"], none, some ["low", "high"], by simp, rfl,
    by simp⟩, rfl, rfl, computeMetricSet_faithful _ (by
      intro labels hlabels
      cases hlabels
      decide)⟩

end Dataset

end GeoRisk.Validation.Classification
