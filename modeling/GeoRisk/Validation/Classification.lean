import Mathlib
import GeoRisk.Lib.Contingency
import GeoRisk.Lib.Rounding
import GeoRisk.Validation.Roc

/-! The classification metrics of a validation, over exact numbers. Every observation has an actual and a
    predicted label; those with a label outside of the set are left out of the matrix:

        observations ──► confusion matrix ──► counts of each label, one against the rest
                                          ──► accuracy, kappa, precision, recall, F1 -/

namespace GeoRisk.Validation.Classification

open Roc (safeDiv)

structure ValidationDataset (α : Type) where
  yTrue : List String
  yPred : List String
  yScores : Option (List α)
  labels : Option (List String)
  nonempty : yTrue ≠ []
  same_length : yTrue.length = yPred.length
  scored : ∀ scores ∈ yScores, scores.length = yTrue.length

/-- The constructor, with its `ValueError`s. -/
def ValidationDataset.create {α : Type} (yTrue yPred : List String) (yScores : Option (List α))
    (labels : Option (List String)) : Except String (ValidationDataset α) :=
  if hempty : yTrue = [] then .error "ValidationDataset must contain at least one sample"
  else if hlen : yTrue.length ≠ yPred.length then
    .error "y_true and y_pred must have the same length"
  else if hscores : ∃ scores ∈ yScores, scores.length ≠ yTrue.length then
    .error "y_scores must have the same length as y_true"
  else .ok ⟨yTrue, yPred, yScores, labels, hempty, not_not.mp hlen, fun scores h =>
    not_not.mp fun hne => hscores ⟨scores, h, hne⟩⟩

/-! ### The confusion matrix -/

structure ConfusionMatrix where
  labels : List String
  matrix : Fin labels.length → Fin labels.length → ℕ

/-- One label against the rest. -/
structure Counts where
  tp : ℤ
  fp : ℤ
  tn : ℤ
  fn : ℤ

namespace ConfusionMatrix

def total (cm : ConfusionMatrix) : ℕ := ∑ i, ∑ j, cm.matrix i j

def correct (cm : ConfusionMatrix) : ℕ := ∑ i, cm.matrix i i

/-- `labels.index`, where the label is one. -/
def position (labels : List String) (label : String) : Option (Fin labels.length) :=
  (List.finRange labels.length).find? fun i => labels.get i = label

def perClassCounts (cm : ConfusionMatrix) (label : String) : Option Counts :=
  (position cm.labels label).map fun idx =>
    let tp : ℤ := cm.matrix idx idx
    let fp : ℤ := (∑ i, cm.matrix i idx : ℕ) - tp
    let fn : ℤ := (∑ j, cm.matrix idx j : ℕ) - tp
    let tn : ℤ := cm.total - tp - fp - fn
    ⟨tp, fp, tn, fn⟩

/-- The counts of the second of two labels. -/
def binaryCounts (cm : ConfusionMatrix) : Option Counts :=
  match cm.labels with
  | [_, positive] => cm.perClassCounts positive
  | _ => none

end ConfusionMatrix

/-- The dictionary from labels to positions: of equal labels the last is kept. -/
def indexOf (labels : List String) (label : String) : Option (Fin labels.length) :=
  (List.finRange labels.length).reverse.find? fun i => labels.get i = label

/-- An observation of two known labels counts in its cell. -/
def countIn (labels : List String) (counts : Fin labels.length → Fin labels.length → ℕ)
    (o : String × String) : Fin labels.length → Fin labels.length → ℕ :=
  match indexOf labels o.1, indexOf labels o.2 with
  | some i, some j => fun i' j' => if i' = i ∧ j' = j then counts i j + 1 else counts i' j'
  | _, _ => counts

/-- The labels of the matrix: the given ones, or all that occur, sorted. -/
def resolveLabels (yTrue yPred : List String) (labels : Option (List String)) : List String :=
  match labels with
  | none | some [] => (yTrue.toFinset ∪ yPred.toFinset).sort (· ≤ ·)
  | some labels => labels

def buildConfusionMatrix (yTrue yPred : List String) (labels : Option (List String)) :
    ConfusionMatrix :=
  let resolved := resolveLabels yTrue yPred labels
  { labels := resolved
    matrix := (yTrue.zip yPred).foldl (countIn resolved) fun _ _ => 0 }

/-! ### The metrics -/

section Metrics

variable {α : Type} [Field α] [LinearOrder α]

/-- Cohen's kappa. -/
def computeKappa (cm : ConfusionMatrix) : α :=
  if cm.total = 0 then 0 else
    let rowSums := fun i => ∑ j, cm.matrix i j
    let colSums := fun j => ∑ i, cm.matrix i j
    let pe : α := safeDiv ((∑ k, rowSums k * colSums k : ℕ) : α) ((cm.total * cm.total : ℕ) : α) 0
    let oa : α := safeDiv (cm.correct : α) (cm.total : α) 0
    safeDiv (oa - pe) (1 - pe) 0

def mean (values : List α) : α := if values = [] then 0 else values.sum / values.length

def Counts.precision (c : Counts) : α := safeDiv (c.tp : α) ((c.tp + c.fp : ℤ) : α) 0

def Counts.recall (c : Counts) : α := safeDiv (c.tp : α) ((c.tp + c.fn : ℤ) : α) 0

def Counts.specificity (c : Counts) : α := safeDiv (c.tn : α) ((c.tn + c.fp : ℤ) : α) 0

def f1Of (p r : α) : α := safeDiv (2 * p * r) (p + r) 0

/-- The metrics that depend on which labels are positive, before they are rounded. -/
structure ClassMetrics (α : Type) where
  precision : α
  «recall» : α
  specificity : Option α
  f1Score : α

/-- Two labels are judged by the second; other numbers of labels by the means over all. -/
def classMetrics (cm : ConfusionMatrix) : ClassMetrics α :=
  match cm.binaryCounts with
  | some counts =>
    { precision := counts.precision
      «recall» := counts.recall
      specificity := some counts.specificity
      f1Score := f1Of counts.precision counts.recall }
  | none =>
    let counts := cm.labels.filterMap cm.perClassCounts
    { precision := mean (counts.map Counts.precision)
      «recall» := mean (counts.map Counts.recall)
      specificity := none
      f1Score := mean (counts.map fun c => f1Of c.precision c.recall) }

structure MetricSet (α : Type) where
  confusionMatrix : ConfusionMatrix
  sampleSize : ℕ
  overallAccuracy : α
  precision : α
  «recall» : α
  specificity : Option α
  f1Score : α
  kappa : α
  auc : Option α
  optimalThreshold : Option α
  rocPoints : List (Roc.RocPoint α)

variable [FloorRing α]

/-- The curve of the scores, the last label being the positive one. -/
def scoreMetrics (dataset : ValidationDataset α) (cm : ConfusionMatrix) :
    Option α × Option α × List (Roc.RocPoint α) :=
  match h : dataset.yScores, cm.labels.getLast? with
  | some scores, some positive =>
    let (auc, threshold, points) := Roc.computeRoc
      (fun i => decide (dataset.yTrue.get i = positive))
      (fun i => scores.get (i.cast (dataset.scored scores h).symm))
    (some auc, some threshold, points)
  | _, _ => (none, none, [])

def computeMetricSet (dataset : ValidationDataset α) : MetricSet α :=
  let cm := buildConfusionMatrix dataset.yTrue dataset.yPred dataset.labels
  let metrics : ClassMetrics α := classMetrics cm
  let (auc, threshold, points) := scoreMetrics dataset cm
  { confusionMatrix := cm
    sampleSize := cm.total
    overallAccuracy := Lib.roundTo 6 (safeDiv (cm.correct : α) (cm.total : α) 0)
    precision := Lib.roundTo 6 metrics.precision
    «recall» := Lib.roundTo 6 metrics.recall
    specificity := metrics.specificity.map (Lib.roundTo 6)
    f1Score := Lib.roundTo 6 metrics.f1Score
    kappa := Lib.roundTo 6 (computeKappa cm)
    auc := auc
    optimalThreshold := threshold
    rocPoints := points }

end Metrics

/-! ### The matrix counts the observations -/

section Matrix

variable {labels : List String}

theorem find?_get_eq_some (hnodup : labels.Nodup) {order : List (Fin labels.length)}
    (hall : ∀ i, i ∈ order) {label : String} {i : Fin labels.length} :
    (order.find? fun i => labels.get i = label) = some i ↔ labels.get i = label := by
  constructor
  · intro h
    simpa using List.find?_some h
  · intro h
    cases hfind : order.find? fun i => labels.get i = label with
    | none => exact absurd (decide_eq_true h) (List.find?_eq_none.mp hfind i (hall i))
    | some k =>
      have hk : labels.get k = label := by simpa using List.find?_some hfind
      rw [hnodup.get_inj_iff.mp (hk.trans h.symm)]

theorem indexOf_eq_some (hnodup : labels.Nodup) {label : String} {i : Fin labels.length} :
    indexOf labels label = some i ↔ labels.get i = label :=
  find?_get_eq_some hnodup fun i => List.mem_reverse.mpr (List.mem_finRange i)

theorem position_eq_some (hnodup : labels.Nodup) {label : String} {i : Fin labels.length} :
    ConfusionMatrix.position labels label = some i ↔ labels.get i = label :=
  find?_get_eq_some hnodup List.mem_finRange

/-- One observation adds to the cell of its labels, and nowhere else. -/
theorem countIn_eq (hnodup : labels.Nodup) (counts : Fin labels.length → Fin labels.length → ℕ)
    (o : String × String) (i j : Fin labels.length) : countIn labels counts o i j =
      counts i j + if o.1 = labels.get i ∧ o.2 = labels.get j then 1 else 0 := by
  have hfound : ∀ {l : String} {k : Fin labels.length}, indexOf labels l = some k ↔ l = labels.get k :=
    fun {_ _} => (indexOf_eq_some hnodup).trans eq_comm
  have hnowhere : ∀ {l : String}, indexOf labels l = none → ∀ k, l ≠ labels.get k := by
    intro l hnone k hl
    rw [hfound.mpr hl] at hnone
    cases hnone
  unfold countIn
  cases hk : indexOf labels o.1 with
  | none => rw [if_neg fun h => hnowhere hk i h.1, add_zero]
  | some k =>
    cases hm : indexOf labels o.2 with
    | none => rw [if_neg fun h => hnowhere hm j h.2, add_zero]
    | some m =>
      have hi : o.1 = labels.get i ↔ i = k := by
        rw [hfound.mp hk, hnodup.get_inj_iff, eq_comm]
      have hj : o.2 = labels.get j ↔ j = m := by
        rw [hfound.mp hm, hnodup.get_inj_iff, eq_comm]
      simp only [hi, hj]
      split
      · next h => rw [h.1, h.2]
      · rfl

theorem foldl_countIn (hnodup : labels.Nodup) (obs : List (String × String))
    (counts : Fin labels.length → Fin labels.length → ℕ) (i j : Fin labels.length) :
    obs.foldl (countIn labels) counts i j = counts i j +
      obs.countP fun o => decide (o.1 = labels.get i) && decide (o.2 = labels.get j) := by
  induction obs generalizing counts with
  | nil => simp
  | cons o obs ih =>
    rw [List.foldl_cons, ih, countIn_eq hnodup, List.countP_cons, add_assoc, add_comm (ite ..)]
    simp only [Bool.and_eq_true, decide_eq_true_eq]

end Matrix

/-! ### One label against the rest -/

/-- The observations with both labels in the set. -/
def kept (labels : List String) (obs : List (String × String)) : List (String × String) :=
  obs.filter fun o => decide (o.1 ∈ labels) && decide (o.2 ∈ labels)

/-- The counts of a label, read off the observations. -/
def oneVsRest (obs : List (String × String)) (label : String) : Counts where
  tp := obs.countP fun o => decide (o.1 = label) && decide (o.2 = label)
  fp := obs.countP fun o => !decide (o.1 = label) && decide (o.2 = label)
  tn := obs.countP fun o => !decide (o.1 = label) && !decide (o.2 = label)
  fn := obs.countP fun o => decide (o.1 = label) && !decide (o.2 = label)

/-- The labels split the observations of any kind by whether the first one is the label. -/
theorem countP_split (obs : List (String × String)) (p q : String × String → Bool) :
    obs.countP p = obs.countP (fun o => q o && p o) + obs.countP fun o => !q o && p o := by
  have h := List.countP_eq_countP_filter_add obs p q
  simp only [List.countP_filter] at h
  simpa only [Bool.and_comm] using h

theorem oneVsRest_predicted (obs : List (String × String)) (label : String) :
    (obs.countP fun o => decide (o.2 = label) : ℕ) =
      (oneVsRest obs label).tp + (oneVsRest obs label).fp := by
  rw [countP_split obs _ fun o => decide (o.1 = label)]
  push_cast
  rfl

theorem oneVsRest_actual (obs : List (String × String)) (label : String) :
    (obs.countP fun o => decide (o.1 = label) : ℕ) =
      (oneVsRest obs label).tp + (oneVsRest obs label).fn := by
  rw [countP_split obs _ fun o => decide (o.2 = label)]
  push_cast
  simp only [oneVsRest, Bool.and_comm]

theorem oneVsRest_all (obs : List (String × String)) (label : String) :
    (obs.length : ℤ) = (oneVsRest obs label).tp + (oneVsRest obs label).fp +
      (oneVsRest obs label).tn + (oneVsRest obs label).fn := by
  have hsplit := countP_split obs (fun _ => true) fun o => decide (o.1 = label)
  have hrest := countP_split obs (fun o => !decide (o.1 = label)) fun o => decide (o.2 = label)
  simp only [List.countP_true, Bool.and_true] at hsplit
  have hactual := oneVsRest_actual obs label
  simp only [oneVsRest, Bool.and_comm] at hactual hrest ⊢
  omega

/-! ### The marginals of the matrix -/

/-- The matrix counts the observations of each pair of labels. -/
def Tallies (labels : List String) (obs : List (String × String))
    (m : Fin labels.length → Fin labels.length → ℕ) : Prop :=
  ∀ i j, m i j = obs.countP fun o => decide (o.1 = labels.get i) && decide (o.2 = labels.get j)

section Marginals

open Lib.Contingency

variable {labels : List String} {obs : List (String × String)}
  {m : Fin labels.length → Fin labels.length → ℕ}

/-- A condition that only known labels meet is counted among the observations of known labels. -/
theorem countP_kept {p q : String × String → Bool}
    (h : ∀ o, p o = true ↔ q o = true ∧ o.1 ∈ labels ∧ o.2 ∈ labels) :
    obs.countP p = (kept labels obs).countP q := by
  rw [kept, List.countP_filter]
  refine List.countP_congr fun o _ => ?_
  rw [h o]
  simp only [Bool.and_eq_true, decide_eq_true_eq]

theorem tallies_build (hnodup : labels.Nodup) (obs : List (String × String)) :
    Tallies labels obs (obs.foldl (countIn labels) fun _ _ => 0) := by
  intro i j
  rw [foldl_countIn hnodup, Nat.zero_add]

theorem Tallies.rowSum_eq (h : Tallies labels obs m) (hnodup : labels.Nodup) (i) :
    rowSum m i = (kept labels obs).countP fun o => decide (o.1 = labels.get i) := by
  simp only [rowSum, h i, sum_countP_get hnodup (fun o => decide (o.1 = labels.get i)) Prod.snd]
  refine countP_kept fun o => ?_
  simp only [Bool.and_eq_true, decide_eq_true_eq]
  exact ⟨fun ⟨h1, h2⟩ => ⟨h1, h1 ▸ labels.get_mem i, h2⟩, fun ⟨h1, _, h2⟩ => ⟨h1, h2⟩⟩

theorem Tallies.colSum_eq (h : Tallies labels obs m) (hnodup : labels.Nodup) (j) :
    colSum m j = (kept labels obs).countP fun o => decide (o.2 = labels.get j) := by
  have hcell : ∀ i, m i j = obs.countP fun o =>
      decide (o.2 = labels.get j) && decide (o.1 = labels.get i) := by
    intro i
    simp only [h i j, Bool.and_comm]
  simp only [colSum, hcell, sum_countP_get hnodup (fun o => decide (o.2 = labels.get j)) Prod.fst]
  refine countP_kept fun o => ?_
  simp only [Bool.and_eq_true, decide_eq_true_eq]
  exact ⟨fun ⟨h2, h1⟩ => ⟨h2, h1, h2 ▸ labels.get_mem j⟩, fun ⟨h2, h1, _⟩ => ⟨h2, h1⟩⟩

theorem Tallies.total_eq (h : Tallies labels obs m) (hnodup : labels.Nodup) :
    total m = (kept labels obs).length := by
  have hrows : ∀ i, rowSum m i = (kept labels obs).countP fun o => true && decide (o.1 = labels.get i) := by
    intro i
    simp only [h.rowSum_eq hnodup, Bool.true_and]
  have hall : ∀ o ∈ kept labels obs, (true && decide (o.1 ∈ labels)) = true := by
    intro o ho
    simp only [kept, List.mem_filter, Bool.and_eq_true, decide_eq_true_eq] at ho
    simp [ho.2.1]
  rw [← sum_rowSum, Finset.sum_congr rfl fun i _ => hrows i,
    sum_countP_get hnodup (fun _ => true) Prod.fst, List.countP_eq_length.mpr hall]

theorem Tallies.agreement_eq (h : Tallies labels obs m) (hnodup : labels.Nodup) :
    agreement m = (kept labels obs).countP fun o => decide (o.1 = o.2) := by
  have hdiag : ∀ i, m i i = obs.countP fun o => decide (o.1 = o.2) && decide (o.1 = labels.get i) := by
    intro i
    rw [h i i]
    refine List.countP_congr fun o _ => ?_
    simp only [Bool.and_eq_true, decide_eq_true_eq]
    constructor
    · rintro ⟨h1, h2⟩
      exact ⟨h1.trans h2.symm, h1⟩
    · rintro ⟨heq, h1⟩
      exact ⟨h1, heq ▸ h1⟩
  simp only [agreement, hdiag, sum_countP_get hnodup (fun o => decide (o.1 = o.2)) Prod.fst]
  refine countP_kept fun o => ?_
  simp only [Bool.and_eq_true, decide_eq_true_eq]
  exact ⟨fun ⟨heq, h1⟩ => ⟨heq, h1, heq ▸ h1⟩, fun ⟨heq, h1, _⟩ => ⟨heq, h1⟩⟩

theorem Tallies.diag_eq (h : Tallies labels obs m) (i) :
    (m i i : ℤ) = (oneVsRest (kept labels obs) (labels.get i)).tp := by
  rw [h i i, oneVsRest, Nat.cast_inj]
  refine countP_kept fun o => ?_
  simp only [Bool.and_eq_true, decide_eq_true_eq]
  exact ⟨fun h => ⟨h, h.1 ▸ labels.get_mem i, h.2 ▸ labels.get_mem i⟩, And.left⟩

end Marginals

end GeoRisk.Validation.Classification
