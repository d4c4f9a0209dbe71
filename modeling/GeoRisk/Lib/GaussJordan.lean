import Mathlib
import GeoRisk.Lib.Numerals

/-! Gauss–Jordan elimination: a square matrix and the unit matrix beside it, reduced column by column
    until the matrix is the unit matrix; what then stands beside it is the inverse.

        (A │ 1)  ─▶  rows r · (A │ 1)  ─▶  (1 │ A⁻¹)

    How a pivot is chosen, and which pivots are taken for zero, is left to the user. -/

namespace Lib.GaussJordan

variable {α : Type} [Field α] {m : ℕ}

/-- A matrix with another one beside it. -/
abbrev Aug (α : Type) (m : ℕ) := Matrix (Fin m) (Fin m ⊕ Fin m) α

def augment (A : Matrix (Fin m) (Fin m) α) : Aug α m := Matrix.fromCols A 1

/-- Two rows change places. -/
def swap (col pivot : Fin m) (aug : Aug α m) : Aug α m := fun i => aug (Equiv.swap col pivot i)

/-- Scales the pivot row, and takes it from the others so often that the column is cleared. -/
def clear (col : Fin m) (aug : Aug α m) : Aug α m :=
  Matrix.of fun i c =>
    if i = col then aug col c / aug col (.inl col)
    else aug i c - aug i (.inl col) * (aug col c / aug col (.inl col))

/-- One column; `none` if its pivot is taken for zero. -/
def step (choose : Fin m → Aug α m → Fin m) (isZero : α → Bool) (aug : Aug α m) (col : Fin m) :
    Option (Aug α m) :=
  let aug := swap col (choose col aug) aug
  if isZero (aug col (.inl col)) then none else some (clear col aug)

def inverse (choose : Fin m → Aug α m → Fin m) (isZero : α → Bool) (A : Matrix (Fin m) (Fin m) α) :
    Option (Matrix (Fin m) (Fin m) α) :=
  ((List.finRange m).foldlM (step choose isZero) (augment A)).map fun aug =>
    Matrix.of fun i j => aug i (.inr j)

/-! ### What every column keeps -/

/-- Each row is a combination of the rows of `A`, with the factors that stand beside it. -/
def Tracks (A : Matrix (Fin m) (Fin m) α) (aug : Aug α m) : Prop :=
  ∀ i j, aug i (.inl j) = ∑ t, aug i (.inr t) * A t j

/-- The columns in `done` are those of the unit matrix. -/
def Cleared (done : List (Fin m)) (aug : Aug α m) : Prop :=
  ∀ j ∈ done, ∀ i, aug i (.inl j) = if i = j then 1 else 0

variable {A : Matrix (Fin m) (Fin m) α} {aug : Aug α m} {col : Fin m} {done : List (Fin m)}

theorem tracks_augment : Tracks A (augment A) := by
  intro i j
  simp [augment, Matrix.one_apply]

theorem Tracks.swap (h : Tracks A aug) (pivot : Fin m) : Tracks A (swap col pivot aug) :=
  fun i => h (Equiv.swap col pivot i)

theorem Tracks.clear (h : Tracks A aug) : Tracks A (clear col aug) := by
  intro i j
  have hrow : aug col (.inl j) / aug col (.inl col) =
      ∑ t, aug col (.inr t) / aug col (.inl col) * A t j := by
    rw [h col j, Finset.sum_div]
    exact Finset.sum_congr rfl fun t _ => (div_mul_eq_mul_div ..).symm
  simp only [GaussJordan.clear, Matrix.of_apply]
  split
  · exact hrow
  · rw [hrow, h i j, Finset.mul_sum, ← Finset.sum_sub_distrib]
    exact Finset.sum_congr rfl fun t _ => by ring

theorem Cleared.swap (h : Cleared done aug) {pivot : Fin m} (hdone : ∀ j ∈ done, j < col)
    (hpivot : col ≤ pivot) : Cleared done (swap col pivot aug) := by
  intro j hj i
  have hcol : j ≠ col := (hdone j hj).ne
  have hpivot : j ≠ pivot := ((hdone j hj).trans_le hpivot).ne
  rw [GaussJordan.swap, h j hj]
  -- the rows that change places are not the one of a column that is done
  have hiff : Equiv.swap col pivot i = j ↔ i = j := by
    rw [Equiv.swap_apply_eq_iff, Equiv.swap_apply_of_ne_of_ne hcol hpivot]
  simp only [hiff]

theorem Cleared.clear (h : Cleared done aug) (hdone : ∀ j ∈ done, j < col)
    (hp : aug col (.inl col) ≠ 0) : Cleared (done ++ [col]) (clear col aug) := by
  intro j hj i
  simp only [GaussJordan.clear, Matrix.of_apply]
  rcases List.mem_append.mp hj with hj | hj
  · have hzero : aug col (.inl j) = 0 := by rw [h j hj, if_neg (hdone j hj).ne']
    split
    · next hi => rw [hi, hzero, zero_div, if_neg (hdone j hj).ne']
    · rw [hzero, zero_div, mul_zero, sub_zero, h j hj]
  · obtain rfl := List.mem_singleton.mp hj
    split
    · exact div_self hp
    · rw [div_self hp, mul_one, sub_self]

section

variable {choose : Fin m → Aug α m → Fin m} {isZero : α → Bool}
  (hchoose : ∀ col aug, col ≤ choose col aug) (hzero : ∀ p, isZero p = false → p ≠ 0)
include hchoose hzero

theorem step_spec {aug' : Aug α m} (h : step choose isZero aug col = some aug')
    (htracks : Tracks A aug) (hcleared : Cleared done aug) (hdone : ∀ j ∈ done, j < col) :
    Tracks A aug' ∧ Cleared (done ++ [col]) aug' := by
  simp only [step] at h
  split at h
  · cases h
  · next hp =>
    cases h
    have hp := hzero _ (Bool.eq_false_iff.mpr hp)
    exact ⟨(htracks.swap _).clear, (hcleared.swap hdone (hchoose col aug)).clear hdone hp⟩

/-- Along columns in increasing order. -/
theorem foldlM_spec {cols : List (Fin m)} {aug' : Aug α m}
    (h : cols.foldlM (step choose isZero) aug = some aug') (htracks : Tracks A aug)
    (hcleared : Cleared done aug) (hdone : ∀ j ∈ done, ∀ c ∈ cols, j < c)
    (hcols : cols.Pairwise (· < ·)) : Tracks A aug' ∧ Cleared (done ++ cols) aug' := by
  induction cols generalizing aug done with
  | nil =>
    cases h
    exact ⟨htracks, by rwa [List.append_nil]⟩
  | cons col cols ih =>
    rw [List.foldlM_cons] at h
    obtain ⟨next, hstep, hrest⟩ := Option.bind_eq_some_iff.mp h
    obtain ⟨hcol, hcols⟩ := List.pairwise_cons.mp hcols
    obtain ⟨htracks, hcleared⟩ := step_spec hchoose hzero hstep htracks hcleared
      fun j hj => hdone j hj col (List.mem_cons_self ..)
    have hspec := ih hrest htracks hcleared (fun j hj c hc => ?_) hcols
    · rwa [List.append_assoc, List.singleton_append] at hspec
    · rcases List.mem_append.mp hj with hj | hj
      · exact hdone j hj c (List.mem_cons_of_mem _ hc)
      · exact List.mem_singleton.mp hj ▸ hcol c hc

/-- What elimination returns is the inverse. -/
theorem inverse_mul {R : Matrix (Fin m) (Fin m) α} (h : inverse choose isZero A = some R) :
    R * A = 1 := by
  obtain ⟨aug, hfold, rfl⟩ := Option.map_eq_some_iff.mp h
  obtain ⟨htracks, hcleared⟩ := foldlM_spec hchoose hzero hfold tracks_augment
    (fun j hj => absurd hj List.not_mem_nil) (fun j hj => absurd hj List.not_mem_nil)
    (List.pairwise_lt_finRange m)
  ext i j
  have hunit := hcleared j (by simp) i
  rw [htracks i j] at hunit
  rw [Matrix.mul_apply, Matrix.one_apply]
  exact hunit

end

end Lib.GaussJordan
