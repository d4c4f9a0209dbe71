import Mathlib

/-! Square tables of counts, one row for each class of a first rating and one column for each of a second:

                 a   b   c
             a   ●   ·   ·     row sums
             b   ·   ●   ·     ● both ratings agree
             c   ·   ·   ●     column sums

    The products of the marginals count the agreements that independent ratings would have by chance. They
    are bounded by the total and by the diagonal. -/

namespace Lib.Contingency

/-! ### Tallying observations by their class -/

section Tally

variable {ι ω : Type}

theorem sum_boole_get [DecidableEq ι] {labels : List ι} (hnodup : labels.Nodup) (x : ι) :
    ∑ j : Fin labels.length, (if x = labels.get j then 1 else 0 : ℕ) =
      if x ∈ labels then 1 else 0 := by
  split
  · next hmem =>
    obtain ⟨k, rfl⟩ := List.get_of_mem hmem
    simp only [hnodup.get_inj_iff, Finset.sum_ite_eq, Finset.mem_univ, if_true]
  · next hmem =>
    refine Finset.sum_eq_zero fun j _ => if_neg ?_
    rintro rfl
    exact hmem (List.get_mem labels j)

/-- Over distinct classes, the observations of each class add up to those of any. -/
theorem sum_countP_get [DecidableEq ι] {labels : List ι} (hnodup : labels.Nodup) (p : ω → Bool)
    (f : ω → ι) (obs : List ω) :
    ∑ j : Fin labels.length, obs.countP (fun o => p o && decide (f o = labels.get j)) =
      obs.countP fun o => p o && decide (f o ∈ labels) := by
  induction obs with
  | nil => simp
  | cons o obs ih =>
    simp only [List.countP_cons, Finset.sum_add_distrib, ih]
    congr 1
    cases p o with
    | false => simp
    | true => simpa using sum_boole_get hnodup (f o)

theorem sum_get {α : Type} [AddCommMonoid α] (labels : List ι) (f : ι → α) :
    ∑ j : Fin labels.length, f (labels.get j) = (labels.map f).sum := by
  rw [← List.sum_ofFn]
  congr 1
  exact List.map_ofFn.symm.trans (by rw [List.ofFn_get])

end Tally

/-! ### Marginals -/

section Marginals

variable {ι : Type} [Fintype ι] (m : ι → ι → ℕ)

def rowSum (k : ι) : ℕ := ∑ j, m k j

def colSum (k : ι) : ℕ := ∑ i, m i k

def total : ℕ := ∑ i, ∑ j, m i j

/-- How often both ratings agree. -/
def agreement : ℕ := ∑ i, m i i

/-- The agreements by chance, times the total. -/
def chance : ℕ := ∑ k, rowSum m k * colSum m k

theorem sum_rowSum : ∑ k, rowSum m k = total m := rfl

theorem sum_colSum : ∑ k, colSum m k = total m := Finset.sum_comm

theorem diag_le_rowSum (k : ι) : m k k ≤ rowSum m k :=
  Finset.single_le_sum (f := m k) (fun _ _ => Nat.zero_le _) (Finset.mem_univ k)

theorem rowSum_le_total (k : ι) : rowSum m k ≤ total m :=
  Finset.single_le_sum (f := rowSum m) (fun _ _ => Nat.zero_le _) (Finset.mem_univ k)

theorem colSum_le_total (k : ι) : colSum m k ≤ total m :=
  sum_colSum m ▸ Finset.single_le_sum (f := colSum m) (fun _ _ => Nat.zero_le _) (Finset.mem_univ k)

theorem agreement_le_total : agreement m ≤ total m :=
  Finset.sum_le_sum fun i _ => diag_le_rowSum m i

/-- A row and a column share their crossing only. -/
theorem rowSum_add_colSum_le [DecidableEq ι] (k : ι) :
    rowSum m k + colSum m k ≤ total m + m k k := by
  have hcol : colSum m k = ∑ i ∈ Finset.univ.erase k, m i k + m k k :=
    (Finset.sum_erase_add _ _ (Finset.mem_univ k)).symm
  have htotal : total m = ∑ i ∈ Finset.univ.erase k, rowSum m i + rowSum m k :=
    (Finset.sum_erase_add _ _ (Finset.mem_univ k)).symm
  have hle : ∑ i ∈ Finset.univ.erase k, m i k ≤ ∑ i ∈ Finset.univ.erase k, rowSum m i :=
    Finset.sum_le_sum fun i _ =>
      Finset.single_le_sum (f := m i) (fun _ _ => Nat.zero_le _) (Finset.mem_univ k)
  omega

theorem chance_le : chance m ≤ total m * total m := by
  calc chance m ≤ ∑ k, rowSum m k * total m :=
        Finset.sum_le_sum fun k _ => Nat.mul_le_mul_left _ (colSum_le_total m k)
    _ = total m * total m := by rw [← Finset.sum_mul, sum_rowSum]

/-- Twice the chance agreements exceed the square of the total by no more than the agreements allow. -/
theorem two_mul_chance_le [DecidableEq ι] :
    2 * chance m ≤ total m * total m + total m * agreement m := by
  have hterm : ∀ k, 4 * (rowSum m k * colSum m k) ≤
      (rowSum m k + colSum m k) * total m + 2 * total m * m k k := by
    intro k
    have hcross := rowSum_add_colSum_le m k
    have hrow := rowSum_le_total m k
    have hcol := colSum_le_total m k
    calc 4 * (rowSum m k * colSum m k)
        ≤ (rowSum m k + colSum m k) * (rowSum m k + colSum m k) := by
          nlinarith only [sq_nonneg ((rowSum m k : ℤ) - colSum m k)]
      _ ≤ (rowSum m k + colSum m k) * (total m + m k k) := Nat.mul_le_mul_left _ hcross
      _ = (rowSum m k + colSum m k) * total m + (rowSum m k + colSum m k) * m k k := Nat.mul_add ..
      _ ≤ (rowSum m k + colSum m k) * total m + 2 * total m * m k k := by
          gcongr
          omega
  have hsum := Finset.sum_le_sum fun k (_ : k ∈ Finset.univ) => hterm k
  rw [← Finset.mul_sum, Finset.sum_add_distrib, ← Finset.sum_mul, Finset.sum_add_distrib,
    ← Finset.mul_sum, sum_rowSum, sum_colSum] at hsum
  change 4 * chance m ≤ (total m + total m) * total m + 2 * total m * agreement m at hsum
  linarith

end Marginals

end Lib.Contingency
