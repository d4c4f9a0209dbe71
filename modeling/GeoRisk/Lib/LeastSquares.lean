import Mathlib
import GeoRisk.Lib.Numerals

/-! Least squares: among all combinations of the columns of a matrix, the one that solves the normal
    equations leaves the least sum of squared residuals, since what it leaves is orthogonal to the
    columns:

        ‖y − X γ‖²  =  ‖y − X β‖²  +  ‖X (β − γ)‖²          Xᵀ (y − X β) = 0 -/

namespace Lib

open Matrix

variable {α : Type} [Field α] {n m : ℕ} {X : Matrix (Fin n) (Fin m) α} {y : Fin n → α}
  {β γ : Fin m → α}

/-- The sum of the squares that a combination of the columns leaves. -/
def residualSum (X : Matrix (Fin n) (Fin m) α) (y : Fin n → α) (β : Fin m → α) : α :=
  ∑ i, (y i - (X *ᵥ β) i) ^ 2

/-- The residuals of a solution are orthogonal to the columns. -/
theorem transpose_mulVec_residual (h : Xᵀ *ᵥ (X *ᵥ β) = Xᵀ *ᵥ y) : Xᵀ *ᵥ (y - X *ᵥ β) = 0 := by
  rw [mulVec_sub, h, sub_self]

/-- So they are to every combination of the columns. -/
theorem dotProduct_residual (h : Xᵀ *ᵥ (X *ᵥ β) = Xᵀ *ᵥ y) (δ : Fin m → α) :
    (y - X *ᵥ β) ⬝ᵥ (X *ᵥ δ) = 0 := by
  rw [dotProduct_mulVec, ← mulVec_transpose, transpose_mulVec_residual h, zero_dotProduct]

/-- Whoever multiplies by an inverse of the normal matrix solves the normal equations. -/
theorem normal_of_inverse {R : Matrix (Fin m) (Fin m) α} (h : R * (Xᵀ * X) = 1) :
    Xᵀ *ᵥ (X *ᵥ (R *ᵥ (Xᵀ *ᵥ y))) = Xᵀ *ᵥ y := by
  have hright : (Xᵀ * X) * R = 1 := mul_eq_one_comm.mp h
  rw [mulVec_mulVec, mulVec_mulVec, hright, one_mulVec]

theorem residualSum_eq_add (h : Xᵀ *ᵥ (X *ᵥ β) = Xᵀ *ᵥ y) (γ : Fin m → α) :
    residualSum X y γ = residualSum X y β + ∑ i, (X *ᵥ (β - γ)) i ^ 2 := by
  have hcross : ∑ i, (y i - (X *ᵥ β) i) * (X *ᵥ (β - γ)) i = 0 := dotProduct_residual h (β - γ)
  have hsplit : ∀ i, y i - (X *ᵥ γ) i = (y i - (X *ᵥ β) i) + (X *ᵥ (β - γ)) i := by
    intro i
    rw [mulVec_sub, Pi.sub_apply]
    ring
  calc residualSum X y γ
      = ∑ i, ((y i - (X *ᵥ β) i) ^ 2 + (X *ᵥ (β - γ)) i ^ 2 +
          2 * ((y i - (X *ᵥ β) i) * (X *ᵥ (β - γ)) i)) := by
        refine Finset.sum_congr rfl fun i _ => ?_
        rw [hsplit i]
        ring
    _ = residualSum X y β + ∑ i, (X *ᵥ (β - γ)) i ^ 2 := by
        rw [Finset.sum_add_distrib, Finset.sum_add_distrib, ← Finset.mul_sum, hcross, mul_zero,
          add_zero, residualSum]

variable [LinearOrder α] [IsStrictOrderedRing α]

theorem residualSum_nonneg : 0 ≤ residualSum X y β := Finset.sum_nonneg fun _ _ => sq_nonneg _

theorem isLeast_residualSum (h : Xᵀ *ᵥ (X *ᵥ β) = Xᵀ *ᵥ y) :
    IsLeast (Set.range (residualSum X y)) (residualSum X y β) := by
  refine ⟨⟨β, rfl⟩, ?_⟩
  rintro _ ⟨γ, rfl⟩
  rw [residualSum_eq_add h γ]
  exact le_add_of_nonneg_right (Finset.sum_nonneg fun _ _ => sq_nonneg _)

end Lib
