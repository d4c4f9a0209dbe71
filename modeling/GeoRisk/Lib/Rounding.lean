import Mathlib
import GeoRisk.Lib.Numerals

/-! Rounding to decimal digits, ties to the even one, as `round(x, digits)` does it, over any ordered
    field with integer parts. Rounding keeps the order and moves a number by half a unit at most:

        x − u/2  ≤  roundTo x  ≤  x + u/2          u = 10 ^ −digits -/

namespace Lib

variable {α : Type} [Field α] [LinearOrder α] [FloorRing α]

/-- The integer next to a number, the even one of two. -/
def roundHalfEven (x : α) : ℤ :=
  if x - ⌊x⌋ < 1 / 2 ∨ x - ⌊x⌋ = 1 / 2 ∧ ⌊x⌋ % 2 = 0 then ⌊x⌋ else ⌊x⌋ + 1

/-- `round(x, digits)`. -/
def roundTo (digits : ℕ) (x : α) : α := (roundHalfEven (x * 10 ^ digits) : α) / 10 ^ digits

variable {x y : α} {digits : ℕ}

theorem roundHalfEven_cases (x : α) :
    roundHalfEven x = ⌊x⌋ ∧ x - ⌊x⌋ ≤ 1 / 2 ∨ roundHalfEven x = ⌊x⌋ + 1 ∧ 1 / 2 ≤ x - ⌊x⌋ := by
  rw [roundHalfEven]
  split
  · next h => exact .inl ⟨rfl, h.elim le_of_lt fun h => h.1.le⟩
  · next h =>
    push Not at h
    exact .inr ⟨rfl, h.1⟩

variable [IsStrictOrderedRing α]

theorem abs_roundHalfEven_sub_le (x : α) : |(roundHalfEven x : α) - x| ≤ 1 / 2 := by
  have hle := Int.floor_le x
  have hlt := Int.lt_floor_add_one x
  rw [abs_le]
  rcases roundHalfEven_cases x with ⟨heq, h⟩ | ⟨heq, h⟩
  · rw [heq]
    constructor <;> linarith
  · rw [heq]
    push_cast
    constructor <;> linarith

@[simp] theorem roundHalfEven_intCast (z : ℤ) : roundHalfEven (z : α) = z := by
  simp [roundHalfEven]

/-- Of two numbers with one integer part the greater is not rounded down alone. -/
theorem roundHalfEven_mono (h : x ≤ y) : roundHalfEven x ≤ roundHalfEven y := by
  rcases (Int.floor_mono h).lt_or_eq with hlt | heq
  · have hx : roundHalfEven x ≤ ⌊x⌋ + 1 := by
      rcases roundHalfEven_cases x with ⟨heq, -⟩ | ⟨heq, -⟩ <;> omega
    have hy : ⌊y⌋ ≤ roundHalfEven y := by
      rcases roundHalfEven_cases y with ⟨heq, -⟩ | ⟨heq, -⟩ <;> omega
    omega
  · rw [roundHalfEven, roundHalfEven, heq]
    split
    · split
      · exact le_rfl
      · exact (lt_add_one _).le
    · next hx =>
      rw [if_neg]
      push Not at hx ⊢
      refine ⟨by linarith [hx.1], fun hy => hx.2 ?_⟩
      exact le_antisymm (by linarith) hx.1

theorem roundTo_mono (h : x ≤ y) : roundTo digits x ≤ roundTo digits y := by
  have hpos : (0 : α) < 10 ^ digits := by positivity
  rw [roundTo, roundTo, div_le_div_iff_of_pos_right hpos, Int.cast_le]
  exact roundHalfEven_mono (mul_le_mul_of_nonneg_right h hpos.le)

theorem abs_roundTo_sub_le (digits : ℕ) (x : α) :
    |roundTo digits x - x| ≤ 1 / 2 / 10 ^ digits := by
  have hpos : (0 : α) < 10 ^ digits := by positivity
  have heq : roundTo digits x - x = (roundHalfEven (x * 10 ^ digits) - x * 10 ^ digits) / 10 ^ digits := by
    rw [roundTo]
    field_simp
  rw [heq, abs_div, abs_of_pos hpos, div_le_div_iff_of_pos_right hpos]
  exact abs_roundHalfEven_sub_le _

/-- A number with so many digits is kept. -/
theorem roundTo_intCast_div (digits : ℕ) (z : ℤ) :
    roundTo digits ((z : α) / 10 ^ digits) = z / 10 ^ digits := by
  have hpos : (0 : α) < 10 ^ digits := by positivity
  rw [roundTo, div_mul_cancel₀ _ hpos.ne', roundHalfEven_intCast]

@[simp] theorem roundTo_zero : roundTo digits (0 : α) = 0 := by
  simpa using roundTo_intCast_div (α := α) digits 0

@[simp] theorem roundTo_one : roundTo digits (1 : α) = 1 := by
  have hpos : (0 : α) < 10 ^ digits := by positivity
  have h := roundTo_intCast_div (α := α) digits (10 ^ digits)
  push_cast at h
  rwa [div_self hpos.ne'] at h

theorem roundTo_nonneg (h : 0 ≤ x) : 0 ≤ roundTo digits x := by
  simpa using roundTo_mono h

theorem roundTo_le_one (h : x ≤ 1) : roundTo digits x ≤ 1 := by
  simpa using roundTo_mono h

/-- Rounding is odd: of two integers next to a number and to its negative, both times the even one. -/
theorem roundHalfEven_neg (x : α) : roundHalfEven (-x) = -roundHalfEven x := by
  by_cases hint : Int.fract x = 0
  · obtain ⟨z, hz⟩ : ∃ z : ℤ, x = z := ⟨⌊x⌋, by rw [← Int.self_sub_floor] at hint; linarith⟩
    rw [hz, ← Int.cast_neg, roundHalfEven_intCast, roundHalfEven_intCast]
  · have hfloor : ⌊-x⌋ = -⌊x⌋ - 1 := by
      have hlt := Int.lt_floor_add_one x
      have hpos := lt_of_le_of_ne (Int.fract_nonneg x) (Ne.symm hint)
      rw [← Int.self_sub_floor] at hpos
      rw [Int.floor_eq_iff]
      push_cast
      constructor <;> linarith
    have hrest : -x - (⌊-x⌋ : ℤ) = 1 - (x - ⌊x⌋) := by
      rw [hfloor]
      push_cast
      ring
    unfold roundHalfEven
    rw [hrest, hfloor]
    split_ifs with hneg hpos hpos
    · exfalso
      rcases hneg with hneg | ⟨hneg, hodd⟩ <;> rcases hpos with hpos | ⟨hpos, heven⟩
      · linarith
      · linarith
      · linarith
      · omega
    · ring
    · ring
    · exfalso
      push Not at hneg hpos
      have htie : x - ⌊x⌋ = 1 / 2 := by linarith [hneg.1, hpos.1]
      have hodd := hneg.2 (by linarith)
      have heven := hpos.2 htie
      omega

theorem roundTo_neg (digits : ℕ) (x : α) : roundTo digits (-x) = -roundTo digits x := by
  rw [roundTo, roundTo, neg_mul, roundHalfEven_neg, Int.cast_neg, neg_div]

/-! ### What is rounded past a number -/

end Lib
