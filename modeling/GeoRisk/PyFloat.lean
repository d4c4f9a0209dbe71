import Mathlib
import GeoRisk.SharedKernel

/-! The arithmetic of `float`: every operation rounds its exact result to the nearest double, ties to
    even. The sign of a zero is not kept; nothing here looks at it. The C library is given by
    `Libm`, with what Python makes of its errors. -/

namespace GeoRisk.PyFloat

/-! ### Rounding -/

/-- The integer nearest to a rational, the even one of two. -/
def roundHalfEven (q : ℚ) : ℤ :=
  if q - ⌊q⌋ < 1 / 2 ∨ q - ⌊q⌋ = 1 / 2 ∧ ⌊q⌋ % 2 = 0 then ⌊q⌋ else ⌊q⌋ + 1

/-- The power of two at or next below the magnitude of a rational. -/
def exponent (q : ℚ) : ℤ :=
  let e : ℤ := q.num.natAbs.log2 - q.den.log2
  if |q| < 2 ^ e then e - 1 else e

/-- The distance of the doubles around a rational: 53 digits, and none beyond the subnormal ones. -/
def ulp (q : ℚ) : ℚ := 2 ^ max (exponent q - 52) (-1074)

/-- The double next to a rational. -/
def ofRat (q : ℚ) : PyFloat :=
  let rounded := roundHalfEven (q / ulp q) * ulp q
  if 2 ^ 1024 ≤ |rounded| then .inf (q < 0) else .finite rounded

instance (n : ℕ) : OfNat PyFloat n := ⟨ofRat n⟩
instance : OfScientific PyFloat := ⟨fun m s e => ofRat (OfScientific.ofScientific m s e)⟩

/-! ### Operations -/

def isZero : PyFloat → Bool
  | .finite q => q = 0
  | .inf _ => false
  | .nan => false

/-- `x <= 0`. -/
def nonpositive : PyFloat → Bool
  | .finite q => q ≤ 0
  | .inf negative => negative
  | .nan => false

def neg : PyFloat → PyFloat
  | .finite q => .finite (-q)
  | .inf negative => .inf (!negative)
  | .nan => .nan

def add : PyFloat → PyFloat → PyFloat
  | .finite x, .finite y => ofRat (x + y)
  | .finite _, .inf s => .inf s
  | .inf s, .finite _ => .inf s
  | .inf s, .inf t => if s = t then .inf s else .nan
  | _, _ => .nan

def mul : PyFloat → PyFloat → PyFloat
  | .finite x, .finite y => ofRat (x * y)
  | .finite x, .inf s => if x = 0 then .nan else .inf (xor (x < 0) s)
  | .inf s, .finite y => if y = 0 then .nan else .inf (xor s (y < 0))
  | .inf s, .inf t => .inf (xor s t)
  | _, _ => .nan

instance : Neg PyFloat := ⟨neg⟩
instance : Add PyFloat := ⟨add⟩
instance : Sub PyFloat := ⟨fun x y => x + -y⟩
instance : Mul PyFloat := ⟨mul⟩

/-- The quotient by a number other than zero. -/
def quotient : PyFloat → PyFloat → PyFloat
  | .finite x, .finite y => ofRat (x / y)
  | .finite _, .inf _ => .finite 0
  | .inf s, .finite y => .inf (xor s (y < 0))
  | _, _ => .nan

/-- `x / y`, a `ZeroDivisionError` where `y` is zero. -/
def truediv (x y : PyFloat) : Except String PyFloat :=
  if y.isZero then .error "float division by zero" else .ok (quotient x y)

/-! ### Comparison, rounding and sums -/

/-- `x < y`. -/
def lt : PyFloat → PyFloat → Bool
  | .finite x, .finite y => x < y
  | .finite _, .inf negative => !negative
  | .inf negative, .finite _ => negative
  | .inf s, .inf t => s && !t
  | _, _ => false

/-- `x == y`. -/
def eq (x y : PyFloat) : Bool := x = y && x ≠ .nan

def abs : PyFloat → PyFloat
  | .finite q => .finite |q|
  | .inf _ => .inf false
  | .nan => .nan

/-- `round(x)`, an exception where `x` is not finite. -/
def toInt : PyFloat → Except String ℤ
  | .finite q => .ok (roundHalfEven q)
  | .inf _ => .error "cannot convert float infinity to integer"
  | .nan => .error "cannot convert float NaN to integer"

/-- `round(x, digits)`. -/
def roundTo (digits : ℕ) : PyFloat → PyFloat
  | .finite q => ofRat (roundHalfEven (q * 10 ^ digits) / 10 ^ digits)
  | x => x

/-- One term of `sum`: the sum so far, and the error it has made so far. -/
def sumStep (acc : PyFloat × PyFloat) (x : PyFloat) : PyFloat × PyFloat :=
  let t := acc.1 + x
  if lt acc.1.abs x.abs then (t, acc.2 + ((x - t) + acc.1)) else (t, acc.2 + ((acc.1 - t) + x))

/-- `sum(xs)`, which corrects its error at the end. -/
def sum (xs : List PyFloat) : PyFloat :=
  match xs.foldl sumStep (0, 0) with
  | (hi, .finite lo) => if lo = 0 then hi else hi + .finite lo
  | (hi, _) => hi

/-- `min` of a first item and others. -/
def minimum (x : PyFloat) (xs : List PyFloat) : PyFloat :=
  xs.foldl (fun least y => if lt y least then y else least) x

/-- `max` of a first item and others. -/
def maximum (x : PyFloat) (xs : List PyFloat) : PyFloat :=
  xs.foldl (fun greatest y => if lt greatest y then y else greatest) x

/-- What the C library computes: `**` on bases that are not negative, which may raise an
    `OverflowError`, and `math.tanh`, which does not raise. -/
structure Libm where
  pow : PyFloat → PyFloat → Except String PyFloat
  tanh : PyFloat → PyFloat

/-! ### Whole numbers -/

theorem roundHalfEven_intCast (z : ℤ) : roundHalfEven z = z := by
  simp [roundHalfEven]

theorem exponent_le (q : ℚ) : exponent q ≤ q.num.natAbs.log2 - q.den.log2 := by
  unfold exponent
  dsimp only
  split_ifs <;> omega

theorem exponent_natCast_le {k : ℕ} (h : k < 2 ^ 53) : exponent k ≤ 52 := by
  refine (exponent_le k).trans ?_
  rw [Rat.num_natCast, Int.natAbs_natCast, Rat.den_natCast]
  have hlog : (k.log2 : ℤ) ≤ 52 := by
    rcases Nat.eq_zero_or_pos k with rfl | hk
    · decide
    · exact_mod_cast Nat.lt_succ_iff.mp ((Nat.log2_lt hk.ne').mpr h)
  have hone : (Nat.log2 1 : ℤ) = 0 := rfl
  omega

/-- A whole number below 2 ^ 53 is a double. -/
theorem ofRat_natCast {k : ℕ} (h : k < 2 ^ 53) : ofRat k = .finite k := by
  obtain ⟨m, hm⟩ : ∃ m : ℕ, max (exponent k - 52) (-1074) = -(m : ℤ) := by
    have := exponent_natCast_le h
    exact ⟨(-max (exponent k - 52) (-1074)).toNat, by omega⟩
  have hulp : ulp k = (2 ^ m : ℚ)⁻¹ := by
    rw [ulp, hm, zpow_neg, zpow_natCast]
  have hwhole : (k : ℚ) / ulp k = ((k * 2 ^ m : ℕ) : ℤ) := by
    rw [hulp]
    push_cast
    field_simp
  have hrounded : (roundHalfEven (k / ulp k) : ℚ) * ulp k = k := by
    rw [hwhole, roundHalfEven_intCast, hulp]
    push_cast
    field_simp
  have hbound : |(k : ℚ)| < 2 ^ 1024 := by
    rw [Nat.abs_cast]
    exact_mod_cast h.trans (Nat.pow_lt_pow_right one_lt_two (by norm_num))
  rw [ofRat]
  simp only [hrounded]
  rw [if_neg (not_le.mpr hbound)]
end GeoRisk.PyFloat
