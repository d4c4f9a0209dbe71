import Mathlib
import GeoRisk.FloatRounding
import GeoRisk.Lib.Results

/-! The numbers of Python: an `int` is exact, and is made a `float` when it meets one, unless it is too
    large for that. `sum` adds up `int`s as such, until it comes to the first `float`:

        1, 2, 3, 0.5, …  ─▶  6  ─float─▶  6.0 + 0.5 + …
                                └─▶ OverflowError

    Of numbers each of which is a `float` or can be made one, a sum raises iff it has a `float` and the
    `int`s before the first one come to more than a `float` can hold. -/

namespace GeoRisk

inductive PyNumber where
  | int (n : ℤ)
  | float (x : PyFloat)
  deriving DecidableEq

namespace PyNumber

/-! ### Operations -/

/-- `float(x)`. -/
def toFloat : PyNumber → Except String PyFloat
  | .int n =>
    match PyFloat.ofRat n with
    | .finite q => .ok (.finite q)
    | _ => .error "int too large to convert to float"
  | .float x => .ok x

def isZero : PyNumber → Bool
  | .int n => n = 0
  | .float x => x.isZero

/-- `0.0 <= x <= 1.0`; the numbers are compared exactly. -/
def inUnit : PyNumber → Bool
  | .int n => 0 ≤ n ∧ n ≤ 1
  | .float (.finite q) => 0 ≤ q ∧ q ≤ 1
  | .float _ => false

def add : PyNumber → PyNumber → Except String PyNumber
  | .int a, .int b => .ok (.int (a + b))
  | x, y => do return .float ((← x.toFloat) + (← y.toFloat))

/-- `x / y`, which is rounded once for two `int`s. -/
def truediv : PyNumber → PyNumber → Except String PyFloat
  | .int a, .int b =>
    if b = 0 then .error "division by zero"
    else
      match PyFloat.ofRat (a / b) with
      | .finite q => .ok (.finite q)
      | _ => .error "integer division result too large for a float"
  | x, y => do PyFloat.truediv (← x.toFloat) (← y.toFloat)

/-! ### `sum` -/

/-- How far `sum` has come: with an `int` of the machine, with a `float` and the error it has made, or
    with any number. -/
inductive SumState where
  | whole (n : ℤ)
  | compensated (hi lo : PyFloat)
  | plain (x : PyNumber)

/-- What a `long` of the machine holds. -/
def fitsLong (n : ℤ) : Bool := -2 ^ 63 ≤ n ∧ n < 2 ^ 63

namespace SumState

/-- The sum so far. -/
def value : SumState → PyNumber
  | .whole n => .int n
  | .compensated hi (.finite lo) => .float (if lo = 0 then hi else hi + .finite lo)
  | .compensated hi _ => .float hi
  | .plain x => x

/-- One more term. -/
def step : SumState → PyNumber → Except String SumState
  | .whole n, .int k =>
    .ok (if fitsLong k ∧ fitsLong (n + k) then .whole (n + k) else .plain (.int (n + k)))
  | .whole n, .float x => do return .compensated ((← toFloat (.int n)) + x) 0
  | .compensated hi lo, .float x =>
    let (hi, lo) := PyFloat.sumStep (hi, lo) x
    .ok (.compensated hi lo)
  | .compensated hi lo, .int k =>
    if fitsLong k then .ok (.compensated (hi + PyFloat.ofRat k) lo)
    else do return .plain (← (value (.compensated hi lo)).add (.int k))
  | .plain s, x => do return .plain (← s.add x)

end SumState

/-- `sum(xs)`. -/
def sum (xs : List PyNumber) : Except String PyNumber := do
  return (← xs.foldlM SumState.step (.whole 0)).value

/-- The number is what the `float` is. -/
def Is (n : PyNumber) (x : PyFloat) : Prop := n = .float x ∨ ∃ k : ℤ, n = .int k ∧ x = .finite k

/-! ### What can be made a `float` -/

/-- The number is a `float`, or can be made one. -/
def Fits (x : PyNumber) : Prop := ∃ y, x.toFloat = .ok y

theorem fits_float (x : PyFloat) : Fits (.float x) := ⟨x, rfl⟩

theorem fits_int_iff {n : ℤ} : Fits (.int n) ↔ |(n : ℚ)| < 2 ^ 1024 - 2 ^ 970 := by
  rw [← PyFloat.ofRat_finite_iff, Fits, toFloat]
  cases PyFloat.ofRat n <;> simp

theorem fits_of_abs_le {n : ℤ} (h : |n| ≤ 2 ^ 64) : Fits (.int n) := by
  have hle : |(n : ℚ)| ≤ 2 ^ 64 := by exact_mod_cast h
  have hhalf : (2 : ℚ) ^ 64 < 2 ^ 970 := pow_lt_pow_right₀ one_lt_two (by norm_num)
  have htop : (2 : ℚ) ^ 970 * 2 ≤ 2 ^ 1024 := by
    rw [← pow_succ]
    exact pow_le_pow_right₀ one_le_two (by norm_num)
  rw [fits_int_iff]
  generalize (2 : ℚ) ^ 970 = half at *
  generalize (2 : ℚ) ^ 1024 = top at *
  linarith

/-! ### Quotients -/

/-- A quotient of two `int`s is no greater than the first. -/
theorem truediv_int {a b : ℤ} (ha : Fits (.int a)) (hb : b ≠ 0) :
    ∃ y, truediv (.int a) (.int b) = .ok y := by
  have hle : |(a / b : ℚ)| ≤ |(a : ℚ)| := by
    have hone : (1 : ℚ) ≤ |(b : ℚ)| := by exact_mod_cast Int.one_le_abs hb
    rw [abs_div]
    exact div_le_self (abs_nonneg _) hone
  obtain ⟨z, hz⟩ := PyFloat.ofRat_finite_iff.mpr (hle.trans_lt (fits_int_iff.mp ha))
  exact ⟨.finite z, by rw [truediv, if_neg hb, hz]⟩

theorem truediv_float {x : PyNumber} {y : PyFloat} (hx : x.Fits) (hy : y.isZero = false) :
    ∃ z, x.truediv (.float y) = .ok z := by
  obtain ⟨x', hx'⟩ := hx
  refine ⟨PyFloat.quotient x' y, ?_⟩
  have heq : x.truediv (.float y) = x.toFloat >>= fun x' => PyFloat.truediv x' y := by
    cases x <;> rfl
  rw [heq, hx']
  change PyFloat.truediv x' y = _
  rw [PyFloat.truediv, hy]
  rfl

/-! ### Sums -/

section Sums

variable {s : SumState} {xs ys : List PyNumber} {m : ℤ}

/-- The `int`s before the first `float`, added up. -/
def leadSum : List PyNumber → ℤ
  | .int n :: xs => n + leadSum xs
  | _ => 0

def HasFloat (xs : List PyNumber) : Prop := ∃ x, .float x ∈ xs

theorem hasFloat_cons_int {n : ℤ} : HasFloat (.int n :: xs) ↔ HasFloat xs := by
  simp [HasFloat]

theorem leadSum_append (h : HasFloat xs) : leadSum (xs ++ ys) = leadSum xs := by
  induction xs with
  | nil => simp [HasFloat] at h
  | cons x xs ih =>
    cases x with
    | int n => rw [List.cons_append, leadSum, leadSum, ih (hasFloat_cons_int.mp h)]
    | float x => rfl

theorem leadSum_append_float {x : PyFloat} : leadSum (xs ++ [.float x]) = leadSum xs := by
  induction xs with
  | nil => rfl
  | cons y xs ih =>
    cases y with
    | int n => rw [List.cons_append, leadSum, leadSum, ih]
    | float y => rfl

/-- Small `int`s add up to no more than there are of them. -/
theorem abs_leadSum_le (h : ∀ n, .int n ∈ xs → |n| ≤ 1) : |leadSum xs| ≤ xs.length := by
  induction xs with
  | nil => simp [leadSum]
  | cons x xs ih =>
    cases x with
    | int n =>
      have hn := h n List.mem_cons_self
      have hxs := ih fun k hk => h k (List.mem_cons_of_mem _ hk)
      have habs := abs_add_le n (leadSum xs)
      rw [leadSum, List.length_cons]
      push_cast
      omega
    | float x =>
      simp only [leadSum, abs_zero]
      exact Int.natCast_nonneg _

theorem SumState.value_compensated (hi lo : PyFloat) :
    ∃ y, (SumState.compensated hi lo).value = .float y := by
  cases lo with
  | finite lo => exact ⟨_, rfl⟩
  | inf negative => exact ⟨_, rfl⟩
  | nan => exact ⟨_, rfl⟩

/-- An `int` is added to an `int`. -/
theorem step_int (h : s.value = .int m) (k : ℤ) :
    ∃ s', s.step (.int k) = .ok s' ∧ s'.value = .int (m + k) := by
  cases s with
  | whole n =>
    cases h
    refine ⟨_, rfl, ?_⟩
    split <;> rfl
  | compensated hi lo =>
    obtain ⟨y, hy⟩ := SumState.value_compensated hi lo
    rw [hy] at h
    cases h
  | plain x =>
    obtain rfl : x = .int m := h
    exact ⟨_, rfl, rfl⟩

/-- A `float` is added to an `int` that can be made one. -/
theorem step_float (h : s.value = .int m) (x : PyFloat) :
    (∃ s', s.step (.float x) = .ok s') ↔ Fits (.int m) := by
  cases s with
  | whole n =>
    cases h
    rw [SumState.step, Lib.exists_bind_ok]
    constructor
    · rintro ⟨y, hy, -⟩
      exact ⟨y, hy⟩
    · rintro ⟨y, hy⟩
      exact ⟨y, hy, _, rfl⟩
  | compensated hi lo =>
    obtain ⟨y, hy⟩ := SumState.value_compensated hi lo
    rw [hy] at h
    cases h
  | plain s =>
    obtain rfl : s = .int m := h
    rw [SumState.step, Lib.exists_bind_ok]
    constructor
    · rintro ⟨z, hz, -⟩
      obtain ⟨y, hy, -⟩ := Lib.bind_ok.mp hz
      exact ⟨y, hy⟩
    · rintro ⟨y, hy⟩
      refine ⟨.float (y + x), ?_, _, rfl⟩
      rw [add, hy]
      · rfl
      · rintro a b - hb
        cases hb

/-- From a `float` on, the sum is one. -/
theorem add_float {x y : PyNumber} {z : PyNumber} (h : x.add y = .ok z)
    (hfloat : (∃ a, x = .float a) ∨ ∃ b, y = .float b) : ∃ c, z = .float c := by
  cases x with
  | int a =>
    cases y with
    | int b => rcases hfloat with ⟨_, hx⟩ | ⟨_, hy⟩ <;> contradiction
    | float b =>
      obtain ⟨u, -, h⟩ := Lib.bind_ok.mp h
      obtain ⟨v, -, h⟩ := Lib.bind_ok.mp h
      cases h
      exact ⟨_, rfl⟩
  | float a =>
    obtain ⟨u, -, h⟩ := Lib.bind_ok.mp h
    obtain ⟨v, -, h⟩ := Lib.bind_ok.mp h
    cases h
    exact ⟨_, rfl⟩

theorem value_step {x : PyNumber} {s' : SumState} (h : s.step x = .ok s')
    (hfloat : (∃ a, s.value = .float a) ∨ ∃ b, x = .float b) : ∃ c, s'.value = .float c := by
  cases s with
  | whole n =>
    cases x with
    | int k => rcases hfloat with ⟨_, hs⟩ | ⟨_, hx⟩ <;> contradiction
    | float x =>
      obtain ⟨y, -, h⟩ := Lib.bind_ok.mp h
      cases h
      exact SumState.value_compensated _ _
  | compensated hi lo =>
    cases x with
    | int k =>
      rw [SumState.step] at h
      split at h
      · cases h
        exact SumState.value_compensated _ _
      · obtain ⟨y, hy, h⟩ := Lib.bind_ok.mp h
        cases h
        exact add_float hy (.inl (SumState.value_compensated hi lo))
    | float x =>
      cases h
      exact SumState.value_compensated _ _
  | plain s =>
    obtain ⟨y, hy, h⟩ := Lib.bind_ok.mp h
    cases h
    exact add_float hy hfloat

/-- What fits is added to a `float`. -/
theorem step_of_float {x : PyNumber} {a : PyFloat} (h : s.value = .float a) (hx : x.Fits) :
    ∃ s', s.step x = .ok s' := by
  obtain ⟨b, hb⟩ := hx
  have hadd : ∀ y : PyNumber, (∃ a, y = .float a) → ∃ z, y.add x = .ok z := by
    rintro _ ⟨a, rfl⟩
    refine ⟨.float (a + b), ?_⟩
    rw [add, hb]
    · rfl
    · rintro _ _ hy -
      cases hy
  cases s with
  | whole n => cases h
  | compensated hi lo =>
    cases x with
    | int k =>
      rw [SumState.step]
      split
      · exact ⟨_, rfl⟩
      · obtain ⟨z, hz⟩ := hadd _ (SumState.value_compensated hi lo)
        exact ⟨.plain z, by rw [hz]; rfl⟩
    | float x => exact ⟨_, rfl⟩
  | plain s =>
    obtain ⟨z, hz⟩ := hadd s ⟨a, h⟩
    exact ⟨.plain z, by rw [SumState.step, hz]; rfl⟩

theorem foldlM_of_float {a : PyFloat} (h : s.value = .float a) (hxs : ∀ x ∈ xs, x.Fits) :
    ∃ s', xs.foldlM SumState.step s = .ok s' := by
  induction xs generalizing s a with
  | nil => exact ⟨s, rfl⟩
  | cons x xs ih =>
    obtain ⟨s', hs'⟩ := step_of_float h (hxs x List.mem_cons_self)
    obtain ⟨a', ha'⟩ := value_step hs' (.inl ⟨a, h⟩)
    rw [List.foldlM_cons, hs']
    exact ih ha' fun y hy => hxs y (List.mem_cons_of_mem _ hy)

theorem foldlM_of_int (h : s.value = .int m) (hxs : ∀ x ∈ xs, x.Fits)
    (hlead : HasFloat xs → Fits (.int (m + leadSum xs))) :
    ∃ s', xs.foldlM SumState.step s = .ok s' := by
  induction xs generalizing s m with
  | nil => exact ⟨s, rfl⟩
  | cons x xs ih =>
    have hrest : ∀ y ∈ xs, y.Fits := fun y hy => hxs y (List.mem_cons_of_mem _ hy)
    cases x with
    | int k =>
      obtain ⟨s', hs', hvalue⟩ := step_int h k
      rw [List.foldlM_cons, hs']
      refine ih hvalue hrest fun hfloat => ?_
      rw [add_assoc]
      exact hlead (hasFloat_cons_int.mpr hfloat)
    | float x =>
      have hfits : Fits (.int m) := by simpa [leadSum] using hlead ⟨x, List.mem_cons_self⟩
      obtain ⟨s', hs'⟩ := (step_float h x).mpr hfits
      obtain ⟨a, ha⟩ := value_step hs' (.inr ⟨x, rfl⟩)
      rw [List.foldlM_cons, hs']
      exact foldlM_of_float ha hrest

theorem fits_of_foldlM {s' : SumState} (h : s.value = .int m)
    (hs : xs.foldlM SumState.step s = .ok s') (hfloat : HasFloat xs) :
    Fits (.int (m + leadSum xs)) := by
  induction xs generalizing s m with
  | nil => simp [HasFloat] at hfloat
  | cons x xs ih =>
    rw [List.foldlM_cons] at hs
    obtain ⟨t, ht, hrest⟩ := Lib.bind_ok.mp hs
    cases x with
    | int k =>
      obtain ⟨t', ht', hvalue⟩ := step_int h k
      cases ht.symm.trans ht'
      rw [leadSum, ← add_assoc]
      exact ih hvalue hrest (hasFloat_cons_int.mp hfloat)
    | float x =>
      rw [leadSum, add_zero]
      · exact (step_float h x).mp ⟨t, ht⟩
      · rintro n ys hn
        cases hn

/-- Numbers that fit can be summed up, if what comes before the first `float` can be made one. -/
theorem sum_ok (hxs : ∀ x ∈ xs, x.Fits) (hlead : HasFloat xs → Fits (.int (leadSum xs))) :
    ∃ s, sum xs = .ok s := by
  rw [← zero_add (leadSum xs)] at hlead
  obtain ⟨s', hs'⟩ := foldlM_of_int (s := .whole 0) rfl hxs hlead
  exact ⟨s'.value, by rw [sum, hs']; rfl⟩

/-- And they cannot otherwise. -/
theorem fits_of_sum {x : PyNumber} (h : sum xs = .ok x) (hfloat : HasFloat xs) :
    Fits (.int (leadSum xs)) := by
  obtain ⟨s', hs', -⟩ := Lib.bind_ok.mp h
  rw [← zero_add (leadSum xs)]
  exact fits_of_foldlM (s := .whole 0) rfl hs' hfloat

/-- One more number at the end makes no difference. -/
theorem sum_append_ok {x : PyNumber} (hxs : ∀ x ∈ xs, x.Fits) (hx : x.Fits)
    (hlead : Fits (.int (leadSum xs))) : ∃ s, sum (xs ++ [x]) = .ok s := by
  refine sum_ok (fun y hy => ?_) fun hfloat => ?_
  · rcases List.mem_append.mp hy with hy | hy
    · exact hxs y hy
    · exact List.mem_singleton.mp hy ▸ hx
  · cases x with
    | float x =>
      rw [leadSum_append_float]
      exact hlead
    | int n =>
      obtain ⟨y, hy⟩ := hfloat
      have hy : .float y ∈ xs := by simpa using hy
      rw [leadSum_append ⟨y, hy⟩]
      exact hlead

/-- A sum that is an `int` is one of `int`s. -/
theorem int_of_sum (h : sum xs = .ok (.int m)) : ∀ x ∈ xs, ∃ n, x = .int n := by
  obtain ⟨s', hs', hvalue⟩ := Lib.bind_ok.mp h
  have hvalue : s'.value = .int m := Except.ok.inj hvalue
  suffices hall : ∀ s : SumState, xs.foldlM SumState.step s = .ok s' → ∀ x ∈ xs, ∃ n, x = .int n from
    hall _ hs'
  clear hs' h
  -- a float in the sum, or among the terms, would make the result one
  have hkeep : ∀ (ys : List PyNumber) (s : SumState) (a : PyFloat), s.value = .float a →
      ys.foldlM SumState.step s ≠ .ok s' := by
    intro ys s a hs hfold
    obtain ⟨c, hc⟩ := Lib.foldlM_inv (P := fun s : SumState => ∃ c, s.value = .float c)
      (fun x _ s t hs ht => value_step ht (.inl hs)) ⟨a, hs⟩ hfold
    rw [hvalue] at hc
    cases hc
  induction xs with
  | nil => simp
  | cons x xs ih =>
    intro s hs
    rw [List.foldlM_cons] at hs
    obtain ⟨t, ht, hrest⟩ := Lib.bind_ok.mp hs
    refine List.forall_mem_cons.mpr ⟨?_, ih t hrest⟩
    cases x with
    | int n => exact ⟨n, rfl⟩
    | float x =>
      obtain ⟨c, hc⟩ := value_step ht (.inr ⟨x, rfl⟩)
      exact absurd hrest (hkeep xs t c hc)

end Sums

end PyNumber

end GeoRisk
