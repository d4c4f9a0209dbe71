import Mathlib
import GeoRisk.PyFloat

/-! `repr` of a `float`: the fewest decimal digits that read back as the same double, and of these the
    nearest to it. The point is written out while it stands near the digits, else as an exponent:

        0.0001   12.5   3.0   1e-05   1.5e+16 -/

namespace GeoRisk.PyFloat

/-- The power of ten at or next below a positive rational. -/
def exponent10 (q : ℚ) : ℤ :=
  let e : ℤ := Nat.log 10 q.num.natAbs - Nat.log 10 q.den
  if q < 10 ^ e then e - 1 else e

/-- The integers next to a rational, the nearer one first. -/
def neighbours (x : ℚ) : List ℤ :=
  if roundHalfEven x = ⌊x⌋ then [⌊x⌋, ⌊x⌋ + 1] else [⌊x⌋ + 1, ⌊x⌋]

/-- The decimals of `precision` digits next to a rational: their digits, and a power of ten. -/
def decimals (q : ℚ) (precision : ℕ) : List (ℤ × ℤ) :=
  let scale := exponent10 q + 1 - precision
  (neighbours (q / 10 ^ scale)).map fun digits => (digits, scale)

/-- The shortest decimal that reads back as a positive double; 17 digits always do. -/
def shortest (q : ℚ) : ℤ × ℤ :=
  (((List.range 17).flatMap fun i => decimals q (i + 1)).find? fun d =>
    ofRat (d.1 * 10 ^ d.2) = .finite q).getD ((decimals q 17).headD (0, 0))

/-- An exponent, in two digits or more. -/
def exponentChars (e : ℤ) : List Char :=
  let digits := Nat.toDigits 10 e.natAbs
  'e' :: (if e < 0 then '-' else '+') :: (if digits.length < 2 then '0' :: digits else digits)

/-- The text of `0.digits * 10 ^ point`. -/
def placePoint (digits : List Char) (point : ℤ) : List Char :=
  if point ≤ -4 ∨ 16 < point then
    digits.take 1 ++ (if digits.length ≤ 1 then [] else '.' :: digits.drop 1) ++
      exponentChars (point - 1)
  else if point ≤ 0 then '0' :: '.' :: List.replicate (-point).toNat '0' ++ digits
  else if digits.length ≤ point then
    digits ++ List.replicate (point - digits.length).toNat '0' ++ ['.', '0']
  else digits.take point.toNat ++ '.' :: digits.drop point.toNat

/-- `repr` of a positive double. -/
def reprPositive (q : ℚ) : List Char :=
  let digits := Nat.toDigits 10 (shortest q).1.toNat
  placePoint (digits.rdropWhile (· = '0')) (digits.length + (shortest q).2)

def reprChars : PyFloat → List Char
  | .finite q =>
    if q = 0 then ['0', '.', '0']
    else if q < 0 then '-' :: reprPositive (-q)
    else reprPositive q
  | .inf false => ['i', 'n', 'f']
  | .inf true => ['-', 'i', 'n', 'f']
  | .nan => ['n', 'a', 'n']

/-- `repr(x)`, which is also `str(x)`. -/
def repr (x : PyFloat) : String := String.ofList x.reprChars

/-! ### The characters it is made of -/

/-- A digit, or one of the marks. -/
def isReprChar (c : Char) : Bool :=
  c.isDigit || ['.', '-', '+', 'e', 'i', 'n', 'f', 'a'].contains c

theorem isReprChar_of_digit {c : Char} (h : c.isDigit = true) : isReprChar c = true := by
  simp [isReprChar, h]

theorem isReprChar_exponentChars {e : ℤ} {c : Char} (h : c ∈ exponentChars e) :
    isReprChar c = true := by
  have hdigits : ∀ c ∈ Nat.toDigits 10 e.natAbs, isReprChar c = true := fun c hc =>
    isReprChar_of_digit (Nat.isDigit_of_mem_toDigits (by decide) (by decide) hc)
  simp only [exponentChars, List.mem_cons] at h
  rcases h with rfl | rfl | h
  · decide
  · split <;> decide
  · split at h
    · rcases List.mem_cons.mp h with rfl | h
      · decide
      · exact hdigits c h
    · exact hdigits c h

theorem isReprChar_placePoint {digits : List Char} {point : ℤ} {c : Char}
    (hdigits : ∀ c ∈ digits, c.isDigit = true) (h : c ∈ placePoint digits point) :
    isReprChar c = true := by
  have hdigit : ∀ c ∈ digits, isReprChar c = true := fun c hc => isReprChar_of_digit (hdigits c hc)
  have hzeros : ∀ {n : ℕ}, c ∈ List.replicate n '0' → isReprChar c = true := by
    intro n hc
    rw [(List.mem_replicate.mp hc).2]
    decide
  unfold placePoint at h
  split at h
  · rcases List.mem_append.mp h with h | h
    · rcases List.mem_append.mp h with h | h
      · exact hdigit c (List.mem_of_mem_take h)
      · split at h
        · cases h
        · rcases List.mem_cons.mp h with rfl | h
          · decide
          · exact hdigit c (List.mem_of_mem_drop h)
    · exact isReprChar_exponentChars h
  · split at h
    · rcases List.mem_cons.mp h with rfl | h
      · decide
      · rcases List.mem_cons.mp h with rfl | h
        · decide
        · rcases List.mem_append.mp h with h | h
          · exact hzeros h
          · exact hdigit c h
    · split at h
      · rcases List.mem_append.mp h with h | h
        · rcases List.mem_append.mp h with h | h
          · exact hdigit c h
          · exact hzeros h
        · rcases List.mem_pair.mp h with rfl | rfl <;> decide
      · rcases List.mem_append.mp h with h | h
        · exact hdigit c (List.mem_of_mem_take h)
        · rcases List.mem_cons.mp h with rfl | h
          · decide
          · exact hdigit c (List.mem_of_mem_drop h)

theorem isReprChar_reprPositive {q : ℚ} {c : Char} (h : c ∈ reprPositive q) :
    isReprChar c = true := by
  refine isReprChar_placePoint (fun c hc => ?_) h
  have hmem := (List.rdropWhile_prefix _ _).subset hc
  exact Nat.isDigit_of_mem_toDigits (by decide) (by decide) hmem

/-- `repr` is written in digits and a few marks. -/
theorem isReprChar_reprChars {x : PyFloat} {c : Char} (h : c ∈ x.reprChars) :
    isReprChar c = true := by
  have htext : ∀ {text : List Char}, text.all isReprChar = true → c ∈ text → isReprChar c = true :=
    fun hall hc => List.all_eq_true.mp hall c hc
  cases x with
  | finite q =>
    simp only [reprChars] at h
    split at h
    · exact htext (by decide) h
    · split at h
      · rcases List.mem_cons.mp h with rfl | h
        · decide
        · exact isReprChar_reprPositive h
      · exact isReprChar_reprPositive h
  | inf negative => cases negative <;> exact htext (by decide) h
  | nan => exact htext (by decide) h

end GeoRisk.PyFloat
