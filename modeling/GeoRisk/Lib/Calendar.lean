import Mathlib

/-! The Gregorian calendar, extended to the year 1: days are numbered from its first of January, and a
    number is split into cycles of 400, 100, 4 and 1 years before the month is looked for:

        146097 = 4 · 36524 + 1        36524 = 25 · 1461 − 1        1461 = 4 · 365 + 1

    The date of a number has this number. -/

namespace Lib.Calendar

def isLeap (year : ℕ) : Bool := year % 4 = 0 ∧ (year % 100 ≠ 0 ∨ year % 400 = 0)

def daysBeforeYear (year : ℕ) : ℕ :=
  (year - 1) * 365 + (year - 1) / 4 - (year - 1) / 100 + (year - 1) / 400

def daysInMonth (leap : Bool) (month : ℕ) : ℕ :=
  if month = 2 ∧ leap then 29 else [0, 31, 28, 31, 30, 31, 30, 31, 31, 30, 31, 30, 31].getD month 0

def daysBeforeMonth (leap : Bool) (month : ℕ) : ℕ :=
  [0, 0, 31, 59, 90, 120, 151, 181, 212, 243, 273, 304, 334].getD month 0 +
    if 2 < month ∧ leap then 1 else 0

/-- The number of a date. -/
def toOrdinal (year month day : ℕ) : ℕ :=
  daysBeforeYear year + daysBeforeMonth (isLeap year) month + day

/-- Month and day of the `n`-th day of a year, counted from 0. The month is guessed first. -/
def monthDay (leap : Bool) (n : ℕ) : ℕ × ℕ :=
  let month := (n + 50) / 32
  let month := if n < daysBeforeMonth leap month then month - 1 else month
  (month, n - daysBeforeMonth leap month + 1)

/-- Year, month and day of a number. -/
def ofOrdinal (n : ℕ) : ℕ × ℕ × ℕ :=
  let n400 := (n - 1) / 146097
  let n := (n - 1) % 146097
  let n100 := n / 36524
  let n := n % 36524
  let n4 := n / 1461
  let n := n % 1461
  let n1 := n / 365
  let n := n % 365
  let year := n400 * 400 + 1 + n100 * 100 + n4 * 4 + n1
  if n1 = 4 ∨ n100 = 4 then (year - 1, 12, 31)
  else (year, monthDay (n1 = 3 ∧ (n4 ≠ 24 ∨ n100 = 3)) n)

/-- The last day before the year 10000. -/
def maxOrdinal : ℕ := 3652059

/-- A date there is. -/
structure Valid (year month day : ℕ) : Prop where
  year_pos : 1 ≤ year
  year_le : year ≤ 9999
  month_pos : 1 ≤ month
  month_le : month ≤ 12
  day_pos : 1 ≤ day
  day_le : day ≤ daysInMonth (isLeap year) month

instance (year month day : ℕ) : Decidable (Valid year month day) :=
  decidable_of_iff (1 ≤ year ∧ year ≤ 9999 ∧ 1 ≤ month ∧ month ≤ 12 ∧ 1 ≤ day ∧
      day ≤ daysInMonth (isLeap year) month)
    ⟨fun ⟨h1, h2, h3, h4, h5, h6⟩ => ⟨h1, h2, h3, h4, h5, h6⟩,
      fun ⟨h1, h2, h3, h4, h5, h6⟩ => ⟨h1, h2, h3, h4, h5, h6⟩⟩

theorem Valid.day_le_31 {year month day : ℕ} (h : Valid year month day) : day ≤ 31 := by
  have hall : ∀ leap : Bool, ∀ month < 13, daysInMonth leap month ≤ 31 := by decide
  exact h.day_le.trans (hall _ _ (Nat.lt_succ_of_le h.month_le))

/-! ### The date of a number has this number -/

theorem monthDay_spec (leap : Bool) {n : ℕ} (hn : n < 365 + leap.toNat) :
    daysBeforeMonth leap (monthDay leap n).1 + (monthDay leap n).2 = n + 1 ∧
      1 ≤ (monthDay leap n).1 ∧ (monthDay leap n).1 ≤ 12 ∧ 1 ≤ (monthDay leap n).2 ∧
      (monthDay leap n).2 ≤ daysInMonth leap (monthDay leap n).1 := by
  have hall : ∀ leap : Bool, ∀ n < 365 + leap.toNat,
      daysBeforeMonth leap (monthDay leap n).1 + (monthDay leap n).2 = n + 1 ∧
        1 ≤ (monthDay leap n).1 ∧ (monthDay leap n).1 ≤ 12 ∧ 1 ≤ (monthDay leap n).2 ∧
        (monthDay leap n).2 ≤ daysInMonth leap (monthDay leap n).1 := by
    decide +kernel
  exact hall leap n hn

/-- The days before a year, from its place in the cycles. -/
theorem daysBeforeYear_cycles {n400 n100 n4 n1 : ℕ} (h100 : n100 ≤ 3) (h4 : n4 ≤ 24)
    (h1 : n1 ≤ 3) :
    daysBeforeYear (n400 * 400 + 1 + n100 * 100 + n4 * 4 + n1) =
      n400 * 146097 + n100 * 36524 + n4 * 1461 + n1 * 365 := by
  rw [daysBeforeYear]
  omega

theorem isLeap_cycles {n400 n100 n4 n1 : ℕ} (h100 : n100 ≤ 3) (h4 : n4 ≤ 24) (h1 : n1 ≤ 3) :
    isLeap (n400 * 400 + 1 + n100 * 100 + n4 * 4 + n1) =
      decide (n1 = 3 ∧ (n4 ≠ 24 ∨ n100 = 3)) := by
  rw [isLeap, decide_eq_decide]
  omega

/-- The number of the `n`-th day of a year in the cycles, counted from 0. -/
theorem toOrdinal_cycles (n400 n100 n4 n1 n : ℕ) (leap : Bool) (h100 : n100 ≤ 3) (h4 : n4 ≤ 24)
    (h1 : n1 ≤ 3) (hleap : leap = decide (n1 = 3 ∧ (n4 ≠ 24 ∨ n100 = 3)))
    (hn : n < 365 + leap.toNat) (hyear : n400 * 400 + n100 * 100 + n4 * 4 + n1 < 9999) :
    toOrdinal (n400 * 400 + 1 + n100 * 100 + n4 * 4 + n1) (monthDay leap n).1 (monthDay leap n).2 =
        n400 * 146097 + n100 * 36524 + n4 * 1461 + n1 * 365 + n + 1 ∧
      Valid (n400 * 400 + 1 + n100 * 100 + n4 * 4 + n1) (monthDay leap n).1 (monthDay leap n).2 := by
  obtain ⟨hday, hmonth_pos, hmonth_le, hday_pos, hday_le⟩ := monthDay_spec leap hn
  have hisLeap : isLeap (n400 * 400 + 1 + n100 * 100 + n4 * 4 + n1) = leap :=
    (isLeap_cycles h100 h4 h1).trans hleap.symm
  constructor
  · rw [toOrdinal, daysBeforeYear_cycles h100 h4 h1, hisLeap]
    omega
  · exact ⟨by omega, by omega, hmonth_pos, hmonth_le, hday_pos, by rwa [hisLeap]⟩

theorem toOrdinal_ofOrdinal {n : ℕ} (hpos : 1 ≤ n) (hn : n ≤ maxOrdinal) :
    toOrdinal (ofOrdinal n).1 (ofOrdinal n).2.1 (ofOrdinal n).2.2 = n ∧
      Valid (ofOrdinal n).1 (ofOrdinal n).2.1 (ofOrdinal n).2.2 := by
  rw [maxOrdinal] at hn
  simp only [ofOrdinal]
  generalize h400 : (n - 1) / 146097 = n400
  generalize hr400 : (n - 1) % 146097 = r400
  generalize h100 : r400 / 36524 = n100
  generalize hr100 : r400 % 36524 = r100
  generalize h4 : r100 / 1461 = n4
  generalize hr4 : r100 % 1461 = r4
  generalize h1 : r4 / 365 = n1
  generalize hr1 : r4 % 365 = r1
  have hlast : monthDay true 365 = (12, 31) := by decide
  split
  · next hend =>
    -- the last day of four or of four hundred years is the 366th of the year before
    by_cases h100' : n100 = 4
    · have hyear : n400 * 400 + 1 + n100 * 100 + n4 * 4 + n1 - 1 =
          n400 * 400 + 1 + 3 * 100 + 24 * 4 + 3 := by omega
      obtain ⟨hday, hvalid⟩ := toOrdinal_cycles n400 3 24 3 365 true (by decide) (by decide)
        (by decide) (by decide) (by decide) (by omega)
      rw [hlast] at hday hvalid
      rw [hyear]
      exact ⟨hday.trans (by omega), hvalid⟩
    · have h1' : n1 = 4 := hend.resolve_right h100'
      have hyear : n400 * 400 + 1 + n100 * 100 + n4 * 4 + n1 - 1 =
          n400 * 400 + 1 + n100 * 100 + n4 * 4 + 3 := by omega
      obtain ⟨hday, hvalid⟩ := toOrdinal_cycles n400 n100 n4 3 365 true (by omega) (by omega)
        (by decide) (by rw [eq_comm, decide_eq_true_eq]; omega) (by decide) (by omega)
      rw [hlast] at hday hvalid
      rw [hyear]
      exact ⟨hday.trans (by omega), hvalid⟩
  · next hend =>
    push Not at hend
    obtain ⟨hday, hvalid⟩ := toOrdinal_cycles n400 n100 n4 n1 r1 _ (by omega) (by omega)
      (by omega) rfl (by omega) (by omega)
    exact ⟨hday.trans (by omega), hvalid⟩

end Lib.Calendar
