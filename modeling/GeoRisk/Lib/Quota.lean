import Mathlib

/-! Quotas: of the items of every bucket the first ones are admitted, up to the limit of the bucket.
    A counter of each bucket decides this on line, since an item needs to know of those seen before
    it only how many of its bucket there are:

        buckets     a  a  b  a  b  a         limit 2
        counted     0  1  0  2  1  3
        admitted    +  +  +  −  +  −                                                             -/

namespace Lib

variable {β γ : Type} [DecidableEq γ] (bucket : β → γ) (limit : γ → ℕ)

/-- How many items are of the bucket. -/
def inBucket (b : γ) (items : List β) : ℕ := items.countP fun g => bucket g = b

/-- Each item with its admission, after those seen before. -/
def admitFrom (seen : List β) : List β → List (β × Bool)
  | [] => []
  | g :: items => (g, decide (inBucket bucket (bucket g) seen < limit (bucket g))) ::
      admitFrom (g :: seen) items

variable {bucket limit} {b : γ} {seen items : List β}

theorem inBucket_cons_self (g : β) :
    inBucket bucket (bucket g) (g :: seen) = inBucket bucket (bucket g) seen + 1 :=
  List.countP_cons_of_pos (by simp)

theorem inBucket_cons_of_ne {g : β} (h : bucket g ≠ b) :
    inBucket bucket b (g :: seen) = inBucket bucket b seen :=
  List.countP_cons_of_neg (by simpa using h)

/-- The `i`th item of a bucket is admitted iff fewer than the limit came before it. -/
theorem admitFrom_bucket {i : ℕ} {q : β × Bool}
    (h : ((admitFrom bucket limit seen items).filter fun q => bucket q.1 = b)[i]? = some q) :
    q.2 = true ↔ inBucket bucket b seen + i < limit b := by
  induction items generalizing seen i with
  | nil => simp [admitFrom] at h
  | cons g items ih =>
    by_cases hg : bucket g = b
    · subst hg
      rw [admitFrom, List.filter_cons_of_pos (by simp)] at h
      cases i with
      | zero =>
        rw [List.getElem?_cons_zero, Option.some_inj] at h
        rw [← h, decide_eq_true_iff, Nat.add_zero]
      | succ i =>
        rw [List.getElem?_cons_succ] at h
        rw [ih h, inBucket_cons_self, Nat.add_right_comm, Nat.add_assoc]
    · rw [admitFrom, List.filter_cons_of_neg (by simpa using hg)] at h
      rw [ih h, inBucket_cons_of_ne hg]

/-- No more of a bucket are admitted than its limit leaves. -/
theorem admitFrom_le :
    (admitFrom bucket limit seen items).countP (fun q => q.2 && decide (bucket q.1 = b)) ≤
      limit b - inBucket bucket b seen := by
  induction items generalizing seen with
  | nil => simp [admitFrom]
  | cons g items ih =>
    have hrest := @ih (g :: seen)
    rw [admitFrom]
    by_cases hg : bucket g = b
    · subst hg
      rw [inBucket_cons_self] at hrest
      by_cases hlt : inBucket bucket (bucket g) seen < limit (bucket g)
      · rw [List.countP_cons_of_pos (by simpa using hlt)]
        omega
      · rw [List.countP_cons_of_neg (by simpa using hlt)]
        omega
    · rw [inBucket_cons_of_ne hg] at hrest
      rwa [List.countP_cons_of_neg (by simp [hg])]

end Lib
