import Mathlib
import GeoRisk.Lib.Numerals

/-! Ranks with ties: the items in the order of their values are walked run by run, and the items of a run
    share the mean of the places it takes:

        values  1  4  4  9
        places  1  2  3  4
        ranks   1  2½ 2½ 4          rank = #smaller + (#equal + 1) / 2

    So a rank counts the items below, and half of those beside. -/

namespace Lib

section Code

variable {ι α β : Type} [DecidableEq ι] [Field α] [LinearOrder β]

/-- The ranks of the items from the `i`-th place on. -/
def assignRanks (v : ι → β) (i : ℕ) (order : List ι) (ranks : ι → α) : ι → α :=
  match order with
  | [] => ranks
  | k :: rest =>
    let ties := rest.takeWhile fun m => v m = v k
    let j := i + ties.length
    assignRanks v (j + 1) (rest.dropWhile fun m => v m = v k) fun m =>
      if m = k ∨ m ∈ ties then ((i + j : ℕ) : α) / 2 + 1 else ranks m
termination_by order.length
decreasing_by
  have hle := (List.dropWhile_suffix (fun m => decide (v m = v k)) (l := rest)).length_le
  simp only [List.length_cons]
  omega

/-- The items in the order of their values, equal ones as they come. -/
def sortedItems {n : ℕ} (v : Fin n → β) : List (Fin n) :=
  (List.finRange n).insertionSort fun i j => v i ≤ v j

/-- The rank of every item. -/
def averageRanks {n : ℕ} (v : Fin n → β) : Fin n → α := assignRanks v 0 (sortedItems v) fun _ => 0

end Code

/-! ### What a rank counts -/

section Spec

variable {ι α β : Type} [DecidableEq ι] [Field α] [CharZero α] [LinearOrder β]

omit [DecidableEq ι] in
theorem lt_of_mem_dropWhile {v : ι → β} {k : ι} {rest : List ι}
    (h : (k :: rest).Pairwise fun a b => v a ≤ v b) {m : ι}
    (hm : m ∈ rest.dropWhile fun m => v m = v k) : v k < v m := by
  rw [List.pairwise_cons] at h
  cases hdrop : rest.dropWhile fun m => v m = v k with
  | nil =>
    rw [hdrop] at hm
    cases hm
  | cons o os =>
    have hsuffix : (o :: os) <:+ rest := hdrop ▸ List.dropWhile_suffix _
    have hne : v o ≠ v k := by
      have hhead := List.head_dropWhile_not (fun m => decide (v m = v k)) (l := rest)
        (by rw [hdrop]; exact List.cons_ne_nil o os)
      simpa [hdrop] using hhead
    have hlt : v k < v o := lt_of_le_of_ne (h.1 o (hsuffix.subset List.mem_cons_self)) hne.symm
    rw [hdrop] at hm
    rcases List.mem_cons.mp hm with rfl | hm
    · exact hlt
    · exact hlt.trans_le ((List.pairwise_cons.mp (h.2.sublist hsuffix.sublist)).1 m hm)

/-- The walk gives every item of a sorted list its places below and half of those beside. -/
theorem assignRanks_eq (v : ι → β) (i : ℕ) (order : List ι) (ranks : ι → α) (m : ι)
    (h : order.Pairwise fun a b => v a ≤ v b) :
    assignRanks v i order ranks m = if m ∈ order then
      (i : α) + order.countP (v · < v m) + ((order.countP (v · = v m) : ℕ) + 1) / 2
      else ranks m := by
  induction hlen : order.length using Nat.strong_induction_on generalizing i order ranks with
  | _ len ih =>
  cases order with
  | nil => simp [assignRanks]
  | cons k rest =>
    rw [assignRanks]
    -- the run of `k`, and the items after it
    have hsplit : rest = rest.takeWhile (fun m => v m = v k) ++ rest.dropWhile fun m => v m = v k :=
      List.takeWhile_append_dropWhile.symm
    have hties : ∀ m ∈ rest.takeWhile fun m => v m = v k, v m = v k := fun m hm => by
      simpa using List.mem_takeWhile_imp hm
    have hothers : ∀ m ∈ rest.dropWhile fun m => v m = v k, v k < v m := fun m hm =>
      lt_of_mem_dropWhile h hm
    generalize rest.takeWhile (fun m => v m = v k) = ties at hsplit hties ⊢
    generalize rest.dropWhile (fun m => v m = v k) = others at hsplit hothers ⊢
    subst hsplit
    rw [ih others.length (by simp [← hlen]) (i + ties.length + 1) others _
      (h.sublist ((List.sublist_append_right ties others).cons k)) rfl]
    by_cases hm : m ∈ others
    · have hbelow : ties.countP (v · < v m) = ties.length :=
        List.countP_eq_length.mpr fun t ht => decide_eq_true (hties t ht ▸ hothers m hm)
      have hbeside : ties.countP (v · = v m) = 0 :=
        List.countP_eq_zero.mpr fun t ht => by simpa [hties t ht] using (hothers m hm).ne
      rw [if_pos hm, if_pos (by simp [hm])]
      simp only [List.countP_cons, List.countP_append, hbelow, hbeside, hothers m hm,
        (hothers m hm).ne, decide_true, decide_false, if_true]
      push_cast
      simp
      ring
    · rw [if_neg hm]
      by_cases hrun : m = k ∨ m ∈ ties
      · have hvalue : v m = v k := hrun.elim (fun h => h ▸ rfl) (hties m)
        have hbelow : (k :: (ties ++ others)).countP (v · < v m) = 0 := by
          refine List.countP_eq_zero.mpr fun t ht => ?_
          rw [decide_eq_true_eq, not_lt, hvalue]
          rcases List.mem_cons.mp ht with rfl | ht
          · exact le_rfl
          · rcases List.mem_append.mp ht with ht | ht
            · exact (hties t ht).ge
            · exact (hothers t ht).le
        have hbeside : (k :: (ties ++ others)).countP (v · = v m) = ties.length + 1 := by
          have hin : ties.countP (v · = v m) = ties.length :=
            List.countP_eq_length.mpr fun t ht => decide_eq_true ((hties t ht).trans hvalue.symm)
          have hout : others.countP (v · = v m) = 0 :=
            List.countP_eq_zero.mpr fun t ht => by
              simpa [hvalue] using (hothers t ht).ne'
          rw [List.countP_cons, List.countP_append, hin, hout, hvalue]
          simp
        rw [if_pos hrun, if_pos (by simpa using hrun.elim Or.inl fun h => Or.inr (Or.inl h)), hbelow,
          hbeside]
        push_cast
        ring
      · rw [if_neg hrun, if_neg]
        simp only [List.mem_cons, List.mem_append]
        tauto

/-- How far `k` is below `m`: wholly, or half if it is beside. -/
def below (v : ι → β) (k m : ι) : α := if v k < v m then 1 else if v k = v m then 1 / 2 else 0

omit [DecidableEq ι] in
theorem below_add_below (v : ι → β) (k m : ι) : below v k m + below v m k = (1 : α) := by
  unfold below
  rcases lt_trichotomy (v k) (v m) with h | h | h
  · simp [h, h.not_gt, h.ne']
  · norm_num [h]
  · simp [h, h.not_gt, h.ne']

end Spec

section Ranks

variable {α β : Type} [Field α] [CharZero α] [LinearOrder β] {n : ℕ}

theorem countP_sortedItems (v : Fin n → β) (p : Fin n → Bool) :
    (sortedItems v).countP p = (Finset.univ.filter fun k => p k = true).card := by
  have hperm : (sortedItems v).Perm (List.finRange n) := List.perm_insertionSort _ _
  rw [hperm.countP_eq, List.countP_eq_length_filter,
    ← List.toFinset_card_of_nodup ((List.nodup_finRange n).filter p)]
  congr 1
  ext k
  simp

/-- A rank is what is below the item, and a half. -/
theorem averageRanks_eq (v : Fin n → β) (m : Fin n) :
    averageRanks v m = ∑ k, below v k m + (1 / 2 : α) := by
  have hsorted : (sortedItems v).Pairwise fun i j => v i ≤ v j :=
    List.pairwise_insertionSort (fun i j => v i ≤ v j) _
  have hmem : m ∈ sortedItems v := (List.mem_insertionSort _).mpr (List.mem_finRange m)
  rw [averageRanks, assignRanks_eq v 0 _ _ m hsorted, if_pos hmem, countP_sortedItems,
    countP_sortedItems]
  have hterm : ∀ k, below v k m = ((if v k < v m then 1 else 0) + (if v k = v m then 1 else 0) / 2 : α) := by
    intro k
    unfold below
    rcases lt_trichotomy (v k) (v m) with h | h | h
    · simp [h, h.ne]
    · simp [h]
    · simp [h.not_gt, h.ne']
  simp only [hterm, Finset.sum_add_distrib, ← Finset.sum_div, Finset.sum_boole, decide_eq_true_eq]
  push_cast
  ring

/-- The ranks of the items of a set add up to what is below them outside of it, and to what a set of
    their number has among itself. -/
theorem sum_averageRanks (v : Fin n → β) (s : Finset (Fin n)) :
    ∑ m ∈ s, averageRanks v m =
      ∑ m ∈ s, ∑ k ∈ sᶜ, below v k m + (s.card * (s.card + 1) / 2 : α) := by
  have hinside : ∑ m ∈ s, ∑ k ∈ s, below v k m = (s.card ^ 2 / 2 : α) := by
    have hswap : ∑ m ∈ s, ∑ k ∈ s, (below v k m : α) = ∑ m ∈ s, ∑ k ∈ s, below v m k :=
      Finset.sum_comm
    have htwice : ∑ m ∈ s, ∑ k ∈ s, (below v k m + below v m k : α) = s.card ^ 2 := by
      simp only [below_add_below, Finset.sum_const, nsmul_eq_mul, mul_one]
      ring
    simp only [Finset.sum_add_distrib] at htwice
    rw [← hswap] at htwice
    linear_combination htwice / 2
  have hsplit : ∀ m, ∑ k, (below v k m : α) = ∑ k ∈ s, below v k m + ∑ k ∈ sᶜ, below v k m :=
    fun m => (Finset.sum_add_sum_compl s _).symm
  simp only [averageRanks_eq, hsplit, Finset.sum_add_distrib, hinside, Finset.sum_const, nsmul_eq_mul]
  ring

/-- Ranks see the order of the values only. -/
theorem averageRanks_comp_strictMono {γ : Type} [LinearOrder γ] {f : β → γ} {v : Fin n → β}
    (hf : StrictMonoOn f (Set.range v)) :
    averageRanks (fun m => f (v m)) = (averageRanks v : Fin n → α) := by
  funext m
  simp only [averageRanks_eq, below]
  have hlt : ∀ k, f (v k) < f (v m) ↔ v k < v m := fun k =>
    hf.lt_iff_lt (Set.mem_range_self k) (Set.mem_range_self m)
  have heq : ∀ k, f (v k) = f (v m) ↔ v k = v m := fun k =>
    hf.injOn.eq_iff (Set.mem_range_self k) (Set.mem_range_self m)
  simp only [hlt, heq]

/-- Turned around, the ranks count from the other end. -/
theorem averageRanks_comp_strictAnti {γ : Type} [LinearOrder γ] {f : β → γ} {v : Fin n → β}
    (hf : StrictAntiOn f (Set.range v)) (m : Fin n) :
    averageRanks (fun m => f (v m)) m = (n + 1 - averageRanks v m : α) := by
  have hturn : ∀ k, below (fun m => f (v m)) k m = (1 - below v k m : α) := by
    intro k
    have hlt : f (v k) < f (v m) ↔ v m < v k :=
      hf.lt_iff_gt (Set.mem_range_self k) (Set.mem_range_self m)
    have heq : f (v k) = f (v m) ↔ v k = v m :=
      hf.injOn.eq_iff (Set.mem_range_self k) (Set.mem_range_self m)
    rw [eq_sub_iff_add_eq, ← below_add_below v m k]
    simp only [below, hlt, heq, eq_comm]
  simp only [averageRanks_eq, hturn, Finset.sum_sub_distrib, Finset.sum_const, Finset.card_univ,
    Fintype.card_fin, nsmul_eq_mul, mul_one]
  ring

end Ranks

end Lib
