import GeoRisk.Lib.Ranks

/-! Ranks with ties by a loop over places: the inner loop finds the last place of the run that begins at
    `i`, then the places of the run get their mean, and the loop goes on after it.

        places  0  1  2  3        i = 1   j = 2        ranks of places 1, 2 := (1 + 2) / 2 + 1
                   └──┘ run

    It is the walk over the runs, by places instead of by what is left of the list. -/

namespace Lib

section Code

variable {α β : Type} [Field α] [LinearOrder β] {n : ℕ}

/-- `while j + 1 < n and values[order[j + 1]] == values[order[i]]: j += 1`. -/
def runEnd (v : Fin n → β) (order : List (Fin n)) (i j : ℕ) : ℕ :=
  if h : j + 1 < order.length ∧ (order[j + 1]?).map v = (order[i]?).map v then
    runEnd v order i (j + 1)
  else j
termination_by order.length - j

theorem le_runEnd (v : Fin n → β) (order : List (Fin n)) (i j : ℕ) : j ≤ runEnd v order i j := by
  induction j using runEnd.induct v order i with
  | case1 j h ih =>
    rw [runEnd, dif_pos h]
    omega
  | case2 j h => rw [runEnd, dif_neg h]

/-- `for k in range(i, j + 1): ranks[order[k]] = rank`. -/
def setRanks (order : List (Fin n)) (i j : ℕ) (rank : α) (ranks : Fin n → α) : Fin n → α :=
  ((order.take (j + 1)).drop i).foldl (fun ranks k => Function.update ranks k rank) ranks

/-- The loop over the runs, from the `i`th place on. -/
def rankLoop (v : Fin n → β) (order : List (Fin n)) (i : ℕ) (ranks : Fin n → α) : Fin n → α :=
  if i < order.length then
    let j := runEnd v order i i
    rankLoop v order (j + 1) (setRanks order i j (((i + j : ℕ) : α) / 2 + 1) ranks)
  else ranks
termination_by order.length - i
decreasing_by
  have := le_runEnd v order i i
  omega

/-- The ranks of a list of values. -/
def rankList (values : List β) : List α :=
  List.ofFn (rankLoop values.get (sortedItems values.get) 0 fun _ => 0)

end Code

section Spec

variable {α β : Type} [Field α] [LinearOrder β] {n : ℕ} {v : Fin n → β} {order : List (Fin n)}

omit [Field α] in
theorem setRanks_apply (i j : ℕ) (rank : α) (ranks : Fin n → α) (m : Fin n) :
    setRanks order i j rank ranks m = if m ∈ (order.take (j + 1)).drop i then rank else ranks m := by
  unfold setRanks
  generalize (order.take (j + 1)).drop i = run
  induction run generalizing ranks with
  | nil => simp
  | cons k run ih =>
    rw [List.foldl_cons, ih]
    by_cases hm : m ∈ run
    · simp [hm]
    · by_cases hk : m = k
      · simp [hk]
      · simp [hm, hk]

/-- The inner loop goes over the items that are equal to the first of the run. -/
theorem runEnd_eq {i : ℕ} {k : Fin n} (hk : order[i]? = some k) (j : ℕ) :
    runEnd v order i j = j + ((order.drop (j + 1)).takeWhile fun m => v m = v k).length := by
  induction j using runEnd.induct v order i with
  | case1 j h ih =>
    obtain ⟨hlt, hv⟩ := h
    rw [runEnd, dif_pos ⟨hlt, hv⟩, ih, List.drop_eq_getElem_cons hlt, List.takeWhile_cons]
    rw [List.getElem?_eq_getElem hlt, hk, Option.map_some, Option.map_some, Option.some_inj] at hv
    rw [if_pos (decide_eq_true hv), List.length_cons]
    omega
  | case2 j h =>
    rw [runEnd, dif_neg h]
    by_cases hlt : j + 1 < order.length
    · have hv : ¬ v order[j + 1] = v k := by
        intro hv
        refine h ⟨hlt, ?_⟩
        rw [List.getElem?_eq_getElem hlt, hk, Option.map_some, Option.map_some, hv]
      rw [List.drop_eq_getElem_cons hlt, List.takeWhile_cons, if_neg (by simpa using hv)]
      rfl
    · rw [List.drop_eq_nil_of_le (not_lt.mp hlt)]
      rfl

/-- From any place on the loop does what the walk over the rest of the list does. -/
theorem rankLoop_eq (i : ℕ) (ranks : Fin n → α) :
    rankLoop v order i ranks = assignRanks v i (order.drop i) ranks := by
  induction hlen : order.length - i using Nat.strong_induction_on generalizing i ranks with
  | _ len ih =>
  by_cases hi : i < order.length
  · have hk : order[i]? = some order[i] := List.getElem?_eq_getElem hi
    rw [rankLoop, if_pos hi, List.drop_eq_getElem_cons hi, assignRanks]
    dsimp only
    rw [runEnd_eq hk]
    set rest := order.drop (i + 1) with hrest
    set ties := rest.takeWhile fun m => v m = v order[i] with hties
    have hafter : rest.dropWhile (fun m => v m = v order[i]) = order.drop (i + ties.length + 1) := by
      have hsplit : rest = ties ++ rest.dropWhile fun m => v m = v order[i] :=
        List.takeWhile_append_dropWhile.symm
      have hdrop : rest.drop ties.length = rest.dropWhile fun m => v m = v order[i] := by
        conv_lhs => rw [hsplit]
        exact List.drop_left
      rw [← hdrop, hrest, List.drop_drop]
      congr 1
      omega
    have hrun : (order.take (i + ties.length + 1)).drop i = order[i] :: ties := by
      rw [List.drop_take, List.drop_eq_getElem_cons hi,
        show i + ties.length + 1 - i = ties.length + 1 by omega, List.take_succ_cons]
      congr 1
      exact (List.prefix_iff_eq_take.mp (List.takeWhile_prefix _)).symm
    have hset : setRanks order i (i + ties.length) (((i + (i + ties.length) : ℕ) : α) / 2 + 1) ranks =
        fun m => if m = order[i] ∨ m ∈ ties then ((i + (i + ties.length) : ℕ) : α) / 2 + 1
          else ranks m := by
      funext m
      rw [setRanks_apply, hrun]
      simp only [List.mem_cons]
    rw [ih (order.length - (i + ties.length + 1)) (by omega) _ _ rfl, hafter, hset]
  · rw [rankLoop, if_neg hi, List.drop_eq_nil_of_le (not_lt.mp hi), assignRanks]

/-- The loop computes the ranks of the walk. -/
theorem rankList_eq (values : List β) : (rankList values : List α) =
    List.ofFn (averageRanks values.get) := by
  rw [rankList, rankLoop_eq, List.drop_zero]
  rfl

/-! ### The ranks of a list -/

variable [CharZero α]

theorem countP_sorted (values : List β) (p : β → Bool) :
    (sortedItems values.get).countP (fun k => p (values.get k)) = values.countP p := by
  have hperm : (sortedItems values.get).Perm (List.finRange values.length) :=
    List.perm_insertionSort _ _
  rw [hperm.countP_eq]
  conv_rhs => rw [← List.map_get_finRange values, List.countP_map]
  rfl

/-- A rank counts the values below, and half of those beside. -/
theorem rankList_getElem? (values : List β) (i : Fin values.length) :
    (rankList values)[i.val]? = some (((values.countP (· < values.get i) : ℕ) : α) +
      ((values.countP (· = values.get i) : ℕ) + 1) / 2) := by
  have hsorted : (sortedItems values.get).Pairwise fun i j => values.get i ≤ values.get j :=
    List.pairwise_insertionSort (fun i j => values.get i ≤ values.get j) _
  have hmem : i ∈ sortedItems values.get := (List.mem_insertionSort _).mpr (List.mem_finRange i)
  have hbelow := countP_sorted values fun x => decide (x < values.get i)
  have hbeside := countP_sorted values fun x => decide (x = values.get i)
  rw [rankList_eq, List.getElem?_ofFn, dif_pos i.isLt, averageRanks, assignRanks_eq _ _ _ _ _ hsorted,
    if_pos hmem, hbelow, hbeside, Nat.cast_zero, zero_add]

/-- The ranks share out the places. -/
theorem rankList_sum (values : List β) :
    (rankList values).sum = ((values.length : α) * (values.length + 1)) / 2 := by
  have hsum := sum_averageRanks (α := α) values.get Finset.univ
  rw [rankList_eq, List.sum_ofFn, hsum]
  simp

end Spec

end Lib
