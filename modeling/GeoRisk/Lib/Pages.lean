import Mathlib

/-! Keyset pagination: the rows of a table in the order of a key, read page by page, oldest first. A
    reader that wants the newest rows and takes them from the first page gets them as long as they
    are on it:

        ordered   r₁ < r₂ < … < rₙ │ rₙ₊₁ < …
                  └──── page ────┘   └ drop ┘

    Whatever is looked for behind the page is missed. -/

namespace Lib

variable {Row K : Type} [LinearOrder K] {key : Row → K} {rows : List Row} {p : Row → Bool}

/-- `ORDER BY key`. -/
def ordered (key : Row → K) (rows : List Row) : List Row :=
  rows.insertionSort fun r r' => key r ≤ key r'

/-- The rows after `cursor`, at most `limit` of them; the next cursor, and whether there are more. -/
def keysetPage (key : Row → K) (rows : List Row) (limit : ℕ) (cursor : Option K) :
    List Row × Option K × Bool :=
  let found := (ordered key (rows.filter fun r => ∀ c ∈ cursor, c < key r)).take (limit + 1)
  let page := found.take limit
  let hasMore := decide (limit < found.length)
  (page, if hasMore then page.getLast?.map key else none, hasMore)

theorem keysetPage_none (key : Row → K) (rows : List Row) (limit : ℕ) :
    (keysetPage key rows limit none).1 = (ordered key rows).take limit := by
  simp [keysetPage, List.take_take]

theorem perm_ordered : (ordered key rows).Perm rows := List.perm_insertionSort _ _

@[simp] theorem mem_ordered {r : Row} : r ∈ ordered key rows ↔ r ∈ rows := perm_ordered.mem_iff

@[simp] theorem length_ordered : (ordered key rows).length = rows.length := perm_ordered.length_eq

/-- No two rows have one key, so the order is strict. -/
theorem ordered_lt (h : (rows.map key).Nodup) :
    (ordered key rows).Pairwise fun r r' => key r < key r' := by
  have hle : (ordered key rows).Pairwise fun r r' => key r ≤ key r' := by
    have : Std.Total fun r r' : Row => key r ≤ key r' := ⟨fun r r' => le_total _ _⟩
    have : IsTrans Row fun r r' => key r ≤ key r' := ⟨fun _ _ _ => le_trans⟩
    exact List.pairwise_insertionSort _ rows
  have hne : (ordered key rows).Pairwise fun r r' => key r ≠ key r' := by
    refine List.pairwise_map.mp ?_
    exact (perm_ordered.map key).symm.nodup h
  exact hle.and hne |>.imp fun hr => lt_of_le_of_ne hr.1 hr.2

theorem nodup_ordered (h : (rows.map key).Nodup) : (ordered key rows).Nodup :=
  (ordered_lt h).imp fun hr heq => hr.ne (congrArg key heq)

/-- What is behind the first `n` rows has at least `n` rows before it. -/
theorem mem_drop_ordered (h : (rows.map key).Nodup) {r : Row} {n : ℕ} :
    r ∈ (ordered key rows).drop n ↔
      r ∈ rows ∧ n ≤ (rows.filter fun r' => key r' < key r).length := by
  by_cases hr : r ∈ rows
  case neg =>
    exact iff_of_false (fun hd => hr (mem_ordered.mp (List.mem_of_mem_drop hd))) fun hd => hr hd.1
  have hlt := ordered_lt h
  have hmem : r ∈ ordered key rows := mem_ordered.mpr hr
  obtain ⟨before, after, hsplit⟩ := List.append_of_mem hmem
  rw [hsplit] at hlt
  obtain ⟨-, hafter, hbefore⟩ := List.pairwise_append.mp hlt
  have hafter := (List.pairwise_cons.mp hafter).1
  -- the rows before it are those with a smaller key
  have hcount : (rows.filter fun r' => key r' < key r).length = before.length := by
    have hperm : (ordered key rows).Perm rows := perm_ordered
    rw [← (hperm.filter _).length_eq, hsplit, List.filter_append,
      List.filter_eq_self.mpr, List.filter_eq_nil_iff.mpr]
    · simp
    · intro r' hr'
      rcases List.mem_cons.mp hr' with rfl | hr'
      · simp
      · simpa using (hafter r' hr').le
    · intro r' hr'
      simpa using hbefore r' hr' r (List.mem_cons_self ..)
  rw [hcount, hsplit, List.drop_append]
  constructor
  · intro hd
    refine ⟨hr, ?_⟩
    by_contra hn
    rw [List.drop_of_length_le (by omega), List.nil_append] at hd
    have hn : n - before.length = (n - before.length - 1) + 1 := by omega
    rw [hn, List.drop_succ_cons] at hd
    exact lt_irrefl _ (hafter r (List.mem_of_mem_drop hd))
  · rintro ⟨-, hn⟩
    rw [Nat.sub_eq_zero_of_le hn]
    exact List.mem_append_right _ (List.mem_cons_self ..)

/-! ### The newest row of a kind -/

/-- The row with the greatest key among those that satisfy `p`, if there are any. -/
def IsNewest (key : Row → K) (p : Row → Bool) (rows : List Row) : Option Row → Prop
  | none => ∀ r ∈ rows, p r = false
  | some r => r ∈ rows ∧ p r = true ∧ ∀ r' ∈ rows, p r' = true → key r' ≤ key r

theorem isNewest_getLast (h : (rows.map key).Nodup) :
    IsNewest key p rows ((ordered key rows).filter p).getLast? := by
  cases hlast : ((ordered key rows).filter p).getLast? with
  | none =>
    intro r hr
    have hnil := List.getLast?_eq_none_iff.mp hlast
    simpa using List.filter_eq_nil_iff.mp hnil r (mem_ordered.mpr hr)
  | some r =>
    obtain ⟨before, hsplit⟩ := List.getLast?_eq_some_iff.mp hlast
    have hmem : r ∈ (ordered key rows).filter p := by simp [hsplit]
    obtain ⟨hr, hp⟩ := List.mem_filter.mp hmem
    refine ⟨mem_ordered.mp hr, hp, fun r' hr' hp' => ?_⟩
    have hmem' : r' ∈ (ordered key rows).filter p :=
      List.mem_filter.mpr ⟨mem_ordered.mpr hr', hp'⟩
    have hlt := (ordered_lt h).filter p
    rw [hsplit] at hmem' hlt
    rcases List.mem_append.mp hmem' with hr' | hr'
    · exact ((List.pairwise_append.mp hlt).2.2 r' hr' r (List.mem_singleton_self r)).le
    · exact (congrArg key (List.mem_singleton.mp hr')).le

theorem IsNewest.unique (h : (rows.map key).Nodup) {o o' : Option Row}
    (ho : IsNewest key p rows o) (ho' : IsNewest key p rows o') : o = o' := by
  cases o with
  | none =>
    cases o' with
    | none => rfl
    | some r => exact nomatch (ho r ho'.1).symm.trans ho'.2.1
  | some r =>
    cases o' with
    | none => exact nomatch (ho' r ho.1).symm.trans ho.2.1
    | some r' =>
      have hkey : key r = key r' := le_antisymm (ho'.2.2 r ho.1 ho.2.1) (ho.2.2 r' ho'.1 ho'.2.1)
      rw [List.inj_on_of_nodup_map h ho.1 ho'.1 hkey]

theorem isNewest_iff (h : (rows.map key).Nodup) {o : Option Row} :
    IsNewest key p rows o ↔ ((ordered key rows).filter p).getLast? = o :=
  ⟨fun ho => (isNewest_getLast h).unique h ho, fun ho => ho ▸ isNewest_getLast h⟩

/-- The last row of a kind on the first page is the newest one iff none is behind the page. -/
theorem getLast_page_iff (h : (rows.map key).Nodup) {n : ℕ} :
    (((ordered key rows).take n).filter p).getLast? = ((ordered key rows).filter p).getLast? ↔
      ∀ r ∈ (ordered key rows).drop n, p r = false := by
  have hsplit : (ordered key rows).filter p =
      ((ordered key rows).take n).filter p ++ ((ordered key rows).drop n).filter p := by
    rw [← List.filter_append, List.take_append_drop]
  constructor
  · intro heq
    by_contra hbehind
    have hne : ((ordered key rows).drop n).filter p ≠ [] := by
      intro hnil
      exact hbehind fun r hr => by simpa using List.filter_eq_nil_iff.mp hnil r hr
    obtain ⟨r, hr⟩ := Option.ne_none_iff_exists'.mp (mt List.getLast?_eq_none_iff.mp hne)
    rw [hsplit, List.getLast?_append, hr, Option.some_or] at heq
    have htake := List.mem_of_mem_filter (List.mem_of_getLast? heq)
    have hdrop := List.mem_of_mem_filter (List.mem_of_getLast? hr)
    exact List.disjoint_take_drop (nodup_ordered h) le_rfl htake hdrop
  · intro hnone
    have hnil : ((ordered key rows).drop n).filter p = [] :=
      List.filter_eq_nil_iff.mpr fun r hr => by simp [hnone r hr]
    rw [hsplit, hnil, List.append_nil]

/-! ### The newest rows -/

/-- The `k` rows with the greatest keys, newest first; all of them, if there are fewer. -/
structure Newest (key : Row → K) (k : ℕ) (rows newest : List Row) : Prop where
  descending : newest.Pairwise fun r r' => key r' < key r
  subset : ∀ r ∈ newest, r ∈ rows
  length : newest.length = min k rows.length
  greatest : ∀ r ∈ rows, r ∉ newest → ∀ r' ∈ newest, key r < key r'

theorem newest_take (h : (rows.map key).Nodup) (k : ℕ) :
    Newest key k rows ((ordered key rows).reverse.take k) := by
  have hdesc : (ordered key rows).reverse.Pairwise fun r r' => key r' < key r :=
    List.pairwise_reverse.mpr (ordered_lt h)
  refine ⟨hdesc.sublist (List.take_sublist ..), ?_, by simp, ?_⟩
  · intro r hr
    simpa using List.mem_of_mem_take hr
  · intro r hr hnot r' hr'
    have hmem : r ∈ (ordered key rows).reverse := by simpa using hr
    rw [← List.take_append_drop k (ordered key rows).reverse] at hmem hdesc
    rcases List.mem_append.mp hmem with hmem | hmem
    · exact absurd hmem hnot
    · exact (List.pairwise_append.mp hdesc).2.2 r' hr' r hmem

/-- There is one list of the newest rows only. -/
theorem Newest.unique {k : ℕ} {l l' : List Row} (h : Newest key k rows l)
    (h' : Newest key k rows l') : l = l' := by
  have hnodup : ∀ {l}, Newest key k rows l → l.Nodup := fun h =>
    h.descending.imp fun hr heq => hr.ne (congrArg key heq.symm)
  have hlength : l.length = l'.length := h.length.trans h'.length.symm
  have hsubset : l ⊆ l' := by
    intro r hr
    by_contra hnot
    -- then `l'` has a row that is not in `l`, and each of the two would be the newer
    have hmissing : ¬ l' ⊆ l := by
      intro hsub
      have hperm := ((hnodup h').subperm hsub).perm_of_length_le hlength.le
      exact hnot (hperm.symm.subset hr)
    obtain ⟨r', hr', hnot'⟩ : ∃ r' ∈ l', r' ∉ l := by
      by_contra hall
      push Not at hall
      exact hmissing hall
    exact lt_asymm (h'.greatest r (h.subset r hr) hnot r' hr') (h.greatest r' (h'.subset r' hr') hnot' r hr)
  have hperm := ((hnodup h).subperm hsubset).perm_of_length_le hlength.ge
  refine hperm.eq_of_pairwise (fun a b _ _ hab hba => absurd hab (lt_asymm hba)) h.descending
    h'.descending

theorem newest_iff (h : (rows.map key).Nodup) {k : ℕ} {l : List Row} :
    Newest key k rows l ↔ (ordered key rows).reverse.take k = l :=
  ⟨fun hl => (newest_take h k).unique hl, fun hl => hl ▸ newest_take h k⟩

/-- The first page read backwards starts with the newest rows iff it holds all rows. -/
theorem take_reverse_page_iff (h : (rows.map key).Nodup) {k n : ℕ} (hk : 0 < k) :
    ((ordered key rows).take n).reverse.take k = (ordered key rows).reverse.take k ↔
      rows.length ≤ n := by
  constructor
  · intro heq
    have hlast : ((ordered key rows).take n).getLast? = (ordered key rows).getLast? := by
      have hhead := congrArg List.head? heq
      rwa [List.head?_take, List.head?_take, if_neg hk.ne', if_neg hk.ne', List.head?_reverse,
        List.head?_reverse] at hhead
    have hnone := (getLast_page_iff (p := fun _ => true) h (n := n)).mp (by simpa using hlast)
    by_contra hn
    have hdrop : (ordered key rows).drop n ≠ [] := by
      rw [ne_eq, List.drop_eq_nil_iff, length_ordered]
      exact hn
    obtain ⟨r, hr⟩ := List.exists_mem_of_ne_nil _ hdrop
    exact nomatch hnone r hr
  · intro hn
    have hall : (ordered key rows).take n = ordered key rows :=
      List.take_of_length_le (by simpa using hn)
    rw [hall]

end Lib
