import Mathlib

/-! Keyed tables: rows in insertion order, no two with the same key, read by key and written by
    upsert. A table is the model of a database table with a primary key (the row is replaced where
    it stands, or appended) and of an insertion-ordered dictionary (`Row = κ × β`, key `Prod.fst`).
    Key uniqueness is a field, so an ill-keyed table cannot be built. -/

namespace Lib

/-- Items are listed once each if each element lists its own once, under a key no other element has. -/
theorem nodup_flatMap {α β κ : Type} {l : List α} {f : α → List β} {k : α → κ} (g : β → κ)
    (hk : (l.map k).Nodup) (hkey : ∀ x ∈ l, ∀ y ∈ f x, g y = k x)
    (heach : ∀ x ∈ l, (f x).Nodup) : (l.flatMap f).Nodup := by
  refine List.nodup_flatMap.mpr ⟨heach, ?_⟩
  rw [List.Nodup, List.pairwise_map] at hk
  refine hk.imp_of_mem fun hx hx' hne y hy hy' => hne ?_
  rw [← hkey _ hx _ hy, hkey _ hx' _ hy']

/-- A key that occurs among different ones occurs once. -/
theorem length_filter_eq_one {α κ : Type} [DecidableEq κ] {l : List α} {k : α → κ}
    (h : (l.map k).Nodup) {x : α} (hx : x ∈ l) :
    (l.filter fun y => k y = k x).length = 1 := by
  have hcount := List.count_eq_one_of_mem h (List.mem_map_of_mem hx)
  rw [List.count, List.countP_map] at hcount
  rw [← List.countP_eq_length_filter, ← hcount]
  refine List.countP_congr fun y _ => ?_
  simp

/-- Rows in insertion order, no two with one key. -/
structure Table {Row κ : Type} (key : Row → κ) where
  rows : List Row
  nodup : (rows.map key).Nodup

namespace Table

variable {Row κ : Type} [DecidableEq κ] {key : Row → κ}

/-- No rows. -/
def empty : Table key := ⟨[], by simp⟩

/-- The row with a key. -/
def get (t : Table key) (k : κ) : Option Row := t.rows.find? (fun r => key r = k)

/-- The rows after an upsert: in place of the row with this key, else at the end. -/
def putRows (key : Row → κ) (rows : List Row) (r : Row) : List Row :=
  if key r ∈ rows.map key then rows.map (fun r' => if key r' = key r then r else r')
  else rows ++ [r]

theorem putRows_keys (rows : List Row) (r : Row) :
    (putRows key rows r).map key =
      if key r ∈ rows.map key then rows.map key else rows.map key ++ [key r] := by
  unfold putRows
  split
  · rw [List.map_map]
    refine List.map_congr_left fun r' _ => ?_
    by_cases h : key r' = key r <;> simp [h]
  · simp

/-- Upsert by key. -/
def put (t : Table key) (r : Row) : Table key where
  rows := putRows key t.rows r
  nodup := by
    rw [putRows_keys]
    split
    · exact t.nodup
    · next h => exact List.nodup_append.mpr ⟨t.nodup, by simp, by
        intro a ha b hb
        rw [List.mem_singleton] at hb
        rintro rfl
        exact h (hb ▸ ha)⟩

/-- The rows that satisfy `p`. -/
def filter (t : Table key) (p : Row → Bool) : Table key where
  rows := t.rows.filter p
  nodup := t.nodup.sublist (List.filter_sublist.map key)

omit [DecidableEq κ] in
/-- Rows of the table differ in what tells their keys. -/
theorem nodup_map_filter {β : Type} {f : Row → β} (t : Table key) (p : Row → Bool)
    (hf : ∀ r r', f r = f r' → key r = key r') : ((t.filter p).rows.map f).Nodup := by
  have hkeys := (t.filter p).nodup
  rw [List.Nodup, List.pairwise_map] at hkeys ⊢
  exact hkeys.imp fun hne heq => hne (hf _ _ heq)

@[simp] theorem get_empty (k : κ) : (empty : Table key).get k = none := rfl

theorem key_of_get {t : Table key} {k : κ} {r : Row} (h : t.get k = some r) : key r = k := by
  simpa using List.find?_some h

theorem mem_of_get {t : Table key} {k : κ} {r : Row} (h : t.get k = some r) : r ∈ t.rows :=
  List.mem_of_find?_eq_some h

/-- A row of the table is the one found under its key. -/
theorem get_of_mem {t : Table key} {r : Row} (h : r ∈ t.rows) : t.get (key r) = some r := by
  cases hg : t.get (key r) with
  | none =>
    rw [get, List.find?_eq_none] at hg
    exact absurd (hg r h) (by simp)
  | some r' =>
    have hk : key r' = key r := key_of_get hg
    rw [List.inj_on_of_nodup_map t.nodup (mem_of_get hg) h hk]

theorem get_eq_none_iff {t : Table key} {k : κ} : t.get k = none ↔ k ∉ t.rows.map key := by
  rw [get, List.find?_eq_none]
  simp only [decide_eq_true_eq, List.mem_map, not_exists, not_and]

theorem mem_put_rows {t : Table key} {r r' : Row} :
    r' ∈ (t.put r).rows ↔ r' = r ∨ (r' ∈ t.rows ∧ key r' ≠ key r) := by
  simp only [put, putRows]
  split
  · next h =>
    obtain ⟨s, hs, hk⟩ := List.mem_map.mp h
    rw [List.mem_map]
    constructor
    · rintro ⟨u, hu, rfl⟩
      by_cases hc : key u = key r
      · simp [hc]
      · simpa [hc] using Or.inr hu
    · rintro (rfl | ⟨hm, hne⟩)
      · exact ⟨s, hs, by simp [hk]⟩
      · exact ⟨r', hm, by simp [hne]⟩
  · next h =>
    rw [List.mem_append, List.mem_singleton]
    constructor
    · rintro (hm | rfl)
      · exact Or.inr ⟨hm, fun hk => h (hk ▸ List.mem_map_of_mem hm)⟩
      · exact Or.inl rfl
    · rintro (rfl | ⟨hm, _⟩)
      · exact Or.inr rfl
      · exact Or.inl hm

@[simp] theorem get_put_self (t : Table key) (r : Row) : (t.put r).get (key r) = some r :=
  get_of_mem (mem_put_rows.mpr (Or.inl rfl))

theorem get_put_of_ne (t : Table key) {r : Row} {k : κ} (h : k ≠ key r) :
    (t.put r).get k = t.get k := by
  cases hg : t.get k with
  | some r' =>
    have hk := key_of_get hg
    have hm : r' ∈ (t.put r).rows :=
      mem_put_rows.mpr (Or.inr ⟨mem_of_get hg, by rw [hk]; exact h⟩)
    rw [← hk]; exact get_of_mem hm
  | none =>
    rw [get_eq_none_iff] at hg ⊢
    intro hm
    obtain ⟨r', hr', rfl⟩ := List.mem_map.mp hm
    rcases mem_put_rows.mp hr' with rfl | ⟨hin, _⟩
    · exact h rfl
    · exact hg (List.mem_map_of_mem hin)

theorem get_put (t : Table key) (r : Row) (k : κ) :
    (t.put r).get k = if k = key r then some r else t.get k := by
  split
  · next h => rw [h, get_put_self]
  · next h => exact get_put_of_ne t h

/-- No upsert takes a key away. -/
theorem isSome_get_put (t : Table key) (r : Row) {k : κ} (h : (t.get k).isSome) :
    ((t.put r).get k).isSome := by
  rw [get_put]
  split
  · rfl
  · exact h

theorem put_rows_of_fresh {t : Table key} {r : Row} (h : t.get (key r) = none) :
    (t.put r).rows = t.rows ++ [r] := by
  rw [get_eq_none_iff] at h
  simp only [put, putRows, if_neg h]

theorem put_rows_of_get {t : Table key} {r old : Row} (h : t.get (key r) = some old) :
    (t.put r).rows = t.rows.map (fun r' => if key r' = key r then r else r') := by
  have hk : key r ∈ t.rows.map key := key_of_get h ▸ List.mem_map_of_mem (mem_of_get h)
  simp only [put, putRows, if_pos hk]

/-- An upsert that agrees on `f` with the row it replaces changes no value of `f`. -/
theorem map_put_rows {β : Type} {f : Row → β} {t : Table key} {r old : Row}
    (h : t.get (key r) = some old) (hf : f old = f r) : (t.put r).rows.map f = t.rows.map f := by
  rw [put_rows_of_get h, List.map_map]
  refine List.map_congr_left fun r' hr' => ?_
  by_cases hk : key r' = key r
  · have hold : r' = old :=
      List.inj_on_of_nodup_map t.nodup hr' (mem_of_get h) (hk.trans (key_of_get h).symm)
    rw [Function.comp, if_pos hk, hold, hf]
  · rw [Function.comp, if_neg hk]

/-- An upsert that agrees with the row it replaces on `p` is an upsert among the rows that satisfy
    `p`, or none at all. -/
theorem filter_put_rows {t : Table key} {r : Row} {p : Row → Bool}
    (hp : ∀ old, t.get (key r) = some old → p old = p r) :
    (t.put r).rows.filter p = if p r then putRows key (t.rows.filter p) r else t.rows.filter p := by
  cases hg : t.get (key r) with
  | none =>
    have hk : key r ∉ (t.rows.filter p).map key := fun hm => by
      obtain ⟨r', hr', heq⟩ := List.mem_map.mp hm
      exact get_eq_none_iff.mp hg (heq ▸ List.mem_map_of_mem (List.mem_of_mem_filter hr'))
    rw [put_rows_of_fresh hg, List.filter_append, putRows, if_neg hk]
    by_cases hr : p r <;> simp [hr]
  | some old =>
    have hmem := mem_of_get hg
    have hkey := key_of_get hg
    have hold : ∀ r' ∈ t.rows, key r' = key r → r' = old := fun r' hr' hk =>
      List.inj_on_of_nodup_map t.nodup hr' hmem (hk.trans hkey.symm)
    have hsame : t.rows.filter (p ∘ fun r' => if key r' = key r then r else r') =
        t.rows.filter p := by
      refine List.filter_congr fun r' hr' => ?_
      by_cases hk : key r' = key r
      · rw [Function.comp, if_pos hk, hold r' hr' hk, hp old hg]
      · rw [Function.comp, if_neg hk]
    rw [put_rows_of_get hg, List.filter_map, hsame]
    by_cases hr : p r
    · have hk : key r ∈ (t.rows.filter p).map key := hkey ▸ List.mem_map_of_mem
        (List.mem_filter.mpr ⟨hmem, (hp old hg).trans hr⟩)
      rw [if_pos hr, putRows, if_pos hk]
    · rw [if_neg hr]
      refine (List.map_congr_left fun r' hr' => ?_).trans (List.map_id _)
      obtain ⟨hr', hpr⟩ := List.mem_filter.mp hr'
      by_cases hk : key r' = key r
      · rw [hold r' hr' hk, hp old hg] at hpr
        exact absurd hpr hr
      · rw [if_neg hk, id]

/-- What is found among the rows that satisfy `p`. -/
theorem get_of_filter {t u : Table key} {p : Row → Bool} (h : u.rows = t.rows.filter p) (k : κ) :
    u.get k = (t.get k).filter p := by
  cases hg : t.get k with
  | none =>
    rw [Option.filter_none, get_eq_none_iff, h]
    exact fun hm => get_eq_none_iff.mp hg
      (List.map_subset _ (fun _ hr => List.mem_of_mem_filter hr) hm)
  | some r =>
    have hk := key_of_get hg
    by_cases hp : p r
    · rw [Option.filter_some, if_pos hp, ← hk]
      exact get_of_mem (h ▸ List.mem_filter.mpr ⟨mem_of_get hg, hp⟩)
    · rw [Option.filter_some, if_neg hp, get_eq_none_iff, h]
      intro hm
      obtain ⟨r', hr', heq⟩ := List.mem_map.mp hm
      obtain ⟨hr', hp'⟩ := List.mem_filter.mp hr'
      rw [List.inj_on_of_nodup_map t.nodup hr' (mem_of_get hg) (heq.trans hk.symm)] at hp'
      exact hp hp'

/-! ### Tables over time -/

/-- From `t` to `t'` no row goes away, and each is `R`-related to what becomes of it. -/
def Kept (R : Row → Row → Prop) (t t' : Table key) : Prop :=
  ∀ k r, t.get k = some r → ∃ r', t'.get k = some r' ∧ R r r'

section Kept

variable {R : Row → Row → Prop} {t t' t'' : Table key}

theorem Kept.refl (hR : ∀ r, R r r) (t : Table key) : Kept R t t := fun _ r h => ⟨r, h, hR r⟩

theorem Kept.trans (hR : ∀ {a b c}, R a b → R b c → R a c) (h : Kept R t t') (h' : Kept R t' t'') :
    Kept R t t'' := by
  intro k r hr
  obtain ⟨r₁, hr₁, h₁⟩ := h k r hr
  obtain ⟨r₂, hr₂, h₂⟩ := h' k r₁ hr₁
  exact ⟨r₂, hr₂, hR h₁ h₂⟩

/-- What becomes of a row of the table. -/
theorem Kept.row (h : Kept R t t') {r : Row} (hr : r ∈ t.rows) : ∃ r' ∈ t'.rows, R r r' := by
  obtain ⟨r', hr', hR⟩ := h (key r) r (get_of_mem hr)
  exact ⟨r', mem_of_get hr', hR⟩

/-- An upsert keeps the rows if the one it replaces is related to it. -/
theorem kept_put (hR : ∀ r, R r r) {r : Row} (h : ∀ old, t.get (key r) = some old → R old r) :
    Kept R t (t.put r) := by
  intro k old hold
  rw [get_put]
  split
  · next hk => exact ⟨r, rfl, h old (by rw [← hk]; exact hold)⟩
  · exact ⟨old, hold, hR old⟩

end Kept

end Table

end Lib
