import Mathlib
import GeoRisk.Lib.Pages

/-! Reading a listing to its end. A reader asks for a page, and with the cursor it came with for the
    next one, until there are no more; in between the table may grow:

        request 0    r₁ < r₂ │                    cursor key r₂
        request 1              r₃ < r₄ │          cursor key r₄
        request 2                       r₅        no more

    Each row is read once if it was there, behind the cursor, when some request was answered. -/

namespace Lib

variable {Row K C : Type} [LinearOrder K] {key : Row → K} {rows : List Row} {limit : ℕ}
  {cursor : Option K}

/-! ### One page -/

/-- A page of at most `limit` rows behind a cursor. -/
structure IsPage (key : Row → K) (rows : List Row) (limit : ℕ) (cursor : Option K)
    (answer : List Row × Option K × Bool) : Prop where
  increasing : answer.1.Pairwise fun r r' => key r < key r'
  behind : ∀ r ∈ answer.1, r ∈ rows ∧ ∀ c ∈ cursor, c < key r
  full : answer.2.2 = true → answer.1.length = limit
  next : answer.2.2 = true → ∃ last, answer.1.getLast? = some last ∧ answer.2.1 = some (key last)
  stop : answer.2.2 = false → answer.2.1 = none
  rest : ∀ r ∈ rows, (∀ c ∈ cursor, c < key r) → r ∈ answer.1 ∨ ∃ c ∈ answer.2.1, c < key r

theorem isPage_keysetPage (h : (rows.map key).Nodup) (hlimit : 1 ≤ limit) :
    IsPage key rows limit cursor (keysetPage key rows limit cursor) := by
  have hfound : ((rows.filter fun r => ∀ c ∈ cursor, c < key r).map key).Nodup :=
    h.sublist (List.filter_sublist.map _)
  have hsorted := ordered_lt hfound
  have hmem : ∀ r, r ∈ ordered key (rows.filter fun r => ∀ c ∈ cursor, c < key r) ↔
      r ∈ rows ∧ ∀ c ∈ cursor, c < key r := by
    intro r
    rw [mem_ordered, List.mem_filter, decide_eq_true_eq]
  rw [keysetPage]
  generalize ordered key (rows.filter fun r => ∀ c ∈ cursor, c < key r) = found at hsorted hmem
  have hmore : (limit < (found.take (limit + 1)).length) ↔ limit < found.length := by
    rw [List.length_take]
    omega
  have hlength : limit < found.length → (found.take limit).length = limit := by
    intro hlt
    rw [List.length_take]
    omega
  have hlast : limit < found.length → ∃ last, (found.take limit).getLast? = some last := by
    intro hlt
    refine Option.ne_none_iff_exists'.mp fun hnone => ?_
    have hnil := congrArg List.length (List.getLast?_eq_none_iff.mp hnone)
    rw [hlength hlt, List.length_nil] at hnil
    omega
  simp only [List.take_take, min_eq_left (Nat.le_succ limit), hmore]
  refine ⟨hsorted.sublist (List.take_sublist ..), fun r hr => (hmem r).mp (List.mem_of_mem_take hr),
    fun hlt => hlength (of_decide_eq_true hlt), fun hlt => ?_, fun hge => ?_, fun r hr hcursor => ?_⟩
  · obtain ⟨last, hlast⟩ := hlast (of_decide_eq_true hlt)
    exact ⟨last, hlast, by simp [of_decide_eq_true hlt, hlast]⟩
  · simp [of_decide_eq_false hge]
  · have hr := (hmem r).mpr ⟨hr, hcursor⟩
    rw [← List.take_append_drop limit found] at hr hsorted
    rcases List.mem_append.mp hr with hr | hr
    · exact .inl hr
    · -- what is not on the page stands behind its last row
      have hlt : limit < found.length := by
        by_contra hge
        rw [List.drop_of_length_le (not_lt.mp hge)] at hr
        exact List.not_mem_nil hr
      obtain ⟨last, hlast⟩ := hlast hlt
      refine .inr ⟨key last, by simp [hlt, hlast], ?_⟩
      exact (List.pairwise_append.mp hsorted).2.2 last (List.mem_of_getLast? hlast) r hr

/-! ### The reader -/

/-- The pages read so far, and what the last one came with. -/
structure Reading (Row C : Type) where
  pages : List (List Row)
  cursor : Option C
  hasMore : Bool

/-- What is read after `n` requests, the `n`-th of which `fetch n` answers or refuses. -/
def follow (fetch : ℕ → Option C → Option (List Row × Option C × Bool)) :
    ℕ → Option (Reading Row C)
  | 0 => some ⟨[], none, true⟩
  | n + 1 => (follow fetch n).bind fun s =>
    if s.hasMore then
      (fetch n s.cursor).map fun answer => ⟨s.pages ++ [answer.1], answer.2.1, answer.2.2⟩
    else some s

/-- Requests get the pages of the tables, with cursors written by `encode`; a request comes without
    a cursor or with one that was written for a row. -/
def Serves (key : Row → K) (encode : K → C) (tables : ℕ → List Row) (limit : ℕ)
    (fetch : ℕ → Option C → Option (List Row × Option C × Bool)) : Prop :=
  ∀ n position, (∀ c ∈ position, ∃ m, ∃ r ∈ tables m, key r = c) →
    fetch n (position.map encode) =
      let answer := keysetPage key (tables n) limit position
      some (answer.1, answer.2.1.map encode, answer.2.2)

/-- Whoever reads on gets every row once, in order. -/
structure ReadsExactly (key : Row → K) (decode : C → Option K) (tables : ℕ → List Row) (limit : ℕ)
    (reading : ℕ → Option (Reading Row C)) : Prop where
  /-- No request is refused. -/
  answered : ∀ n, ∃ s, reading n = some s
  /-- If there are finitely many rows in all, the reading ends. -/
  ends : (∃ all : List Row, ∀ n, tables n ⊆ all) → ∃ n s, reading n = some s ∧ s.hasMore = false
  /-- The keys increase, from page to page too; so no row is read twice. -/
  increasing : ∀ n s, reading n = some s → s.pages.flatten.Pairwise fun r r' => key r < key r'
  genuine : ∀ n s, reading n = some s → ∀ r ∈ s.pages.flatten, ∃ m < n, r ∈ tables m
  /-- A row that is there when a request is sent, with a greater key than the cursor, is read. -/
  complete : ∀ n s, reading n = some s → s.hasMore = true → ∀ r ∈ tables n,
    (∀ text ∈ s.cursor, ∃ c, decode text = some c ∧ c < key r) →
      ∀ m s', reading m = some s' → s'.hasMore = false → r ∈ s'.pages.flatten
  /-- If nothing is inserted, the pages are the table in order. -/
  whole : (∀ n, tables n = tables 0) → ∀ m s, reading m = some s → s.hasMore = false →
    s.pages.flatten = ordered key (tables 0)
  /-- Every page but the last has `limit` rows. -/
  full : ∀ n s, reading n = some s →
    ∀ page ∈ if s.hasMore then s.pages else s.pages.dropLast, page.length = limit
  /-- A cursor is read back as the key of the last row. -/
  decoded : ∀ n s, reading n = some s → ∀ text ∈ s.cursor, ∃ page r,
    s.pages.getLast? = some page ∧ page.getLast? = some r ∧ decode text = some (key r)

/-! ### What every request keeps -/

/-- The reader that gets the keys themselves as cursors. -/
def followKeys (key : Row → K) (tables : ℕ → List Row) (limit : ℕ) : ℕ → Option (Reading Row K) :=
  follow fun n cursor => some (keysetPage key (tables n) limit cursor)

/-- Where a reading stands after `n` requests. -/
structure Standing (key : Row → K) (tables : ℕ → List Row) (limit n : ℕ) (s : Reading Row K) :
    Prop where
  increasing : s.pages.flatten.Pairwise fun r r' => key r < key r'
  genuine : ∀ r ∈ s.pages.flatten, ∃ m < n, r ∈ tables m
  full : ∀ page ∈ if s.hasMore then s.pages else s.pages.dropLast, page.length = limit
  last : ∀ c ∈ s.cursor, ∃ page r, s.pages.getLast? = some page ∧ page.getLast? = some r ∧ key r = c
  passed : s.hasMore = true → ∀ r ∈ s.pages.flatten, ∃ c ∈ s.cursor, key r ≤ c
  requested : s.hasMore = true → s.pages.length = n

variable {tables : ℕ → List Row} {n : ℕ} {s : Reading Row K}

/-- A cursor is the key of a row that was there. -/
theorem Standing.cursor_genuine (h : Standing key tables limit n s) {c : K} (hc : c ∈ s.cursor) :
    ∃ m, ∃ r ∈ tables m, key r = c := by
  obtain ⟨page, r, hpage, hr, hkey⟩ := h.last c hc
  obtain ⟨m, -, hrow⟩ := h.genuine r
    (List.mem_flatten_of_mem (List.mem_of_getLast? hpage) (List.mem_of_getLast? hr))
  exact ⟨m, r, hrow, hkey⟩

/-- One request more. -/
theorem Standing.next {answer : List Row × Option K × Bool} (h : Standing key tables limit n s)
    (hmore : s.hasMore = true) (hpage : IsPage key (tables n) limit s.cursor answer) :
    Standing key tables limit (n + 1) ⟨s.pages ++ [answer.1], answer.2.1, answer.2.2⟩ := by
  have hfull := h.full
  rw [if_pos hmore] at hfull
  refine ⟨?_, ?_, ?_, ?_, ?_, ?_⟩
  · rw [List.flatten_concat, List.pairwise_append]
    refine ⟨h.increasing, hpage.increasing, fun r hr r' hr' => ?_⟩
    obtain ⟨c, hc, hle⟩ := h.passed hmore r hr
    exact hle.trans_lt ((hpage.behind r' hr').2 c hc)
  · intro r hr
    rw [List.flatten_concat] at hr
    rcases List.mem_append.mp hr with hr | hr
    · obtain ⟨m, hm, hr⟩ := h.genuine r hr
      exact ⟨m, hm.trans (Nat.lt_succ_self n), hr⟩
    · exact ⟨n, Nat.lt_succ_self n, (hpage.behind r hr).1⟩
  · intro page hp
    split at hp
    · next hmore' =>
      rcases List.mem_append.mp hp with hp | hp
      · exact hfull page hp
      · rw [List.mem_singleton.mp hp]
        exact hpage.full hmore'
    · rw [List.dropLast_concat] at hp
      exact hfull page hp
  · intro c hc
    cases hmore' : answer.2.2 with
    | false => exact nomatch (hpage.stop hmore').symm.trans hc
    | true =>
      obtain ⟨last, hlast, hnext⟩ := hpage.next hmore'
      exact ⟨answer.1, last, List.getLast?_concat, hlast, Option.some.inj (hnext.symm.trans hc)⟩
  · intro hmore' r hr
    obtain ⟨last, hlast, hnext⟩ := hpage.next hmore'
    refine ⟨key last, hnext, ?_⟩
    rw [List.flatten_concat] at hr
    rcases List.mem_append.mp hr with hr | hr
    · obtain ⟨c, hc, hle⟩ := h.passed hmore r hr
      exact hle.trans ((hpage.behind last (List.mem_of_getLast? hlast)).2 c hc).le
    · obtain ⟨before, hsplit⟩ := List.getLast?_eq_some_iff.mp hlast
      have hinc := hpage.increasing
      rw [hsplit] at hinc hr
      rcases List.mem_append.mp hr with hr | hr
      · exact ((List.pairwise_append.mp hinc).2.2 r hr last (List.mem_singleton_self _)).le
      · exact (congrArg key (List.mem_singleton.mp hr)).le
  · intro _
    rw [List.length_append, h.requested hmore, List.length_singleton]

theorem followKeys_succ (h : followKeys key tables limit n = some s) (hmore : s.hasMore = true) :
    followKeys key tables limit (n + 1) =
      let answer := keysetPage key (tables n) limit s.cursor
      some ⟨s.pages ++ [answer.1], answer.2.1, answer.2.2⟩ := by
  rw [followKeys] at h ⊢
  rw [follow, h, Option.bind_some, if_pos hmore, Option.map_some]

theorem followKeys_stays (h : followKeys key tables limit n = some s) (hmore : s.hasMore = false)
    (k : ℕ) : followKeys key tables limit (n + k) = some s := by
  induction k with
  | zero => exact h
  | succ k ih =>
    rw [followKeys] at ih ⊢
    rw [← Nat.add_assoc, follow, ih, Option.bind_some, if_neg (by simp [hmore])]

section

variable (hnodup : ∀ n, ((tables n).map key).Nodup) (hlimit : 1 ≤ limit)
include hnodup hlimit

theorem standing_followKeys (n : ℕ) :
    ∃ s, followKeys key tables limit n = some s ∧ Standing key tables limit n s := by
  induction n with
  | zero =>
    refine ⟨⟨[], none, true⟩, rfl, ?_⟩
    constructor <;> simp
  | succ n ih =>
    obtain ⟨s, hfollow, hstanding⟩ := ih
    cases hmore : s.hasMore with
    | false =>
      refine ⟨s, followKeys_stays hfollow hmore 1, ⟨hstanding.increasing, fun r hr => ?_,
        hstanding.full, hstanding.last, fun h => ?_, fun h => ?_⟩⟩
      · obtain ⟨m, hm, hr⟩ := hstanding.genuine r hr
        exact ⟨m, hm.trans (Nat.lt_succ_self n), hr⟩
      · exact nomatch hmore.symm.trans h
      · exact nomatch hmore.symm.trans h
    | true =>
      exact ⟨_, followKeys_succ hfollow hmore,
        hstanding.next hmore (isPage_keysetPage (hnodup n) hlimit)⟩

/-- A row behind the cursor is read in time, or is behind the cursor still. -/
theorem read_or_behind (hgrow : ∀ n, tables n ⊆ tables (n + 1))
    (hn : followKeys key tables limit n = some s) (hmore : s.hasMore = true) {r : Row}
    (hr : r ∈ tables n) (hbehind : ∀ c ∈ s.cursor, c < key r) (k : ℕ) :
    ∃ s', followKeys key tables limit (n + k) = some s' ∧ (r ∈ s'.pages.flatten ∨
      s'.hasMore = true ∧ r ∈ tables (n + k) ∧ ∀ c ∈ s'.cursor, c < key r) := by
  induction k with
  | zero => exact ⟨s, hn, .inr ⟨hmore, hr, hbehind⟩⟩
  | succ k ih =>
    obtain ⟨s', hs', hread⟩ := ih
    cases hmore' : s'.hasMore with
    | false =>
      refine ⟨s', followKeys_stays hs' hmore' 1, .inl (hread.resolve_right ?_)⟩
      rintro ⟨h, -⟩
      exact nomatch hmore'.symm.trans h
    | true =>
      refine ⟨_, followKeys_succ hs' hmore', ?_⟩
      rw [List.flatten_concat]
      rcases hread with hread | ⟨-, hr', hbehind'⟩
      · exact .inl (List.mem_append_left _ hread)
      · have hpage : IsPage key (tables (n + k)) limit s'.cursor _ :=
          isPage_keysetPage (hnodup (n + k)) hlimit
        rcases hpage.rest r hr' hbehind' with hmem | ⟨c, hc, hlt⟩
        · exact .inl (List.mem_append_right _ hmem)
        · refine .inr ⟨?_, hgrow _ hr', fun c' hc' => ?_⟩
          · by_contra hstop
            exact nomatch (hpage.stop (Bool.eq_false_iff.mpr hstop)).symm.trans hc
          · rwa [Option.some.inj (hc'.symm.trans hc)]

/-- Full pages of finitely many rows come to an end. -/
theorem followKeys_ends {all : List Row} (hall : ∀ n, tables n ⊆ all) :
    ∃ n s, followKeys key tables limit n = some s ∧ s.hasMore = false := by
  obtain ⟨s, hs, hstanding⟩ := standing_followKeys hnodup hlimit (all.length + 1)
  refine ⟨all.length + 1, s, hs, ?_⟩
  by_contra hmore
  rw [Bool.not_eq_false] at hmore
  have hlength : s.pages.flatten.length = (all.length + 1) * limit := by
    have hfull := hstanding.full
    rw [if_pos hmore] at hfull
    rw [List.length_flatten, List.map_eq_replicate_iff.mpr hfull, List.sum_replicate,
      hstanding.requested hmore, smul_eq_mul]
  have hnodup' : s.pages.flatten.Nodup :=
    hstanding.increasing.imp fun hlt heq => hlt.ne (congrArg key heq)
  have hsubset : s.pages.flatten ⊆ all := fun r hr => by
    obtain ⟨m, -, hr⟩ := hstanding.genuine r hr
    exact hall m hr
  have hle := (hnodup'.subperm hsubset).length_le
  rw [hlength] at hle
  have hmul : all.length + 1 ≤ (all.length + 1) * limit := Nat.le_mul_of_pos_right _ hlimit
  omega

end

/-! ### Cursors that are written -/

/-- With the cursors written by `encode`. -/
def Reading.written (encode : K → C) (s : Reading Row K) : Reading Row C :=
  ⟨s.pages, s.cursor.map encode, s.hasMore⟩

theorem follow_eq_written {encode : K → C}
    {fetch : ℕ → Option C → Option (List Row × Option C × Bool)}
    (hnodup : ∀ n, ((tables n).map key).Nodup) (hlimit : 1 ≤ limit)
    (hserves : Serves key encode tables limit fetch) (n : ℕ) :
    follow fetch n = (followKeys key tables limit n).map (Reading.written encode) := by
  induction n with
  | zero => rfl
  | succ n ih =>
    obtain ⟨s, hs, hstanding⟩ := standing_followKeys hnodup hlimit n
    rw [follow, ih, hs, Option.map_some, Option.bind_some]
    cases hmore : s.hasMore with
    | false =>
      rw [followKeys_stays hs hmore 1, if_neg (by simp [Reading.written, hmore])]
      rfl
    | true =>
      rw [followKeys_succ hs hmore, if_pos (by simp [Reading.written, hmore]), Reading.written,
        hserves n s.cursor fun c => hstanding.cursor_genuine]
      rfl

/-- Pages in the order of the key, cursors that are read back and tables that only grow: this is
    all a reader needs. -/
theorem readsExactly {encode : K → C} {decode : C → Option K}
    {fetch : ℕ → Option C → Option (List Row × Option C × Bool)}
    (hnodup : ∀ n, ((tables n).map key).Nodup) (hgrow : ∀ n, tables n ⊆ tables (n + 1))
    (hlimit : 1 ≤ limit) (hdecode : ∀ n, ∀ r ∈ tables n, decode (encode (key r)) = some (key r))
    (hserves : Serves key encode tables limit fetch) :
    ReadsExactly key decode tables limit (follow fetch) := by
  have hsim := follow_eq_written hnodup hlimit hserves
  have hstanding : ∀ n s, follow fetch n = some s → ∃ t, s = t.written encode ∧
      followKeys key tables limit n = some t ∧ Standing key tables limit n t := by
    intro n s hs
    obtain ⟨t, ht, hstanding⟩ := standing_followKeys hnodup hlimit n
    rw [hsim n, ht, Option.map_some, Option.some.injEq] at hs
    exact ⟨t, hs.symm, ht, hstanding⟩
  have hcomplete : ∀ n s, follow fetch n = some s → s.hasMore = true → ∀ r ∈ tables n,
      (∀ text ∈ s.cursor, ∃ c, decode text = some c ∧ c < key r) →
        ∀ m s', follow fetch m = some s' → s'.hasMore = false → r ∈ s'.pages.flatten := by
    intro n s hs hmore r hr hbehind m s' hs' hstop
    obtain ⟨t, rfl, ht, hstanding_t⟩ := hstanding n s hs
    obtain ⟨t', rfl, ht', -⟩ := hstanding m s' hs'
    have hkeys : ∀ c ∈ t.cursor, c < key r := by
      intro c hc
      obtain ⟨k, last, hrow, rfl⟩ := hstanding_t.cursor_genuine hc
      obtain ⟨c, hread, hlt⟩ := hbehind (encode (key last)) (Option.mem_map_of_mem encode hc)
      rwa [← Option.some.inj ((hdecode k last hrow).symm.trans hread)] at hlt
    rcases Nat.le_total m n with hle | hle
    · -- the reading would have ended before the request
      obtain ⟨k, rfl⟩ := Nat.exists_eq_add_of_le hle
      have heq := (followKeys_stays ht' hstop k).symm.trans ht
      rw [Option.some.injEq] at heq
      exact nomatch hstop.symm.trans ((congrArg Reading.hasMore heq).trans hmore)
    · obtain ⟨k, rfl⟩ := Nat.exists_eq_add_of_le hle
      obtain ⟨t'', ht'', hread⟩ := read_or_behind hnodup hlimit hgrow ht hmore hr hkeys k
      obtain rfl : t' = t'' := Option.some.inj (ht'.symm.trans ht'')
      refine hread.resolve_right ?_
      rintro ⟨h, -⟩
      exact nomatch hstop.symm.trans h
  refine ⟨fun n => ?_, ?_, fun n s hs => ?_, fun n s hs => ?_, hcomplete, fun hsame m s hs hstop => ?_,
    fun n s hs => ?_, fun n s hs text htext => ?_⟩
  · obtain ⟨t, ht, -⟩ := standing_followKeys hnodup hlimit n
    exact ⟨t.written encode, by rw [hsim n, ht, Option.map_some]⟩
  · rintro ⟨all, hall⟩
    obtain ⟨n, t, ht, hstop⟩ := followKeys_ends hnodup hlimit hall
    exact ⟨n, t.written encode, by rw [hsim n, ht, Option.map_some], hstop⟩
  · obtain ⟨t, rfl, -, hstanding⟩ := hstanding n s hs
    exact hstanding.increasing
  · obtain ⟨t, rfl, -, hstanding⟩ := hstanding n s hs
    exact hstanding.genuine
  · obtain ⟨t, rfl, -, hstanding⟩ := hstanding m s hs
    refine List.Perm.eq_of_pairwise (fun r r' _ _ h h' => absurd h (lt_asymm h'))
      hstanding.increasing (ordered_lt (hnodup 0)) ?_
    refine (List.perm_ext_iff_of_nodup ?_ (nodup_ordered (hnodup 0))).mpr fun r => ?_
    · exact hstanding.increasing.imp fun hlt heq => hlt.ne (congrArg key heq)
    · rw [mem_ordered]
      constructor
      · intro hr
        obtain ⟨k, -, hr⟩ := hstanding.genuine r hr
        rwa [hsame k] at hr
      · intro hr
        exact hcomplete 0 ⟨[], none, true⟩ rfl rfl r hr (fun text h => nomatch h) m _ hs hstop
  · obtain ⟨t, rfl, -, hstanding⟩ := hstanding n s hs
    exact hstanding.full
  · obtain ⟨t, rfl, -, hstanding⟩ := hstanding n s hs
    obtain ⟨c, hc, rfl⟩ := Option.mem_map.mp htext
    obtain ⟨page, last, hpage, hlast, rfl⟩ := hstanding.last c hc
    obtain ⟨m, row, hrow, hkey⟩ := hstanding.cursor_genuine hc
    exact ⟨page, last, hpage, hlast, hkey ▸ hdecode m row hrow⟩

end Lib
