import Mathlib
import GeoRisk.Lib.Runs
import GeoRisk.Lib.Table
import GeoRisk.Lib.Traces

/-! Numbers drawn as one more than the greatest in use. A transaction draws them over what is
    committed when it looks, and commits its rows later; nothing keeps another from drawing the same
    number in between:

        draw max + 1 ──────────────────────────▶ commit
                        draw max + 1 ──▶ commit

    The numbers of the committed rows are 1, …, n exactly as long as nothing has been committed, when
    a transaction commits, since it drew its first number. -/

namespace Lib

/-- `coalesce(max(number), 0) + 1`. -/
def nextNumber (ns : List ℕ) : ℕ := ns.foldl max 0 + 1

/-- The numbers are 1, …, n, each once. -/
def Dense (ns : List ℕ) : Prop := ns.Perm (List.range' 1 ns.length)

instance (ns : List ℕ) : Decidable (Dense ns) := inferInstanceAs (Decidable (List.Perm ..))

/-- The numbers of a transaction after further draws, over these committed ones; it sees its own. -/
def drawn (own : List ℕ) : List (List ℕ) → List ℕ
  | [] => own
  | ns :: seen => drawn (own ++ [nextNumber (ns ++ own)]) seen

/-! ### Dense lists -/

theorem foldl_max_le_iff {ns : List ℕ} {a m : ℕ} :
    ns.foldl max a ≤ m ↔ a ≤ m ∧ ∀ n ∈ ns, n ≤ m := by
  induction ns generalizing a with
  | nil => simp
  | cons n ns ih => rw [List.foldl_cons, ih]; simp [and_assoc]

theorem nextNumber_eq (ns : List ℕ) : nextNumber ns = ns.max?.getD 0 + 1 := by
  cases ns with
  | nil => rfl
  | cons n ns => simp [nextNumber, List.max?]

section Dense

variable {ns : List ℕ} {n : ℕ}

theorem Dense.mem_iff (h : Dense ns) : n ∈ ns ↔ 1 ≤ n ∧ n ≤ ns.length := by
  rw [List.Perm.mem_iff h, List.mem_range'_1]
  omega

theorem Dense.nodup (h : Dense ns) : ns.Nodup := h.symm.nodup (List.nodup_range' ..)

/-- The greatest number is the length. -/
theorem Dense.foldl_max (h : Dense ns) : ns.foldl max 0 = ns.length := by
  refine le_antisymm (foldl_max_le_iff.mpr ⟨Nat.zero_le _, fun n hn => (h.mem_iff.mp hn).2⟩) ?_
  rcases Nat.eq_zero_or_pos ns.length with hzero | hpos
  · rw [hzero]; exact Nat.zero_le _
  · exact (foldl_max_le_iff.mp le_rfl).2 _ (h.mem_iff.mpr ⟨hpos, le_rfl⟩)

theorem Dense.nextNumber (h : Dense ns) : nextNumber ns = ns.length + 1 := by
  rw [Lib.nextNumber, h.foldl_max]

/-- One more than a dense list, followed by its successors. -/
theorem Dense.append_range' (h : Dense ns) (k : ℕ) : Dense (ns ++ List.range' (ns.length + 1) k) := by
  unfold Dense
  rw [List.length_append, List.length_range', ← List.range'_append_1, Nat.add_comm 1 ns.length]
  exact List.Perm.append_right _ h

end Dense

/-! ### Draws -/

theorem mem_drawn {own : List ℕ} {n : ℕ} (h : n ∈ own) (seen : List (List ℕ)) :
    n ∈ drawn own seen := by
  induction seen generalizing own with
  | nil => exact h
  | cons ns seen ih => exact ih (List.mem_append_left _ h)

theorem drawn_concat (own : List ℕ) (seen : List (List ℕ)) (ns : List ℕ) :
    drawn own (seen ++ [ns]) = drawn own seen ++ [nextNumber (ns ++ drawn own seen)] := by
  induction seen generalizing own with
  | nil => rfl
  | cons l seen ih => exact ih _

/-- After a first draw over as many numbers as there are now, the others count on. -/
theorem drawn_range' {m j : ℕ} {seen : List (List ℕ)} (hj : 0 < j)
    (hseen : ∀ l ∈ seen, Dense l ∧ l.length ≤ m) :
    drawn (List.range' (m + 1) j) seen = List.range' (m + 1) (j + seen.length) := by
  induction seen generalizing j with
  | nil => rfl
  | cons l seen ih =>
    obtain ⟨hl, hlen⟩ := hseen l (List.mem_cons_self ..)
    -- what has been drawn already is above all that is seen
    have hmax : (l ++ List.range' (m + 1) j).foldl max 0 = m + j := by
      refine le_antisymm (foldl_max_le_iff.mpr ⟨Nat.zero_le _, fun n hn => ?_⟩) ?_
      · rcases List.mem_append.mp hn with hn | hn
        · have hle := (hl.mem_iff.mp hn).2
          omega
        · have hlt := (List.mem_range'_1.mp hn).2
          omega
      · refine (foldl_max_le_iff.mp le_rfl).2 _ (List.mem_append_right _ ?_)
        rw [List.mem_range'_1]
        omega
    have hnext : nextNumber (l ++ List.range' (m + 1) j) = m + 1 + j := by
      rw [nextNumber, hmax]
      omega
    rw [drawn, hnext, ← List.range'_1_concat,
      ih (Nat.succ_pos j) fun l' hl' => hseen l' (List.mem_cons_of_mem _ hl'), List.length_cons]
    congr 1
    omega

/-- Drawing over earlier states of a dense list extends it densely iff the first draw is over the
    list as it is now. -/
theorem dense_append_drawn_iff {ns : List ℕ} {seen : List (List ℕ)} (hns : Dense ns)
    (hseen : ∀ l ∈ seen, Dense l ∧ l <+: ns) :
    Dense (ns ++ drawn [] seen) ↔ ∀ l, seen.head? = some l → l = ns := by
  cases seen with
  | nil => simpa [drawn] using hns
  | cons l seen =>
    obtain ⟨hl, hpre⟩ := hseen l (List.mem_cons_self ..)
    have hfirst : nextNumber (l ++ []) = l.length + 1 := by rw [List.append_nil, hl.nextNumber]
    rw [drawn, hfirst, List.nil_append]
    constructor
    · rintro h l' hl'
      obtain rfl : l = l' := by simpa using hl'
      by_contra hne
      -- the number drawn has been committed in the meantime
      have hlt : l.length < ns.length :=
        lt_of_le_of_ne hpre.length_le fun heq => hne (hpre.eq_of_length heq)
      have hold : l.length + 1 ∈ ns := hns.mem_iff.mpr ⟨by omega, hlt⟩
      have hnew : l.length + 1 ∈ drawn [l.length + 1] seen := mem_drawn (List.mem_singleton_self _) _
      exact List.disjoint_of_nodup_append h.nodup hold hnew
    · intro h
      obtain rfl := h l rfl
      have hrest := drawn_range' (m := l.length) Nat.one_pos fun l' hl' =>
        (hseen l' (List.mem_cons_of_mem _ hl')).imp_right fun hp => hp.length_le
      rw [show [l.length + 1] = List.range' (l.length + 1) 1 from rfl, hrest]
      exact hns.append_range' _

/-! ### Rows numbered under keys -/

section Rows

variable {Row Key : Type} [DecidableEq Key] {group : Row → Key} {number : Row → ℕ}

/-- The numbers of the rows under a key. -/
def numbersUnder (group : Row → Key) (number : Row → ℕ) (rows : List Row) (k : Key) : List ℕ :=
  (rows.filter (group · = k)).map number

theorem numbersUnder_concat (rows : List Row) (r : Row) (k : Key) :
    numbersUnder group number (rows ++ [r]) k =
      numbersUnder group number rows k ++ if group r = k then [number r] else [] := by
  unfold numbersUnder
  rw [List.filter_append, List.map_append]
  by_cases h : group r = k <;> simp [h]

/-- Rows that keep their keys and numbers. -/
theorem numbersUnder_congr {rows rows' : List Row}
    (h : rows'.map (fun r => (group r, number r)) = rows.map fun r => (group r, number r)) (k : Key) :
    numbersUnder group number rows' k = numbersUnder group number rows k := by
  have hpairs : ∀ l : List Row, numbersUnder group number l k =
      ((l.map fun r => (group r, number r)).filter (·.1 = k)).map Prod.snd := by
    intro l
    rw [List.filter_map, List.map_map]
    rfl
  rw [hpairs, hpairs, h]

/-- An insert under a fresh key. -/
theorem numbersUnder_put_fresh {κ : Type} [DecidableEq κ] {key : Row → κ} {t : Table key} {r : Row}
    (h : t.get (key r) = none) (k : Key) :
    numbersUnder group number (t.put r).rows k =
      numbersUnder group number t.rows k ++ if group r = k then [number r] else [] := by
  rw [Table.put_rows_of_fresh h, numbersUnder_concat]

/-- An update that keeps the key and the number. -/
theorem numbersUnder_put_same {κ : Type} [DecidableEq κ] {key : Row → κ} {t : Table key} {r old : Row}
    (h : t.get (key r) = some old) (hgroup : group old = group r) (hnumber : number old = number r)
    (k : Key) :
    numbersUnder group number (t.put r).rows k = numbersUnder group number t.rows k :=
  numbersUnder_congr (Table.map_put_rows h (by rw [hgroup, hnumber])) k

/-- `order by number desc limit 1`: a row of the greatest number. -/
def IsLatest (number : Row → ℕ) (rows : List Row) (r : Row) : Prop :=
  r ∈ rows ∧ ∀ r' ∈ rows, number r' ≤ number r

/-- Rows of different numbers have one latest row at most, and so have some of them. -/
theorem isLatest_unique {rows some : List Row} {r r' : Row} (h : (rows.map number).Nodup)
    (hsome : some ⊆ rows) (hr : IsLatest number some r) (hr' : IsLatest number some r') : r = r' :=
  List.inj_on_of_nodup_map h (hsome hr.1) (hsome hr'.1) (le_antisymm (hr'.2 r hr.1) (hr.2 r' hr'.1))

end Rows

/-! ### Every interleaving -/

section Traced

variable {ι D I A : Type}

/-- The commit adds the numbers that were drawn over some of the tables read, first over `first`. -/
def AddsDrawn (numbers : D → List ℕ) (first : Option D) (reads : List (I × D))
    (write : D → Option D) : Prop :=
  ∃ seen : List D, (∀ d ∈ seen, d ∈ reads.map Prod.snd) ∧ seen.head? = first ∧
    ∀ d d', write d = some d' → numbers d' = numbers d ++ drawn [] (seen.map numbers)

/-- The commit adds one row under `key`, if any, with the next number over what was read last. -/
structure InsertsNext {Key : Type} (numbers : Key → D → List ℕ) (key : Option Key)
    (reads : List (I × D)) (write : D → Option D) : Prop where
  inserts : ∀ k, key = some k → ∃ r, reads.getLast? = some r ∧ ∀ d d', write d = some d' →
    numbers k d' = numbers k d ++ [nextNumber (numbers k r.2)]
  others : ∀ k, key ≠ some k → ∀ d d', write d = some d' → numbers k d' = numbers k d

/-- The tables read last, by a session that numbers a row under `k`. -/
def lastDrawn {Key : Type} [DecidableEq Key] (key : Option Key) (k : Key) (reads : List (I × D)) :
    Option D :=
  if key = some k then reads.getLast?.map Prod.snd else none

theorem InsertsNext.addsDrawn {Key : Type} [DecidableEq Key] {numbers : Key → D → List ℕ}
    {key : Option Key} {reads : List (I × D)} {write : D → Option D}
    (h : InsertsNext numbers key reads write) (k : Key) :
    AddsDrawn (numbers k) (lastDrawn key k reads) reads write := by
  by_cases hkey : key = some k
  · obtain ⟨r, hr, hwrite⟩ := h.inserts k hkey
    refine ⟨[r.2], fun d hd => ?_, by rw [lastDrawn, if_pos hkey, hr]; rfl, fun d d' hd => ?_⟩
    · rw [List.mem_singleton.mp hd]
      exact List.mem_map_of_mem (List.mem_of_getLast? hr)
    · rw [hwrite d d' hd]
      simp [drawn]
  · refine ⟨[], by simp, by rw [lastDrawn, if_neg hkey]; rfl, fun d d' hd => ?_⟩
    rw [h.others k hkey d d' hd]
    simp [drawn]

/-- The insert of one row, under a fresh key of its table, with the next version over what was read
    last; `inj` says which numbers are those of the table. -/
theorem InsertsNext.of_put {Row κ Sub Key : Type} [DecidableEq κ] [DecidableEq Sub] {key : Row → κ}
    {group : Row → Sub} {number : Row → ℕ} {numbers : Key → D → List ℕ}
    {table : D → Table key} {row : Row} {k : Sub} {reads : List (I × D)} {x : I} {db : D}
    {write : D → Option D} (inj : Sub → Key)
    (hmine : ∀ k d, numbers (inj k) d = numbersUnder group number (table d).rows k)
    (hwrite : ∀ d d', write d = some d' → (table d).get (key row) = none ∧
      table d' = (table d).put row ∧ ∀ k', (∀ k, inj k ≠ k') → numbers k' d' = numbers k' d)
    (hgroup : group row = k) (hnumber : number row = nextNumber (numbers (inj k) db)) :
    InsertsNext numbers (some (inj k)) (reads ++ [(x, db)]) write := by
  have hrow : ∀ j d d', write d = some d' → numbers (inj j) d' =
      numbers (inj j) d ++ if k = j then [number row] else [] := by
    intro j d d' h
    obtain ⟨hfresh, hput, -⟩ := hwrite d d' h
    rw [hmine, hmine, hput, numbersUnder_put_fresh hfresh, hgroup]
  constructor
  · intro k' hk'
    cases hk'
    refine ⟨(x, db), by simp, fun d d' h => ?_⟩
    rw [hrow k d d' h, if_pos rfl, hnumber]
  · intro k' hk' d d' h
    by_cases hj : ∃ j, inj j = k'
    · obtain ⟨j, rfl⟩ := hj
      rw [hrow j d d' h, if_neg fun heq => hk' (by rw [heq]), List.append_nil]
    · exact (hwrite d d' h).2.2 k' fun j heq => hj ⟨j, heq⟩

/-- So it is on tables that the others are part of. -/
theorem InsertsNext.zoom {E Key Key' : Type} {numbers : Key → D → List ℕ}
    {numbers' : Key' → E → List ℕ} {get : E → D} {set : D → E → E} {key : Option Key}
    {reads : List (I × E)} {write : D → Option D}
    (h : InsertsNext numbers key (reads.map (Prod.map id get)) write) (inj : Key → Key')
    (hget : ∀ d e, get (set d e) = d)
    (hmine : ∀ k e, numbers' (inj k) e = numbers k (get e))
    (hother : ∀ k', (∀ k, inj k ≠ k') → ∀ d e, numbers' k' (set d e) = numbers' k' e) :
    InsertsNext numbers' (key.map inj) reads fun e => (write (get e)).map (set · e) := by
  constructor
  · intro k' hk'
    obtain ⟨k, hk, rfl⟩ := Option.map_eq_some_iff.mp hk'
    obtain ⟨r, hr, hwrite⟩ := h.inserts k hk
    rw [List.getLast?_map] at hr
    obtain ⟨r', hr', rfl⟩ := Option.map_eq_some_iff.mp hr
    refine ⟨r', hr', fun e e' he => ?_⟩
    obtain ⟨d, hd, rfl⟩ := Option.map_eq_some_iff.mp he
    rw [hmine, hmine, hmine, hget]
    exact hwrite _ _ hd
  · intro k' hk' e e' he
    obtain ⟨d, hd, rfl⟩ := Option.map_eq_some_iff.mp he
    by_cases hk : ∃ k, inj k = k'
    · obtain ⟨k, rfl⟩ := hk
      rw [hmine, hmine, hget]
      refine h.others k (fun hkey => hk' ?_) _ _ hd
      rw [hkey]
      rfl
    · exact hother k' (fun k heq => hk ⟨k, heq⟩) d e

/-- A session that makes its commit in this step finds the numbers as it found them when it drew its
    first one. -/
def Undisturbed (numbers : D → List ℕ) (first : ι → List (I × D) → Option D) (s : Traced ι D I A)
    (t : ι × I) : Prop :=
  ∀ write result, s.world.sessions t.1 = .running (.commit write result) → write s.world.db ≠ none →
    ∀ d, first t.1 (s.reads t.1) = some d → numbers d = numbers s.world.db

/-- Every session will add what it has drawn, and all it has read was dense and is where the numbers
    have come from. -/
structure Numbered (numbers : D → List ℕ) (first : ι → List (I × D) → Option D)
    (s : Traced ι D I A) : Prop where
  ending : s.Ending (fun i reads write _ => AddsDrawn numbers (first i reads) reads write)
    fun _ _ => True
  reads : s.Reads fun _ d => Dense (numbers d) ∧ numbers d <+: numbers s.world.db

variable {numbers : D → List ℕ} {first : ι → List (I × D) → Option D} {s : Traced ι D I A}

variable [DecidableEq ι]

/-- A step takes no number away. -/
theorem Numbered.grows (h : Numbered numbers first s) (t : ι × I) :
    numbers s.world.db <+: numbers (s.step t).world.db := by
  rw [Traced.step_world]
  rcases s.world.step_commit_or_quiet t with ⟨write, result, db, hi, hwrite, hstep⟩ | ⟨hsame, -⟩
  · obtain ⟨seen, -, -, hadds⟩ := h.ending t.1 _ hi
    rw [hstep]
    change _ <+: numbers db
    rw [hadds _ _ hwrite]
    exact List.prefix_append _ _
  · rw [hsame]

theorem Numbered.step (h : Numbered numbers first s) (hdense : Dense (numbers s.world.db))
    (t : ι × I) : Numbered numbers first (s.step t) := by
  have hgrows := h.grows t
  refine ⟨h.ending.step t, h.reads.step t ?_ fun _ => ⟨hdense, hgrows⟩⟩
  rintro _ d ⟨hd, hpre⟩
  exact ⟨hd, hpre.trans hgrows⟩

/-- Step lemma: the numbers stay dense iff the step is undisturbed. -/
theorem Numbered.dense_step_iff (h : Numbered numbers first s) (hdense : Dense (numbers s.world.db))
    (t : ι × I) :
    Dense (numbers (s.step t).world.db) ↔ Undisturbed numbers first s t := by
  by_cases hcommit : ∃ write result, s.world.sessions t.1 = .running (.commit write result) ∧
      write s.world.db ≠ none
  · obtain ⟨write, result, hi, hwrite⟩ := hcommit
    obtain ⟨db, hdb⟩ := Option.ne_none_iff_exists'.mp hwrite
    obtain ⟨seen, hmem, hfirst, hadds⟩ := h.ending t.1 _ hi
    have hseen : ∀ l ∈ seen.map numbers, Dense l ∧ l <+: numbers s.world.db := by
      intro l hl
      obtain ⟨d, hd, rfl⟩ := List.mem_map.mp hl
      obtain ⟨r, hr, rfl⟩ := List.mem_map.mp (hmem d hd)
      exact h.reads t.1 r hr
    rw [s.step_of_commit hi hdb]
    change Dense (numbers db) ↔ _
    rw [hadds _ _ hdb, dense_append_drawn_iff hdense hseen, List.head?_map, hfirst]
    constructor
    · rintro hnow write' result' - - d hd
      exact hnow _ (by rw [hd]; rfl)
    · intro hok l hl
      obtain ⟨d, hd, rfl⟩ := Option.map_eq_some_iff.mp hl
      exact hok write result hi hwrite d hd
  · rw [(s.step_of_no_commit hcommit).1]
    exact iff_of_true hdense fun write result hi hwrite => absurd ⟨write, result, hi, hwrite⟩ hcommit

/-- Run lemma: over any schedule the numbers are 1, …, n throughout iff every step is
    undisturbed. -/
theorem dense_iff_undisturbed {program : ι → Txn D I A} {db : D} (hdb : Dense (numbers db))
    (hends : ∀ i, (program i).Ends
      (fun reads write _ => AddsDrawn numbers (first i reads) reads write) (fun _ => True) [])
    (schedule : List (ι × I)) :
    AllStates Traced.step (fun s => Dense (numbers s.world.db)) (Traced.start program db) schedule ↔
      AllSteps Traced.step (Undisturbed numbers first) (Traced.start program db) schedule := by
  refine allStates_iff_allSteps (J := Numbered numbers first)
    (fun s t hJ hP => hJ.dense_step_iff hP t) (fun s t hJ hP _ => hJ.step hP t) ?_ hdb
  refine ⟨Traced.ending_start db hends, ?_⟩
  intro j r hr
  cases hr

end Traced

end Lib
