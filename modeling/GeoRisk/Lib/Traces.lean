import Mathlib
import GeoRisk.Lib.ReadCommitted

/-! What a transaction has read. `Ends` says how a transaction can end, in terms of its reads: what
    its queries were given, and the tables they saw. Proved once of a program, it holds of the
    program on its own (`exec`: every query sees the tables that the commit writes to) and of each of
    its commits in an interleaving (a traced world remembers the reads of every session):

                               ┌─▶ exec: all reads are one (x, db)
        program ─▶ Ends C R [] ┤
                               └─▶ traced world: session i commits with `C (reads i)` -/

namespace Lib

variable {D I A : Type} {C : List (I × D) → (D → Option D) → A → Prop} {R : A → Prop}

/-- With these reads so far, every commit will satisfy `C` and every rollback `R`. -/
def Txn.Ends (C : List (I × D) → (D → Option D) → A → Prop) (R : A → Prop) (reads : List (I × D)) :
    Txn D I A → Prop
  | .query next => ∀ x db, (next x db).Ends C R (reads ++ [(x, db)])
  | .commit write result => C reads write result
  | .rollback result => R result

theorem Txn.Ends.mono {C' : List (I × D) → (D → Option D) → A → Prop} {txn : Txn D I A}
    {reads : List (I × D)} (h : txn.Ends C R reads)
    (hC : ∀ more write result, C (reads ++ more) write result → C' (reads ++ more) write result) :
    txn.Ends C' R reads := by
  induction txn generalizing reads with
  | query next ih =>
    intro x db
    refine ih x db (h x db) fun more write result => ?_
    rw [List.append_assoc]
    exact hC _ write result
  | commit write result =>
    have hlast := hC [] write result
    rw [List.append_nil] at hlast
    exact hlast h
  | rollback result => exact h

/-! ### A transaction on its own -/

/-- The transaction from its first query to its end, nothing happening in between: the tables it
    leaves, and what it returns unless its writes are refused. -/
def Txn.exec (x : I) (db : D) : Txn D I A → D × Option A
  | .query next => (next x db).exec x db
  | .commit write result => ((write db).getD db, (write db).map fun _ => result)
  | .rollback result => (db, some result)

/-- How it ends: all its reads are of the tables it commits to. -/
inductive Txn.Executed (C : List (I × D) → (D → Option D) → A → Prop) (R : A → Prop) (x : I)
    (db : D) : D × Option A → Prop where
  | committed {reads write result db'} (hreads : ∀ r ∈ reads, r = (x, db))
      (hcommit : C reads write result) (hwrite : write db = some db') :
      Executed C R x db (db', some result)
  | refused {reads write result} (hreads : ∀ r ∈ reads, r = (x, db))
      (hcommit : C reads write result) (hwrite : write db = none) : Executed C R x db (db, none)
  | rolledBack {result} (hresult : R result) : Executed C R x db (db, some result)

theorem Txn.Ends.exec {txn : Txn D I A} {reads : List (I × D)} (h : txn.Ends C R reads) (x : I)
    (db : D) (hreads : ∀ r ∈ reads, r = (x, db)) : Executed C R x db (txn.exec x db) := by
  induction txn generalizing reads with
  | query next ih =>
    refine ih x db (h x db) fun r hr => ?_
    rcases List.mem_append.mp hr with hr | hr
    · exact hreads r hr
    · exact List.mem_singleton.mp hr
  | commit write result =>
    unfold Txn.exec
    cases hw : write db with
    | some db' => exact .committed hreads h hw
    | none => exact .refused hreads h hw
  | rollback result => exact .rolledBack h

/-! ### A transaction on some of the tables -/

section Zoom

variable {E B : Type} {C' : List (I × E) → (E → Option E) → B → Prop} {R' : B → Prop}

/-- A transaction over tables `D` that are part of the tables `E`. -/
def Txn.zoom (get : E → D) (set : D → E → E) (f : A → B) : Txn D I A → Txn E I B
  | .query next => .query fun x e => (next x (get e)).zoom get set f
  | .commit write result => .commit (fun e => (write (get e)).map (set · e)) (f result)
  | .rollback result => .rollback (f result)

/-- It ends as it does on its own tables. -/
theorem Txn.Ends.zoom {get : E → D} {set : D → E → E} {f : A → B} {txn : Txn D I A}
    {reads : List (I × E)}
    (h : txn.Ends C R (reads.map (Prod.map id get)))
    (hC : ∀ reads write result, C (reads.map (Prod.map id get)) write result →
      C' reads (fun e => (write (get e)).map (set · e)) (f result))
    (hR : ∀ result, R result → R' (f result)) : (txn.zoom get set f).Ends C' R' reads := by
  induction txn generalizing reads with
  | query next ih =>
    intro x e
    refine ih x (get e) ?_
    rw [List.map_append]
    exact h x (get e)
  | commit write result => exact hC reads write result h
  | rollback result => exact hR result h

end Zoom

/-! ### Reads in an interleaving -/

variable {ι : Type}

/-- A world, and what the queries of each session were given and saw, in order. -/
structure Traced (ι D I A : Type) where
  world : World ι D I A
  reads : ι → List (I × D)

namespace Traced

/-- Every session is about to begin. -/
def start (program : ι → Txn D I A) (db : D) : Traced ι D I A := ⟨.start program db, fun _ => []⟩

variable [DecidableEq ι]

/-- One step of one session; the read of a query is remembered. -/
def step (s : Traced ι D I A) (t : ι × I) : Traced ι D I A where
  world := s.world.step t
  reads :=
    match s.world.sessions t.1 with
    | .running (.query _) =>
      Function.update s.reads t.1 (s.reads t.1 ++ [(t.2, s.world.db)])
    | _ => s.reads

@[simp] theorem step_world (s : Traced ι D I A) (t : ι × I) :
    (s.step t).world = s.world.step t := rfl

theorem step_reads_of_ne (s : Traced ι D I A) {t : ι × I} {j : ι} (hne : j ≠ t.1) :
    (s.step t).reads j = s.reads j := by
  unfold step
  cases s.world.sessions t.1 with
  | running txn => cases txn <;> simp [Function.update_of_ne hne]
  | committed | rolledBack => rfl

theorem step_reads_of_query (s : Traced ι D I A) {t : ι × I} {next : I → D → Txn D I A}
    (h : s.world.sessions t.1 = .running (.query next)) :
    (s.step t).reads t.1 = s.reads t.1 ++ [(t.2, s.world.db)] := by
  simp [step, h]

/-- A session that takes no step is left as it is. -/
theorem foldl_step_of_ne {ts : List (ι × I)} {j : ι} (h : ∀ t ∈ ts, t.1 ≠ j) (s : Traced ι D I A) :
    (ts.foldl step s).reads j = s.reads j ∧
      (ts.foldl step s).world.sessions j = s.world.sessions j := by
  induction ts generalizing s with
  | nil => exact ⟨rfl, rfl⟩
  | cons t ts ih =>
    have hne : j ≠ t.1 := (h t (List.mem_cons_self ..)).symm
    obtain ⟨hreads, hsessions⟩ := ih (fun t' ht' => h t' (List.mem_cons_of_mem _ ht')) (s.step t)
    exact ⟨hreads.trans (s.step_reads_of_ne hne), hsessions.trans (s.world.step_sessions_of_ne hne)⟩

/-- A commit that goes through. -/
theorem step_of_commit (s : Traced ι D I A) {t : ι × I} {write : D → Option D} {result : A} {db : D}
    (hi : s.world.sessions t.1 = .running (.commit write result)) (hw : write s.world.db = some db) :
    (s.step t).world = { s.world.set t.1 (.committed result) with db } := by
  rw [step_world, World.step, hi]
  simp only [hw]

/-- Any other step leaves the tables and the committed sessions as they are. -/
theorem step_of_no_commit (s : Traced ι D I A) {t : ι × I}
    (h : ¬ ∃ write result, s.world.sessions t.1 = .running (.commit write result) ∧
      write s.world.db ≠ none) :
    (s.step t).world.db = s.world.db ∧
      ∀ j r, (s.step t).world.sessions j = .committed r ↔ s.world.sessions j = .committed r := by
  rw [step_world]
  rcases s.world.step_commit_or_quiet t with ⟨write, result, db', hi, hw, -⟩ | hquiet
  · exact absurd ⟨write, result, hi, by simp [hw]⟩ h
  · exact hquiet

/-- Remembering does not change what happens. -/
theorem foldl_world (ts : List (ι × I)) (s : Traced ι D I A) :
    (ts.foldl step s).world = ts.foldl World.step s.world := by
  induction ts generalizing s with
  | nil => rfl
  | cons t ts ih => exact ih (s.step t)

/-- A session reads nothing in a step, or the tables as they are. -/
theorem step_reads (s : Traced ι D I A) (t : ι × I) (j : ι) :
    (s.step t).reads j = s.reads j ∨ (s.step t).reads j = s.reads j ++ [(t.2, s.world.db)] := by
  rcases eq_or_ne j t.1 with rfl | hne
  · cases hs : s.world.sessions t.1 with
    | running txn =>
      cases txn with
      | query next => exact Or.inr (s.step_reads_of_query hs)
      | commit | rollback => exact Or.inl (by simp only [step, hs])
    | committed | rolledBack => exact Or.inl (by simp only [step, hs])
  · exact Or.inl (s.step_reads_of_ne hne)

/-- What was read so far, or is read now. -/
theorem mem_step_reads {s : Traced ι D I A} {t : ι × I} {j : ι} {r : I × D}
    (h : r ∈ (s.step t).reads j) : r ∈ s.reads j ∨ r = (t.2, s.world.db) := by
  rcases step_reads s t j with hsame | hread
  · exact Or.inl (hsame ▸ h)
  · rw [hread] at h
    exact (List.mem_append.mp h).imp_right List.mem_singleton.mp

/-- All reads of all sessions satisfy `P`, which may refer to the tables as they are now. -/
def Reads (P : ι → D → Prop) (s : Traced ι D I A) : Prop := ∀ j, ∀ r ∈ s.reads j, P j r.2

theorem Reads.step {P Q : ι → D → Prop} {s : Traced ι D I A} (h : s.Reads P) (t : ι × I)
    (hPQ : ∀ j d, P j d → Q j d) (hnow : ∀ j, Q j s.world.db) : (s.step t).Reads Q := by
  intro j r hr
  rcases mem_step_reads hr with hr | rfl
  · exact hPQ j r.2 (h j r hr)
  · exact hnow j

/-- Every running session will end as its program does, with the reads it has made. -/
def Ending (C : ι → List (I × D) → (D → Option D) → A → Prop) (R : ι → A → Prop)
    (s : Traced ι D I A) : Prop :=
  ∀ i txn, s.world.sessions i = .running txn → txn.Ends (C i) (R i) (s.reads i)

variable {C : ι → List (I × D) → (D → Option D) → A → Prop} {R : ι → A → Prop}
  {s : Traced ι D I A}

omit [DecidableEq ι] in
theorem ending_start {program : ι → Txn D I A} (db : D)
    (h : ∀ i, (program i).Ends (C i) (R i) []) : (start program db).Ending C R := by
  intro i txn hi
  cases hi
  exact h i

theorem Ending.step (h : s.Ending C R) (t : ι × I) : (s.step t).Ending C R := by
  intro j txn hj
  have hmove := s.world.step_move t.1 t.2
  rw [step_world] at hj
  change World.Move s.world t.1 t.2 (s.world.step t) at hmove
  generalize s.world.step t = w' at hmove hj
  rcases eq_or_ne j t.1 with rfl | hne
  · cases hmove with
    | query hi =>
      rw [World.set_self] at hj
      cases hj
      rw [s.step_reads_of_query hi]
      exact h _ _ hi _ _
    | commit hi => simp at hj
    | refused | rollback => rw [World.set_self] at hj; cases hj
    | idle hi => rw [hj] at hi; exact hi.elim
  · rw [s.step_reads_of_ne hne]
    refine h j txn ?_
    cases hmove with
    | commit => simpa only [s.world.set_ne hne] using hj
    | idle => exact hj
    | _ => rwa [s.world.set_ne hne] at hj

/-! ### What holds in every interleaving -/

/-- The sessions end as their programs do, the tables are good, and so were those that have been read,
    one after the other, from which they have come by changes in `L`. -/
structure Tracked (C : ι → List (I × D) → (D → Option D) → A → Prop) (R : ι → A → Prop)
    (G : D → Prop) (L : D → D → Prop) (s : Traced ι D I A) : Prop where
  ending : s.Ending C R
  good : G s.world.db
  reads : s.Reads fun _ d => G d ∧ L d s.world.db
  ordered : ∀ j, (s.reads j).Pairwise fun r r' => L r.2 r'.2

section Tracked

variable {G : D → Prop} {L : D → D → Prop}

/-- Commits over good tables leave good ones and change them in `L` only, by what they have read on
    the way there. -/
def Preserves (C : ι → List (I × D) → (D → Option D) → A → Prop) (G : D → Prop)
    (L : D → D → Prop) : Prop :=
  ∀ i reads write result d d', C i reads write result → (∀ r ∈ reads, G r.2 ∧ L r.2 d) →
    reads.Pairwise (fun r r' => L r.2 r'.2) → G d → write d = some d' → G d' ∧ L d d'

/-- What a step does to the tables. -/
theorem Tracked.evolves (h : s.Tracked C R G L) (hrefl : ∀ d, L d d) (hcommit : Preserves C G L)
    (t : ι × I) : G (s.step t).world.db ∧ L s.world.db (s.step t).world.db := by
  rw [step_world]
  rcases s.world.step_commit_or_quiet t with ⟨write, result, d', hi, hwrite, hstep⟩ | ⟨hsame, -⟩
  · rw [hstep]
    exact hcommit t.1 _ write result _ d' (h.ending t.1 _ hi) (h.reads t.1) (h.ordered t.1) h.good
      hwrite
  · rw [hsame]
    exact ⟨h.good, hrefl _⟩

theorem Tracked.step (h : s.Tracked C R G L) (hrefl : ∀ d, L d d)
    (htrans : ∀ {a b c}, L a b → L b c → L a c) (hcommit : Preserves C G L) (t : ι × I) :
    (s.step t).Tracked C R G L := by
  obtain ⟨hgood, hlater⟩ := h.evolves hrefl hcommit t
  refine ⟨h.ending.step t, hgood, h.reads.step t ?_ fun _ => ⟨h.good, hlater⟩, fun j => ?_⟩
  · rintro _ d ⟨hd, hkept⟩
    exact ⟨hd, htrans hkept hlater⟩
  · rcases step_reads s t j with hsame | hread
    · rw [hsame]
      exact h.ordered j
    · rw [hread, List.pairwise_append]
      refine ⟨h.ordered j, List.pairwise_singleton .., fun r hr r' hr' => ?_⟩
      rw [List.mem_singleton.mp hr']
      exact (h.reads j r hr).2

omit [DecidableEq ι] in
theorem tracked_start {program : ι → Txn D I A} {db : D} (hdb : G db)
    (h : ∀ i, (program i).Ends (C i) (R i) []) : (start program db).Tracked C R G L := by
  refine ⟨ending_start db h, hdb, ?_, fun _ => .nil⟩
  intro j r hr
  cases hr

end Tracked

end Traced

end Lib
