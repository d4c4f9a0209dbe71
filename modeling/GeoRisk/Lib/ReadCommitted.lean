import Mathlib
import GeoRisk.Lib.Runs

/-! Transactions at READ COMMITTED. A transaction is a program of queries that ends in a commit or a
    rollback. A query sees what is committed when it runs, so two queries of one transaction may see
    different tables; the writes are made at the commit, all at once, on the tables as they are by
    then, and a violated constraint turns the commit into a rollback:

        query ─▶ query ─▶ ⋯ ─▶ commit write result ──▶ committed
                               rollback result    ──▶ rolledBack

    A world is the tables and one session for each transaction. `Guarded` is the rely-guarantee rule:
    what every program promises of its commits, as long as the tables keep an invariant and change
    in the ways it relies on, holds of every commit of every interleaving. -/

namespace Lib

/-- What is left of a transaction over tables `D`; each query is given an input of the outside world
    (a clock, say) besides the tables. -/
inductive Txn (D I A : Type) where
  | query (next : I → D → Txn D I A)
  | commit (write : D → Option D) (result : A)
  | rollback (result : A)

inductive Session (D I A : Type) where
  | running (txn : Txn D I A)
  | committed (result : A)
  | rolledBack (result : Option A)

/-- The session has come to its end. -/
def Session.Ended {D I A : Type} : Session D I A → Prop
  | .running _ => False
  | _ => True

/-- What the session has committed with, if it has. -/
def Session.result {D I A : Type} : Session D I A → Option A
  | .committed result => some result
  | _ => none

theorem Session.result_eq_some {D I A : Type} {s : Session D I A} {result : A} :
    s.result = some result ↔ s = .committed result := by
  cases s <;> simp [Session.result]

structure World (ι D I A : Type) where
  db : D
  sessions : ι → Session D I A

namespace World

variable {ι D I A : Type}

/-- Every session is about to begin. -/
def start (program : ι → Txn D I A) (db : D) : World ι D I A :=
  ⟨db, fun i => .running (program i)⟩

variable [DecidableEq ι]

def set (w : World ι D I A) (i : ι) (s : Session D I A) : World ι D I A :=
  { w with sessions := Function.update w.sessions i s }

/-- One step of one session. -/
def step (w : World ι D I A) (t : ι × I) : World ι D I A :=
  match w.sessions t.1 with
  | .running (.query next) => w.set t.1 (.running (next t.2 w.db))
  | .running (.commit write result) =>
    match write w.db with
    | some db => { w.set t.1 (.committed result) with db }
    | none => w.set t.1 (.rolledBack none)
  | .running (.rollback result) => w.set t.1 (.rolledBack (some result))
  | _ => w

@[simp] theorem set_db (w : World ι D I A) (i : ι) (s : Session D I A) : (w.set i s).db = w.db := rfl

@[simp] theorem set_self (w : World ι D I A) (i : ι) (s : Session D I A) :
    (w.set i s).sessions i = s :=
  Function.update_self ..

theorem set_ne (w : World ι D I A) {i j : ι} (h : j ≠ i) (s : Session D I A) :
    (w.set i s).sessions j = w.sessions j :=
  Function.update_of_ne h ..

/-- What a step of session `i` may do. -/
inductive Move (w : World ι D I A) (i : ι) (x : I) : World ι D I A → Prop where
  | query {next} (hi : w.sessions i = .running (.query next)) :
    Move w i x (w.set i (.running (next x w.db)))
  | commit {write result db} (hi : w.sessions i = .running (.commit write result))
      (hw : write w.db = some db) : Move w i x { w.set i (.committed result) with db }
  | refused {write result} (hi : w.sessions i = .running (.commit write result))
      (hw : write w.db = none) : Move w i x (w.set i (.rolledBack none))
  | rollback {result} (hi : w.sessions i = .running (.rollback result)) :
    Move w i x (w.set i (.rolledBack (some result)))
  | idle (hi : (w.sessions i).Ended) : Move w i x w

theorem step_move (w : World ι D I A) (i : ι) (x : I) : Move w i x (w.step (i, x)) := by
  unfold step
  cases hi : w.sessions i with
  | running txn =>
    cases txn with
    | query next => exact .query hi
    | commit write result =>
      simp only
      cases hw : write w.db with
      | some db => exact .commit hi hw
      | none => exact .refused hi hw
    | rollback result => exact .rollback hi
  | committed | rolledBack => exact .idle (by rw [hi]; trivial)

/-- A step of one session leaves the others as they are. -/
theorem step_sessions_of_ne (w : World ι D I A) {t : ι × I} {j : ι} (hne : j ≠ t.1) :
    (w.step t).sessions j = w.sessions j := by
  have hmove := w.step_move t.1 t.2
  change Move w t.1 t.2 (w.step t) at hmove
  generalize w.step t = w' at hmove ⊢
  cases hmove with
  | commit => exact w.set_ne hne _
  | idle => rfl
  | _ => rw [w.set_ne hne]

/-- A session that has come to its end stays as it is. -/
theorem step_of_ended (w : World ι D I A) (t : ι × I) {i : ι} (h : (w.sessions i).Ended) :
    (w.step t).sessions i = w.sessions i := by
  rcases eq_or_ne i t.1 with rfl | hne
  · unfold step
    cases hi : w.sessions t.1 with
    | running => rw [hi] at h; exact h.elim
    | committed | rolledBack => exact hi
  · exact w.step_sessions_of_ne hne

theorem foldl_of_ended {w : World ι D I A} {i : ι} (h : (w.sessions i).Ended) (ts : List (ι × I)) :
    (ts.foldl step w).sessions i = w.sessions i := by
  induction ts generalizing w with
  | nil => rfl
  | cons t ts ih =>
    have hstep := w.step_of_ended t h
    exact (ih (by rw [hstep]; exact h)).trans hstep

/-- Before a session comes to its end, it takes a step from where it is. -/
theorem exists_step_of_ended {w : World ι D I A} {i : ι} {ts : List (ι × I)}
    (h : ¬ (w.sessions i).Ended) (hended : ((ts.foldl step w).sessions i).Ended) :
    ∃ pre x post, ts = pre ++ (i, x) :: post ∧
      (pre.foldl step w).sessions i = w.sessions i := by
  induction ts generalizing w with
  | nil => exact absurd hended h
  | cons t ts ih =>
    rcases eq_or_ne i t.1 with rfl | hne
    · exact ⟨[], t.2, ts, rfl, rfl⟩
    · have hstep := w.step_sessions_of_ne hne
      obtain ⟨pre, x, post, rfl, hsame⟩ := ih (by rwa [hstep]) hended
      exact ⟨t :: pre, x, post, rfl, hsame.trans hstep⟩

/-- A step makes a commit, or leaves the tables and the committed sessions as they are. -/
theorem step_commit_or_quiet (w : World ι D I A) (t : ι × I) :
    (∃ write result db, w.sessions t.1 = .running (.commit write result) ∧ write w.db = some db ∧
      w.step t = { w.set t.1 (.committed result) with db }) ∨
    ((w.step t).db = w.db ∧
      ∀ j r, (w.step t).sessions j = .committed r ↔ w.sessions j = .committed r) := by
  -- the sessions other than this one stay as they are
  have hquiet : ∀ {s : Session D I A}, (∀ r, w.sessions t.1 ≠ .committed r) →
      (∀ r, s ≠ .committed r) → (w.set t.1 s).db = w.db ∧
        ∀ j r, (w.set t.1 s).sessions j = .committed r ↔ w.sessions j = .committed r := by
    intro s hold hnew
    refine ⟨rfl, fun j r => ?_⟩
    rcases eq_or_ne j t.1 with rfl | hne
    · simp [hold, hnew]
    · rw [w.set_ne hne]
  have hmove := w.step_move t.1 t.2
  change Move w t.1 t.2 (w.step t) at hmove
  generalize w.step t = w' at hmove ⊢
  cases hmove with
  | commit hi hw => exact Or.inl ⟨_, _, _, hi, hw, rfl⟩
  | query hi => exact Or.inr (hquiet (by simp [hi]) (by simp))
  | refused hi => exact Or.inr (hquiet (by simp [hi]) (by simp))
  | rollback hi => exact Or.inr (hquiet (by simp [hi]) (by simp))
  | idle => exact Or.inr ⟨rfl, fun _ _ => Iff.rfl⟩

end World

/-! ### What programs promise of their commits -/

variable {ι D I A : Type} {G : D → Prop} {R : D → D → Prop} {T : D → Option D → A → Prop}

/-- From tables `db` on, the transaction's commit will satisfy `T`, if the tables change as `R` allows
    and satisfy `G` whenever it looks at them. `T db new result` is about a commit over `db`. -/
def Txn.Keeps (G : D → Prop) (R : D → D → Prop) (T : D → Option D → A → Prop) (db : D) :
    Txn D I A → Prop
  | .query next => ∀ x db', R db db' → G db' → (next x db').Keeps G R T db'
  | .commit write result => ∀ db', R db db' → G db' → T db' (write db') result
  | .rollback _ => True

/-- A promise is kept while the tables change as it allows for. -/
theorem Txn.Keeps.rely {txn : Txn D I A} {db db' : D} (h : txn.Keeps G R T db) (hR : R db db')
    (htrans : ∀ {a b c}, R a b → R b c → R a c) : txn.Keeps G R T db' := by
  cases txn with
  | query next => exact fun x db'' hR' => h x db'' (htrans hR hR')
  | commit write result => exact fun db'' hR' => h db'' (htrans hR hR')
  | rollback => trivial

/-- Who promises something promises what follows from it. -/
theorem Txn.Keeps.mono {T' : D → Option D → A → Prop} {txn : Txn D I A} {db : D}
    (h : txn.Keeps G R T db) (hT : ∀ db new result, T db new result → T' db new result) :
    txn.Keeps G R T' db := by
  induction txn generalizing db with
  | query next ih => exact fun x db' hR hG => ih x db' (h x db' hR hG)
  | commit write result => exact fun db' hR hG => hT _ _ _ (h db' hR hG)
  | rollback => trivial

/-- What holds of every commit is promised by every program. -/
theorem Txn.keeps_of_forall (h : ∀ db new result, T db new result) (txn : Txn D I A) (db : D) :
    txn.Keeps G R T db := by
  induction txn generalizing db with
  | query next ih => exact fun x db' _ _ => ih x db' db'
  | commit write result => exact fun db' _ _ => h db' (write db') result
  | rollback => trivial

/-- The tables satisfy `G`, and every running session keeps its promise. -/
structure World.Guarded (G : D → Prop) (R : D → D → Prop) (T : ι → D → Option D → A → Prop)
    (w : World ι D I A) : Prop where
  db : G w.db
  running : ∀ i txn, w.sessions i = .running txn → txn.Keeps G R (T i) w.db

namespace World.Guarded

variable {T : ι → D → Option D → A → Prop} {w : World ι D I A}

theorem start {program : ι → Txn D I A} {db : D} (hdb : G db)
    (h : ∀ i, (program i).Keeps G R (T i) db) : (World.start program db).Guarded G R T :=
  ⟨hdb, fun i txn hi => by cases hi; exact h i⟩

/-- What is promised of a commit holds of it. -/
theorem commits (h : w.Guarded G R T) (hrefl : ∀ db, R db db) {i : ι} {write : D → Option D}
    {result : A} (hi : w.sessions i = .running (.commit write result)) :
    T i w.db (write w.db) result :=
  h.running i _ hi _ (hrefl _) h.db

variable [DecidableEq ι]

/-- Invariant rule: a step that leaves tables satisfying `G`, changed as `R` allows, keeps every
    session's promise. -/
theorem step (h : w.Guarded G R T) (htrans : ∀ {a b c}, R a b → R b c → R a c) (t : ι × I)
    (hG : G (w.step t).db) (hR : R w.db (w.step t).db) : (w.step t).Guarded G R T := by
  refine ⟨hG, fun j txn hj => ?_⟩
  have hmove := w.step_move t.1 t.2
  change Move w t.1 t.2 (w.step t) at hmove
  generalize w.step t = w' at hmove hG hR hj ⊢
  rcases eq_or_ne j t.1 with rfl | hne
  · cases hmove with
    | query hi =>
      rw [set_self] at hj
      cases hj
      exact h.running _ _ hi _ _ hR hG
    | commit hi => simp at hj
    | refused | rollback => rw [set_self] at hj; cases hj
    | idle hi => rw [hj] at hi; exact hi.elim
  · have hj' : w.sessions j = .running txn := by
      cases hmove with
      | commit => simpa only [w.set_ne hne] using hj
      | idle => exact hj
      | _ => rwa [w.set_ne hne] at hj
    exact (h.running j txn hj').rely hR htrans

/-- A session that is found committed was so before, or has kept its promise. -/
theorem committed_step (h : w.Guarded G R T) (hrefl : ∀ db, R db db) (t : ι × I) {i : ι} {result : A}
    (hi : (w.step t).sessions i = .committed result) :
    w.sessions i = .committed result ∨ ∃ db, T i w.db (some db) result := by
  rcases w.step_commit_or_quiet t with ⟨write, result', db, ht, hw, hstep⟩ | ⟨-, hquiet⟩
  · rw [hstep] at hi
    change (w.set t.1 (.committed result')).sessions i = .committed result at hi
    rcases eq_or_ne i t.1 with rfl | hne
    · rw [set_self] at hi
      obtain rfl := Session.committed.inj hi
      exact Or.inr ⟨db, hw ▸ h.commits hrefl ht⟩
    · rw [w.set_ne hne] at hi
      exact Or.inl hi
  · exact Or.inl ((hquiet i result).mp hi)

end World.Guarded

/-- The column of a row as an update leaves it: a session writes a column only when it differs from
    the one it loaded. -/
def flushed {α : Type} [DecidableEq α] (loaded new current : α) : α :=
  if new = loaded then current else new

@[simp] theorem flushed_self {α : Type} [DecidableEq α] (loaded new : α) :
    flushed loaded new loaded = new := by
  unfold flushed
  split
  · next h => exact h.symm
  · rfl

@[simp] theorem flushed_same {α : Type} [DecidableEq α] (loaded current : α) :
    flushed loaded loaded current = current :=
  if_pos rfl

/-! ### From the commit point to the end -/

section Commit

variable [DecidableEq ι]

/-- The session has reached its commit, with this result: it is about to make it or has made it. -/
def Session.Reached (result : A) : Session D I A → Prop
  | .running (.commit _ r) => r = result
  | .committed r => r = result
  | _ => False

theorem Session.Reached.committed {s : Session D I A} {result : A} (h : s.Reached result)
    (hended : s.Ended) : s = .committed result := by
  cases s with
  | running => exact hended.elim
  | committed r => rw [show r = result from h]
  | rolledBack => exact h.elim

/-- A session that has reached its commit commits, unless its writes are refused. -/
theorem reached_step {w : World ι D I A} {i : ι} {result : A} (t : ι × I)
    (h : (w.sessions i).Reached result)
    (hw : ∀ write, w.sessions i = .running (.commit write result) → write w.db ≠ none) :
    ((w.step t).sessions i).Reached result := by
  have hmove := w.step_move t.1 t.2
  generalize w.step (t.1, t.2) = w' at hmove
  rcases eq_or_ne i t.1 with rfl | hne
  · cases hmove with
    | query hi => rw [hi] at h; exact h.elim
    | commit hi => rw [hi] at h; simpa [Session.Reached] using h
    | refused hi hn => rw [hi] at h; exact absurd hn (hw _ (by rw [hi, show _ = result from h]))
    | rollback hi => rw [hi] at h; exact h.elim
    | idle => exact h
  · cases hmove with
    | commit => simpa only [w.set_ne hne] using h
    | idle => exact h
    | _ => rwa [w.set_ne hne]

/-- A session that is about to roll back, or has done so, never commits. -/
theorem never_commits {w : World ι D I A} {i : ι} {result : A}
    (h : w.sessions i = .running (.rollback result)) (ts : List (ι × I)) (r : A) :
    (ts.foldl World.step w).sessions i ≠ .committed r := by
  have hstep : ∀ (w : World ι D I A) t,
      w.sessions i = .running (.rollback result) ∨ w.sessions i = .rolledBack (some result) →
      (w.step t).sessions i = .running (.rollback result) ∨
        (w.step t).sessions i = .rolledBack (some result) := by
    rintro w t (hi | hi)
    · rcases eq_or_ne i t.1 with rfl | hne
      · exact Or.inr (by rw [World.step, hi]; exact w.set_self ..)
      · exact Or.inl ((w.step_sessions_of_ne hne).trans hi)
    · exact Or.inr ((w.step_of_ended t (by rw [hi]; trivial)).trans hi)
  rcases inv_foldl hstep ts (Or.inl h) with hi | hi <;> simp [hi]

end Commit

end Lib
