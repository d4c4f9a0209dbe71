import Mathlib

/-! Runs of a state machine whose step is a function of the state and of what the outside world
    does next. Two shapes: a run along a finite list of actions (any interleaving of requests), and
    the run of one program that steps until it stops, with the n-th step reading the n-th tick of
    the world. For each there is the invariant rule; for the first the exactness rule (the states
    stay good iff every step was taken well) and the unwinding rule (who cannot notice an action need
    not have it in the run); for the second the termination rule. -/

namespace Lib

variable {σ α : Type}

/-! ### Runs along a list of actions -/

/-- `P` holds at the start and after every action of the run. -/
def AllStates (step : σ → α → σ) (P : σ → Prop) : σ → List α → Prop
  | s, [] => P s
  | s, a :: as => P s ∧ AllStates step P (step s a) as

/-- Every action of the run is taken from a state in which it is `ok`. -/
def AllSteps (step : σ → α → σ) (ok : σ → α → Prop) : σ → List α → Prop
  | _, [] => True
  | s, a :: as => ok s a ∧ AllSteps step ok (step s a) as

variable {step : σ → α → σ} {P Q J : σ → Prop} {ok : σ → α → Prop}

theorem AllStates.start {as : List α} {s : σ} (h : AllStates step P s as) : P s := by
  cases as with
  | nil => exact h
  | cons a as => exact h.1

theorem AllStates.last {as : List α} {s : σ} (h : AllStates step P s as) : P (as.foldl step s) := by
  induction as generalizing s with
  | nil => exact h
  | cons a as ih => rw [List.foldl_cons]; exact ih h.2

theorem AllStates.mono (hPQ : ∀ s, P s → Q s) {as : List α} {s : σ} (h : AllStates step P s as) :
    AllStates step Q s as := by
  induction as generalizing s with
  | nil => exact hPQ s h
  | cons a as ih => exact ⟨hPQ s h.1, ih h.2⟩

/-- Invariant rule: what every good step keeps holds throughout a run of good steps. -/
theorem allStates_of_inv (hstep : ∀ s a, P s → ok s a → P (step s a)) {as : List α} {s : σ}
    (hs : P s) (h : AllSteps step ok s as) : AllStates step P s as := by
  induction as generalizing s with
  | nil => exact hs
  | cons a as ih =>
    obtain ⟨hok, has⟩ := h
    exact ⟨hs, ih (hstep s a hs hok) has⟩

/-- Invariant rule for runs of any steps. -/
theorem inv_foldl (hstep : ∀ s a, P s → P (step s a)) (as : List α) {s : σ} (hs : P s) :
    P (as.foldl step s) := by
  induction as generalizing s with
  | nil => exact hs
  | cons a as ih => exact ih (hstep s a hs)

/-- Exactness rule: when a step from a good state leads to a good state iff it is `ok`, the states
    of a run are good throughout iff all its steps are `ok`. `J` is what good runs keep besides. -/
theorem allStates_iff_allSteps (hP : ∀ s a, J s → P s → (P (step s a) ↔ ok s a))
    (hJ : ∀ s a, J s → P s → ok s a → J (step s a)) {as : List α} {s : σ} (hJs : J s) (hPs : P s) :
    AllStates step P s as ↔ AllSteps step ok s as := by
  induction as generalizing s with
  | nil => exact ⟨fun _ => trivial, fun _ => hPs⟩
  | cons a as ih =>
    constructor
    · rintro ⟨_, has⟩
      have hok := (hP s a hJs hPs).mp has.start
      exact ⟨hok, (ih (hJ s a hJs hPs hok) has.start).mp has⟩
    · rintro ⟨hok, has⟩
      have hPs' := (hP s a hJs hPs).mpr hok
      exact ⟨hPs, (ih (hJ s a hJs hPs hok) hPs').mpr has⟩

/-- What every `ok` step satisfies, while `ok` steps keep the invariant, holds of all steps of a run. -/
theorem AllSteps.imp_of_inv {ok' : σ → α → Prop} (hJ : ∀ s a, J s → ok s a → J (step s a))
    (himp : ∀ s a, J s → ok s a → ok' s a) {as : List α} {s : σ} (hs : J s)
    (h : AllSteps step ok s as) : AllSteps step ok' s as := by
  induction as generalizing s with
  | nil => trivial
  | cons a as ih => exact ⟨himp s a hs h.1, ih (hJ s a hs h.1) h.2⟩

/-- Unwinding rule: when `mine` actions act alike on two states that one observer cannot tell apart
    and the others cannot be noticed by it, a run looks as if only `mine` actions had been taken. -/
theorem unwinding {V : σ → σ → Prop} {mine : α → Bool}
    (hmine : ∀ s s' a, V s s' → ok s a → mine a → V (step s a) (step s' a))
    (hother : ∀ s s' a, V s s' → ok s a → ¬ mine a → V (step s a) s')
    {as : List α} {s s' : σ} (h : V s s') (hok : AllSteps step ok s as) :
    V (as.foldl step s) ((as.filter mine).foldl step s') := by
  induction as generalizing s s' with
  | nil => exact h
  | cons a as ih =>
    rw [List.filter_cons]
    split
    · next ha => exact ih (hmine s s' a h hok.1 ha) hok.2
    · next ha => exact ih (hother s s' a h hok.1 ha) hok.2

/-! ### The run of one program -/

/-- The state after `n` steps, the `n`-th of which is `step n`. -/
def iterate (step : ℕ → σ → σ) (s : σ) : ℕ → σ
  | 0 => s
  | n + 1 => step n (iterate step s n)

section Iterate

variable {step : ℕ → σ → σ} {s : σ}

/-- The first step apart from the rest. -/
theorem iterate_succ' (n : ℕ) :
    iterate step s (n + 1) = iterate (fun k => step (k + 1)) (step 0 s) n := by
  induction n with
  | zero => rfl
  | succ n ih => rw [iterate, ih, iterate]

theorem iterate_of_fixed (h : ∀ n, step n s = s) (n : ℕ) : iterate step s n = s := by
  induction n with
  | zero => rfl
  | succ n ih => rw [iterate, ih, h]

/-- Invariant rule. -/
theorem iterate_inv (h0 : P s) (hstep : ∀ n t, P t → P (step n t)) (n : ℕ) :
    P (iterate step s n) := by
  induction n with
  | zero => exact h0
  | succ n ih => exact hstep n _ ih

/-- Termination rule: a program whose every step before the end decreases a well-founded measure
    reaches its end. `J` is an invariant the decrease may rest on. -/
theorem iterate_reaches {β : Type} {r : β → β → Prop} (hr : WellFounded r) (μ : σ → β)
    (final : σ → Prop) (hJ0 : J s) (hJ : ∀ n t, J t → J (step n t))
    (hμ : ∀ n t, J t → ¬ final t → r (μ (step n t)) (μ t)) : ∃ n, final (iterate step s n) := by
  by_contra hcon
  have hnf : ∀ n, ¬ final (iterate step s n) := fun n hn => hcon ⟨n, hn⟩
  have hinv : ∀ n, J (iterate step s n) := iterate_inv hJ0 hJ
  -- the measures of the run would be an infinite descending sequence
  obtain ⟨b, ⟨n, rfl⟩, hmin⟩ := hr.has_min (Set.range fun n => μ (iterate step s n)) ⟨_, ⟨0, rfl⟩⟩
  exact hmin (μ (iterate step s (n + 1))) ⟨n + 1, rfl⟩ (hμ n _ (hinv n) (hnf n))

/-- A program that has stopped stays as it is. -/
theorem iterate_stays (final : σ → Prop) (hfix : ∀ n t, final t → step n t = t) {n : ℕ}
    (hn : final (iterate step s n)) (k : ℕ) : iterate step s (n + k) = iterate step s n := by
  induction k with
  | zero => rfl
  | succ k ih => rw [← Nat.add_assoc, iterate, ih, hfix _ _ hn]

/-- A program stops in one state only. -/
theorem iterate_final_unique (final : σ → Prop) (hfix : ∀ n t, final t → step n t = t) {m n : ℕ}
    (hm : final (iterate step s m)) (hn : final (iterate step s n)) :
    iterate step s m = iterate step s n := by
  rcases Nat.le_total m n with h | h
  · obtain ⟨k, rfl⟩ := Nat.exists_eq_add_of_le h
    exact (iterate_stays final hfix hm k).symm
  · obtain ⟨k, rfl⟩ := Nat.exists_eq_add_of_le h
    exact iterate_stays final hfix hn k

end Iterate

end Lib
