import GeoRisk.Lib.Results

/-! Pre- and postconditions of computations that may raise. `Meets allowed post x` says that `x` raises
    an error that is allowed, or returns what satisfies `post`:

        x ──▶ .ok a        post a
          └─▶ .error e     allowed e

    The rules follow the shape of the code: one for each of return, raise, sequence and loop. With no
    error allowed they are the rules of total correctness. -/

namespace Lib

variable {ε α β : Type} {allowed allowed' : ε → Prop} {P P' : α → Prop} {Q : β → Prop}

def Meets (allowed : ε → Prop) (post : α → Prop) : Except ε α → Prop
  | .ok a => post a
  | .error e => allowed e

/-- Of a computation that may raise anything nothing is said but that it ends. -/
theorem meets_any (x : Except ε α) : Meets (fun _ => True) (fun _ => True) x := by
  cases x with
  | ok a => trivial
  | error e => trivial

/-- Consequence rule. -/
theorem Meets.mono {x : Except ε α} (h : Meets allowed P x) (ha : ∀ e, allowed e → allowed' e)
    (hP : ∀ a, P a → P' a) : Meets allowed' P' x := by
  cases x with
  | ok a => exact hP a h
  | error e => exact ha e h

theorem Meets.post {x : Except ε α} (h : Meets allowed P x) (hP : ∀ a, P a → P' a) :
    Meets allowed P' x := h.mono (fun _ he => he) hP

/-- Sequence rule. -/
theorem Meets.bind {x : Except ε α} {f : α → Except ε β} (h : Meets allowed P x)
    (hf : ∀ a, P a → Meets allowed Q (f a)) : Meets allowed Q (x >>= f) := by
  cases x with
  | ok a => exact hf a h
  | error e => exact h

/-- What comes before in a sequence is known to return. -/
theorem Meets.ok_bind {a : α} {f : α → Except ε β} (h : Meets allowed Q (f a)) :
    Meets allowed Q (.ok a >>= f) := h

/-- Branch rule. -/
theorem Meets.ite {c : Prop} [Decidable c] {x y : Except ε α} (hx : c → Meets allowed P x)
    (hy : ¬ c → Meets allowed P y) : Meets allowed P (if c then x else y) := by
  split
  · next h => exact hx h
  · next h => exact hy h

/-- Loop rule: every round meets its own postcondition, and so do the results, side by side. -/
theorem Meets.mapM {f : α → Except ε β} {R : α → β → Prop} {as : List α}
    (h : ∀ a ∈ as, Meets allowed (R a) (f a)) :
    Meets allowed (List.Forall₂ R as) (as.mapM f) := by
  induction as with
  | nil => exact List.Forall₂.nil
  | cons a as ih =>
    rw [List.mapM_cons]
    refine (h a (by simp)).bind fun b hb => ?_
    refine (ih fun a ha => h a (List.mem_cons_of_mem _ ha)).bind fun bs hbs => ?_
    exact List.Forall₂.cons hb hbs

/-- Loops whose rounds do the same. -/
theorem mapM_congr {f g : α → Except ε β} {as : List α} (h : ∀ a ∈ as, f a = g a) :
    as.mapM f = as.mapM g := by
  induction as with
  | nil => rfl
  | cons a as ih =>
    rw [List.mapM_cons, List.mapM_cons, h a (by simp), ih fun a ha => h a (List.mem_cons_of_mem _ ha)]

/-! ### Weakest preconditions -/

/-- A computation that meets a condition and is known to return. -/
theorem Meets.of_ok {x : Except ε α} {a : α} (h : Meets allowed P x) (hx : x = .ok a) : P a := by
  rw [hx] at h
  exact h

/-- What no error is allowed of returns. -/
theorem Meets.exists_ok {x : Except ε α} (h : Meets (fun _ => False) P x) :
    ∃ a, x = .ok a ∧ P a := by
  cases x with
  | ok a => exact ⟨a, rfl, h⟩
  | error e => exact h.elim

/-- Of results side by side, each comes from one of the items. -/
theorem exists_of_forall₂ {R : α → β → Prop} {as : List α} {bs : List β} (h : List.Forall₂ R as bs)
    {b : β} (hb : b ∈ bs) : ∃ a ∈ as, R a b := by
  induction h with
  | nil => cases hb
  | @cons a b' as bs hab hrest ih =>
    rcases List.mem_cons.mp hb with rfl | hb
    · exact ⟨a, by simp, hab⟩
    · obtain ⟨a, ha, hR⟩ := ih hb
      exact ⟨a, List.mem_cons_of_mem _ ha, hR⟩

/-- Results that are each of one form come from a list. -/
theorem exists_map_of_forall {f : α → β} {bs : List β} (h : ∀ b ∈ bs, ∃ a, b = f a ∧ P a) :
    ∃ as : List α, bs = as.map f ∧ ∀ a ∈ as, P a := by
  induction bs with
  | nil => exact ⟨[], rfl, by simp⟩
  | cons b bs ih =>
    obtain ⟨a, rfl, ha⟩ := h b (by simp)
    obtain ⟨as, rfl, has⟩ := ih fun b hb => h b (List.mem_cons_of_mem _ hb)
    exact ⟨a :: as, rfl, List.forall_mem_cons.mpr ⟨ha, has⟩⟩

end Lib
