import Mathlib

/-! Computations that may raise: what the steps of one that returned have returned. -/

namespace Lib

variable {ε α β : Type}

/-- Inversion rule: a sequence returns iff its first step returns, and the rest after it. -/
theorem bind_ok {x : Except ε α} {f : α → Except ε β} {b : β} :
    (x >>= f) = .ok b ↔ ∃ a, x = .ok a ∧ f a = .ok b := by
  constructor
  · intro h
    cases x with
    | error e => cases h
    | ok a => exact ⟨a, rfl, h⟩
  · rintro ⟨a, rfl, h⟩
    exact h

/-- A sequence returns something iff its first step does, and the rest after it. -/
theorem exists_bind_ok {x : Except ε α} {f : α → Except ε β} :
    (∃ b, (x >>= f) = .ok b) ↔ ∃ a, x = .ok a ∧ ∃ b, f a = .ok b := by
  simp only [bind_ok]
  constructor
  · rintro ⟨b, a, ha, hb⟩
    exact ⟨a, ha, b, hb⟩
  · rintro ⟨a, ha, b, hb⟩
    exact ⟨b, a, ha, hb⟩

/-- A sequence raises an error iff one of its steps does. -/
theorem bind_error {x : Except ε α} {f : α → Except ε β} {e : ε} :
    (x >>= f) = .error e ↔ x = .error e ∨ ∃ a, x = .ok a ∧ f a = .error e := by
  cases x <;> simp [bind, Except.bind]

theorem exists_bind_error {x : Except ε α} {f : α → Except ε β} :
    (∃ e, (x >>= f) = .error e) ↔
      (∃ e, x = .error e) ∨ ∃ a, x = .ok a ∧ ∃ e, f a = .error e := by
  simp only [bind_error]
  constructor
  · rintro ⟨e, h | ⟨a, ha, h⟩⟩
    · exact Or.inl ⟨e, h⟩
    · exact Or.inr ⟨a, ha, e, h⟩
  · rintro (⟨e, h⟩ | ⟨a, ha, e, h⟩)
    · exact ⟨e, Or.inl h⟩
    · exact ⟨e, Or.inr ⟨a, ha, h⟩⟩

theorem map_ok {x : Except ε α} {f : α → β} {b : β} :
    (f <$> x) = .ok b ↔ ∃ a, x = .ok a ∧ f a = b := by
  cases x <;> simp

/-! ### Loops -/

/-- What a loop that returned has returned, each from an element of the list. -/
theorem mem_of_mapM_ok {f : α → Except ε β} {as : List α} {bs : List β} (h : as.mapM f = .ok bs) :
    ∀ b ∈ bs, ∃ a ∈ as, f a = .ok b := by
  induction as generalizing bs with
  | nil =>
    rw [List.mapM_nil] at h
    cases h
    simp
  | cons a as ih =>
    rw [List.mapM_cons] at h
    obtain ⟨b₁, hb₁, h⟩ := bind_ok.mp h
    obtain ⟨bs₁, hbs₁, h⟩ := bind_ok.mp h
    cases h
    intro b hb
    rcases List.mem_cons.mp hb with rfl | hb
    · exact ⟨a, List.mem_cons_self .., hb₁⟩
    · obtain ⟨a', ha', hf⟩ := ih hbs₁ b hb
      exact ⟨a', List.mem_cons_of_mem _ ha', hf⟩

/-- A loop returns iff each of its rounds does, and then what they return, in their order. -/
theorem mapM_ok {f : α → Except ε β} {as : List α} {bs : List β} :
    as.mapM f = .ok bs ↔ List.Forall₂ (fun a b => f a = .ok b) as bs := by
  induction as generalizing bs with
  | nil =>
    rw [List.mapM_nil, List.forall₂_nil_left_iff]
    constructor
    · intro h
      cases h
      rfl
    · rintro rfl
      rfl
  | cons a as ih =>
    rw [List.mapM_cons, bind_ok, List.forall₂_cons_left_iff]
    constructor
    · rintro ⟨b, hb, h⟩
      obtain ⟨rest, hrest, h⟩ := bind_ok.mp h
      cases h
      exact ⟨b, rest, hb, ih.mp hrest, rfl⟩
    · rintro ⟨b, rest, hb, hrest, rfl⟩
      exact ⟨b, hb, bind_ok.mpr ⟨rest, ih.mpr hrest, rfl⟩⟩

/-- What a loop of rounds with known results returns. -/
theorem eq_map_of_mapM_ok {f : α → Except ε β} {g : α → β} {as : List α} {bs : List β}
    (h : as.mapM f = .ok bs) (hg : ∀ a ∈ as, ∀ b, f a = .ok b → b = g a) : bs = as.map g := by
  induction mapM_ok.mp h with
  | nil => rfl
  | @cons a b as bs hab hrest ih =>
    rw [List.map_cons, hg a List.mem_cons_self b hab,
      ih (mapM_ok.mpr hrest) fun a ha => hg a (List.mem_cons_of_mem _ ha)]

/-- What a loop returns names what it was run over, if every round does. -/
theorem map_eq_of_mapM_ok {f : α → Except ε β} {g : β → α} {as : List α} {bs : List β}
    (h : as.mapM f = .ok bs) (hg : ∀ a b, f a = .ok b → g b = a) : bs.map g = as := by
  induction mapM_ok.mp h with
  | nil => rfl
  | @cons a b as bs hab hrest ih => rw [List.map_cons, hg a b hab, ih (mapM_ok.mpr hrest)]

/-- And every element has its result. -/
theorem exists_of_mapM_ok {f : α → Except ε β} {as : List α} {bs : List β}
    (h : as.mapM f = .ok bs) : ∀ a ∈ as, ∃ b ∈ bs, f a = .ok b := by
  induction mapM_ok.mp h with
  | nil => simp
  | @cons a b as bs hab hrest ih =>
    intro a' ha'
    rcases List.mem_cons.mp ha' with rfl | ha'
    · exact ⟨b, List.mem_cons_self .., hab⟩
    · obtain ⟨b', hb', hf⟩ := ih (mapM_ok.mpr hrest) a' ha'
      exact ⟨b', List.mem_cons_of_mem _ hb', hf⟩

/-- Invariant rule for a loop that returned. -/
theorem foldlM_inv {f : β → α → Except ε β} {P : β → Prop} {as : List α} {b b' : β}
    (hstep : ∀ a ∈ as, ∀ b b', P b → f b a = .ok b' → P b') (hb : P b)
    (h : as.foldlM f b = .ok b') : P b' := by
  induction as generalizing b with
  | nil =>
    rw [List.foldlM_nil] at h
    cases h
    exact hb
  | cons a as ih =>
    rw [List.foldlM_cons] at h
    obtain ⟨b₁, hb₁, h⟩ := bind_ok.mp h
    refine ih (fun a' ha' => hstep a' (List.mem_cons_of_mem _ ha')) ?_ h
    exact hstep a (List.mem_cons_self ..) b b₁ hb hb₁

/-- A loop that combines what its rounds return returns iff every round does. -/
theorem exists_foldlM_map_ok {γ : Type} {f : α → Except ε γ} {g : β → α → γ → β} {as : List α}
    {b : β} : (∃ b', as.foldlM (fun b a => g b a <$> f a) b = .ok b') ↔
      ∀ a ∈ as, ∃ c, f a = .ok c := by
  induction as generalizing b with
  | nil => simp [pure, Except.pure]
  | cons a as ih =>
    rw [List.foldlM_cons, exists_bind_ok, List.forall_mem_cons]
    constructor
    · rintro ⟨b₁, hb₁, hrest⟩
      obtain ⟨c, hc, -⟩ := map_ok.mp hb₁
      exact ⟨⟨c, hc⟩, ih.mp hrest⟩
    · rintro ⟨⟨c, hc⟩, hrest⟩
      exact ⟨g b a c, map_ok.mpr ⟨c, hc, rfl⟩, ih.mpr hrest⟩

/-! ### Computations over a state -/

/-- Inversion rule over a state that is kept when something is raised. -/
theorem run_bind_ok {σ : Type} {x : EStateM ε σ α} {f : α → EStateM ε σ β} {s s' : σ} {b : β} :
    (x >>= f) s = .ok b s' ↔ ∃ a t, x s = .ok a t ∧ f a t = .ok b s' := by
  show EStateM.bind x f s = _ ↔ _
  unfold EStateM.bind
  cases x s <;> simp

theorem run_bind_error {σ : Type} {x : EStateM ε σ α} {f : α → EStateM ε σ β} {s s' : σ} {e : ε} :
    (x >>= f) s = .error e s' ↔
      x s = .error e s' ∨ ∃ a t, x s = .ok a t ∧ f a t = .error e s' := by
  show EStateM.bind x f s = _ ↔ _
  unfold EStateM.bind
  cases x s <;> simp

/-! ### Loops in any monad -/

section Monads

variable {m : Type → Type} [Monad m] [LawfulMonad m]

/-- A loop over the items that each element yields is a loop over the elements. -/
theorem forM_flatMap (as : List α) (g : α → List β) (f : β → m PUnit) :
    (as.flatMap g).forM f = as.forM fun a => (g a).forM f := by
  simp only [List.forM_eq_forM]
  induction as with
  | nil => rfl
  | cons a as ih => rw [List.flatMap_cons, List.forM_append, List.forM_cons, ih]

theorem forM_filterMap (as : List α) (g : α → Option β) (f : β → m PUnit) :
    (as.filterMap g).forM f = as.forM fun a => (g a).toList.forM f := by
  simp only [List.forM_eq_forM]
  induction as with
  | nil => rfl
  | cons a as ih =>
    rw [List.forM_cons, ← ih, List.filterMap_cons]
    cases g a with
    | none => rw [Option.toList_none, List.forM_nil, pure_bind]
    | some b => rw [Option.toList_some, List.forM_cons, List.forM_cons, List.forM_nil, bind_assoc,
        pure_bind]

end Monads

end Lib
