import GeoRisk.Lib.Cycles
import GeoRisk.Lib.Results

/-! Parities: how often, modulo two, a test that may fail holds along a list. Where a test fails in one
    way only, the order of the list does not matter, nor do items of which the test does not hold.
    So along a cycle neither its start matters nor a vertex that stands twice:

        a  b  c          sides  ab  bc  ca
        b  c  c  a       sides  bc  cc  ca  ab       the test does not hold of cc                  -/

namespace Lib

variable {ε α β : Type} {f : α → Except ε Bool} {l l' : List α} {b : Bool}

/-- Whether the test holds an odd number of times. -/
def parity (f : α → Except ε Bool) (l : List α) : Except ε Bool :=
  l.foldlM (fun odd a => do return xor odd (← f a)) false

/-- The parity from `b` on. -/
def parityFrom (f : α → Except ε Bool) (b : Bool) (l : List α) : Except ε Bool :=
  l.foldlM (fun odd a => do return xor odd (← f a)) b

/-- A test fails in one way only. -/
def OneError (f : α → Except ε Bool) : Prop := ∀ a a' e e', f a = .error e → f a' = .error e' → e = e'

theorem parityFrom_cons (a : α) : parityFrom f b (a :: l) = f a >>= fun c => parityFrom f (xor b c) l := by
  rw [parityFrom, List.foldlM_cons]
  cases f a <;> rfl

/-- The order does not matter. -/
theorem parityFrom_perm (hf : OneError f) (h : l.Perm l') : parityFrom f b l = parityFrom f b l' := by
  induction h generalizing b with
  | nil => rfl
  | cons a _ ih =>
    rw [parityFrom_cons, parityFrom_cons]
    exact congrArg _ (funext fun c => ih)
  | swap a a' l =>
    rw [parityFrom_cons, parityFrom_cons]
    cases ha : f a with
    | error e =>
      cases ha' : f a' with
      | error e' =>
        rw [hf a a' e e' ha ha']
        rfl
      | ok c =>
        change parityFrom f (xor b c) (a :: l) = _
        rw [parityFrom_cons, ha]
        rfl
    | ok c =>
      cases ha' : f a' with
      | error e =>
        change _ = parityFrom f (xor b c) (a' :: l)
        rw [parityFrom_cons, ha']
        rfl
      | ok c' =>
        change parityFrom f (xor b c') (a :: l) = parityFrom f (xor b c) (a' :: l)
        rw [parityFrom_cons, parityFrom_cons, ha, ha']
        change parityFrom f (xor (xor b c') c) l = parityFrom f (xor (xor b c) c') l
        rw [Bool.xor_right_comm]
  | trans _ _ ih ih' => exact ih.trans ih'

theorem parity_perm (hf : OneError f) (h : l.Perm l') : parity f l = parity f l' := parityFrom_perm hf h

/-- An item of which the test does not hold does not matter. -/
theorem parity_cons_of_not {a : α} (ha : f a = .ok false) : parity f (a :: l) = parity f l := by
  change parityFrom f false (a :: l) = _
  rw [parityFrom_cons, ha]
  change parityFrom f (xor false false) l = _
  rw [Bool.xor_false]
  rfl

theorem parity_eq_false (h : ∀ a ∈ l, f a = .ok false) : parity f l = .ok false := by
  induction l with
  | nil => rfl
  | cons a l ih =>
    rw [List.forall_mem_cons] at h
    rw [parity_cons_of_not h.1, ih h.2]

/-! ### Spellings of a cycle -/

/-- One way to write a cycle otherwise. -/
inductive Respelling : List β → List β → Prop
  | rotate (vs : List β) (k : ℕ) : Respelling vs (vs.rotate k)
  | close (vs : List β) : Respelling vs (closed vs)
  | repeat (before after : List β) (v : β) :
      Respelling (before ++ v :: after) (before ++ v :: v :: after)

/-- The same cycle, written in two ways. -/
def SameCycle : List β → List β → Prop := Relation.EqvGen Respelling

/-- Each item with the one before it, the first with the last. -/
def visits (vs : List β) : List (β × β) := vs.zip (vs.getLast?.toList ++ vs)

/-- The visits are the sides, turned round. -/
theorem visits_perm (vs : List β) : (visits vs).Perm ((sides (closed vs)).map Prod.swap) := by
  rcases vs.eq_nil_or_concat' with rfl | ⟨init, last, rfl⟩
  · exact .nil
  · have hrotate : (init ++ [last]).rotate init.length = last :: init :=
      List.rotate_append_length_eq init [last]
    have hvisits : visits (init ++ [last]) = (sides (closed (last :: init))).map Prod.swap := by
      rw [sides_closed, List.rotate_cons_succ, List.rotate_zero, visits, List.getLast?_concat,
        Option.toList_some, ← List.append_assoc, ← List.zip_swap, zip_append_left (by simp)]
      rfl
    rw [hvisits, ← hrotate, sides_closed_rotate]
    exact (List.rotate_perm _ _).map _

/-- Where an item is repeated, a side is put in that goes nowhere. -/
theorem sides_repeat_perm (before after : List β) (v : β) :
    (sides (before ++ v :: v :: after)).Perm ((v, v) :: sides (before ++ v :: after)) := by
  induction before with
  | nil => exact .refl _
  | cons w before ih =>
    cases before with
    | nil => exact .swap _ _ _
    | cons w' before => exact (ih.cons (w, w')).trans (.swap _ _ _)

section Invariance

variable {f : β × β → Except ε Bool} {vs vs' : List β}

/-- Along the sides of a cycle a test is met as often, modulo two, however the cycle is written, if
    it does not hold of a side that goes nowhere. -/
theorem parity_visits_respelling (hf : OneError f) (hstill : ∀ v, f (v, v) = .ok false)
    (h : Respelling vs vs') : parity f (visits vs) = parity f (visits vs') := by
  have hput : ∀ (v : β) (l l' : List (β × β)), l'.Perm ((v, v) :: l) →
      parity f (l.map Prod.swap) = parity f (l'.map Prod.swap) := by
    intro v l l' hl
    rw [parity_perm hf (hl.map Prod.swap), List.map_cons]
    exact (parity_cons_of_not (hstill v)).symm
  rw [parity_perm hf (visits_perm vs), parity_perm hf (visits_perm vs')]
  cases h with
  | rotate _ k =>
    rw [sides_closed_rotate]
    exact parity_perm hf ((List.rotate_perm _ k).map Prod.swap).symm
  | close =>
    cases vs with
    | nil => rfl
    | cons v vs =>
      have hclosed : closed (closed (v :: vs)) = (v :: vs) ++ v :: v :: [] := by
        rw [closed_cons, closed, List.append_assoc]
        rfl
      rw [hclosed]
      exact hput v _ _ (sides_repeat_perm (v :: vs) [] v)
  | «repeat» before after v =>
    have hhead : (before ++ v :: v :: after).head? = (before ++ v :: after).head? := by
      cases before <;> rfl
    rw [closed, closed, hhead, List.append_assoc, List.append_assoc]
    exact hput v _ _ (sides_repeat_perm before _ v)

theorem parity_visits_congr (hf : OneError f) (hstill : ∀ v, f (v, v) = .ok false)
    (h : SameCycle vs vs') : parity f (visits vs) = parity f (visits vs') := by
  induction h with
  | rel _ _ h => exact parity_visits_respelling hf hstill h
  | refl _ => rfl
  | symm _ _ _ ih => exact ih.symm
  | trans _ _ _ _ _ ih ih' => exact ih.trans ih'

theorem mem_visits {s : β × β} (h : s ∈ visits vs) : s.1 ∈ vs ∧ s.2 ∈ vs := by
  obtain ⟨s', hs', rfl⟩ := List.mem_map.mp ((visits_perm vs).mem_iff.mp h)
  have hmem := List.of_mem_zip (sides_closed vs ▸ hs')
  exact ⟨List.mem_rotate.mp hmem.2, hmem.1⟩

end Invariance

end Lib
