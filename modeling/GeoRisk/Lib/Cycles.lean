import Mathlib

/-! Closed lists, whose first item is also their last, and their sides, the pairs of items that follow
    each other. Where a cycle is cut open and which way it is walked changes the order of its sides
    only, and the direction of each:

        closed [a, b, c]      =  [a, b, c, a]           sides  ab  bc  ca
        closed (rotate 1)     =  [b, c, a, b]           sides  bc  ca  ab
        reverse               =  [a, c, b, a]           sides  ac  cb  ba                          -/

namespace Lib

variable {β γ : Type} {vs l : List β}

/-- The list that comes back to its first item. -/
def closed (vs : List β) : List β := vs ++ vs.head?.toList

/-- Each item with the next. -/
def sides (l : List β) : List (β × β) := l.zip l.tail

theorem mem_closed {v : β} : v ∈ closed vs ↔ v ∈ vs := by
  cases vs with
  | nil => rfl
  | cons w vs =>
    rw [closed, List.mem_append, List.head?_cons, Option.toList_some, List.mem_singleton]
    exact or_iff_left_of_imp fun h => h ▸ List.mem_cons_self

/-- A list whose ends agree is closed. -/
theorem closed_dropLast (hlen : 2 ≤ l.length) (hclosed : l.head? = l.getLast?) :
    closed l.dropLast = l := by
  match l, hlen with
  | v :: w :: rest, _ =>
    rw [List.head?_cons, List.getLast?_eq_some_getLast (by simp), Option.some_inj] at hclosed
    have hdrop := List.dropLast_append_getLast (l := v :: w :: rest) (by simp)
    rw [← hclosed] at hdrop
    rw [closed, List.dropLast_cons_cons, List.head?_cons]
    exact hdrop

theorem closed_cons (v : β) (vs : List β) : closed (v :: vs) = v :: vs ++ [v] := rfl

theorem length_closed (h : vs ≠ []) : (closed vs).length = vs.length + 1 := by
  cases vs with
  | nil => exact absurd rfl h
  | cons v vs => simp [closed_cons]

theorem dropLast_closed (h : vs ≠ []) : (closed vs).dropLast = vs := by
  cases vs with
  | nil => exact absurd rfl h
  | cons v vs => rw [closed_cons, List.dropLast_concat]

theorem closed_ends (vs : List β) : (closed vs).head? = (closed vs).getLast? := by
  cases vs with
  | nil => rfl
  | cons v vs =>
    rw [closed_cons, List.getLast?_concat]
    rfl

theorem zip_append_left {as bs cs : List β} (h : as.length = cs.length) :
    (as ++ bs).zip cs = as.zip cs := by
  have hzip := @List.zip_append _ _ _ bs _ [] h
  rwa [List.append_nil, List.zip_nil_right, List.append_nil] at hzip

/-- The sides of a closed list go round. -/
theorem sides_closed (vs : List β) : sides (closed vs) = vs.zip (vs.rotate 1) := by
  cases vs with
  | nil => rfl
  | cons v vs =>
    rw [List.rotate_cons_succ, List.rotate_zero]
    exact zip_append_left (by simp [closed_cons])

theorem sides_closed_rotate (vs : List β) (k : ℕ) :
    sides (closed (vs.rotate k)) = (sides (closed vs)).rotate k := by
  rw [sides_closed, sides_closed, List.rotate_rotate, Nat.add_comm, ← List.rotate_rotate]
  exact (List.zipWith_rotate_distrib Prod.mk vs (vs.rotate 1) k (by simp)).symm

/-- A side ends where the list goes on, so none begins in the last item. -/
theorem sides_eq (l : List β) : sides l = l.dropLast.zip l.tail := by
  rcases l.eq_nil_or_concat' with rfl | ⟨init, last, rfl⟩
  · rfl
  · rw [sides, List.dropLast_concat]
    exact zip_append_left (by simp)

/-- Walked back, every side is turned round. -/
theorem sides_reverse (l : List β) : sides l.reverse = ((sides l).map Prod.swap).reverse := by
  have hzip : l.reverse.dropLast.zip l.reverse.tail = (l.tail.zip l.dropLast).reverse := by
    rw [List.dropLast_reverse, List.tail_reverse]
    exact (List.reverse_zipWith (by simp)).symm
  rw [sides_eq, sides_eq, hzip, List.zip_swap]

theorem sides_map {γ : Type} (g : β → γ) (l : List β) :
    sides (l.map g) = (sides l).map (Prod.map g g) := by
  rw [sides, sides, ← List.map_tail]
  exact List.zip_map

/-! ### Sums over the sides -/

variable [AddCommMonoid γ]

theorem sum_sides_closed_rotate (f : β × β → γ) (vs : List β) (k : ℕ) :
    ((sides (closed (vs.rotate k))).map f).sum = ((sides (closed vs)).map f).sum := by
  rw [sides_closed_rotate]
  exact ((List.rotate_perm _ k).map f).sum_eq

theorem sum_sides_reverse (f : β × β → γ) (l : List β) :
    ((sides l.reverse).map f).sum = ((sides l).map fun s => f s.swap).sum := by
  rw [sides_reverse, List.map_reverse, List.map_map]
  exact (List.reverse_perm _).sum_eq

end Lib
