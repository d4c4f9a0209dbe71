import Mathlib

/-! Boxes in the plane, ordered by inclusion. A box around points whose four sides are each met by one
    of them is the smallest:

        ┌──────●───┐
        ●     ●    │
        │          ●
        └──●───────┘                                                                             -/

namespace Lib

structure Box (α : Type) where
  minX : α
  minY : α
  maxX : α
  maxY : α

namespace Box

variable {α : Type} [LE α] {b b' : Box α} {p : α × α} {ps : List (α × α)}

instance : Membership (α × α) (Box α) where
  mem b p := (b.minX ≤ p.1 ∧ p.1 ≤ b.maxX) ∧ b.minY ≤ p.2 ∧ p.2 ≤ b.maxY

/-- Inclusion. -/
instance : LE (Box α) where
  le b b' := (b'.minX ≤ b.minX ∧ b.maxX ≤ b'.maxX) ∧ b'.minY ≤ b.minY ∧ b.maxY ≤ b'.maxY

/-- Every side is met by one of the points. -/
structure Touches (b : Box α) (ps : List (α × α)) : Prop where
  minX : b.minX ∈ ps.map Prod.fst
  minY : b.minY ∈ ps.map Prod.snd
  maxX : b.maxX ∈ ps.map Prod.fst
  maxY : b.maxY ∈ ps.map Prod.snd

theorem isLeast_of_touches (hmem : ∀ p ∈ ps, p ∈ b) (htouch : b.Touches ps) :
    IsLeast {b : Box α | ∀ p ∈ ps, p ∈ b} b := by
  refine ⟨hmem, fun b' hb' => ?_⟩
  have hfst : ∀ x ∈ ps.map Prod.fst, b'.minX ≤ x ∧ x ≤ b'.maxX := by
    intro x hx
    obtain ⟨p, hp, rfl⟩ := List.mem_map.mp hx
    exact (hb' p hp).1
  have hsnd : ∀ y ∈ ps.map Prod.snd, b'.minY ≤ y ∧ y ≤ b'.maxY := by
    intro y hy
    obtain ⟨p, hp, rfl⟩ := List.mem_map.mp hy
    exact (hb' p hp).2
  exact ⟨⟨(hfst _ htouch.minX).1, (hfst _ htouch.maxX).2⟩, (hsnd _ htouch.minY).1,
    (hsnd _ htouch.maxY).2⟩

end Box

end Lib
