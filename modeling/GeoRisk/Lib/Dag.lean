import Mathlib

/-! Dependency graphs given as an insertion-ordered dictionary from nodes to the set of nodes each
    one requires, and Kahn's elimination over them: repeated passes that resolve every node whose
    requirements are all resolved. Passes are run until one resolves nothing. The nodes left over
    are the ones a cycle keeps back; when none is left the order of resolution is a topological
    order, which yields an induction principle over the graph. -/

namespace Lib

variable {α : Type} [DecidableEq α]

/-- In `l` every node comes after all the nodes it requires. -/
def TopoOrdered (req : α → Finset α) (l : List α) : Prop :=
  ∀ pre a suf, l = pre ++ a :: suf → ∀ b ∈ req a, b ∈ pre

omit [DecidableEq α] in
theorem topoOrdered_nil (req : α → Finset α) : TopoOrdered req [] := by
  intro pre a suf h; simp at h

omit [DecidableEq α] in
/-- Appending a node whose requirements are all there. -/
theorem topoOrdered_concat {req : α → Finset α} {l : List α} {a : α} (hl : TopoOrdered req l)
    (ha : ∀ b ∈ req a, b ∈ l) : TopoOrdered req (l ++ [a]) := by
  intro pre c suf h b hb
  rcases List.eq_nil_or_concat suf with rfl | ⟨suf', z, rfl⟩
  · obtain ⟨h1, h2⟩ := List.append_inj' (h : l ++ [a] = pre ++ [c]) rfl
    obtain rfl : a = c := by simpa using h2
    exact h1 ▸ ha b hb
  · rw [List.concat_eq_append, ← List.cons_append, ← List.append_assoc] at h
    obtain ⟨h1, _⟩ := List.append_inj' h rfl
    exact hl pre c suf' h1 b hb

omit [DecidableEq α] in
/-- What passes from a node's requirements to the node holds of all nodes of a topological order. -/
theorem TopoOrdered.induct {req : α → Finset α} {P : α → Prop}
    (hP : ∀ a, (∀ b ∈ req a, P b) → P a) {l : List α} (hl : TopoOrdered req l) :
    ∀ a ∈ l, P a := by
  induction l using List.reverseRecOn with
  | nil => simp
  | append_singleton l z ih =>
    have hl' : TopoOrdered req l := by
      rintro pre a suf rfl b hb
      exact hl pre a (suf ++ [z]) (by simp) b hb
    intro a ha
    rcases List.mem_append.mp ha with h | h
    · exact ih hl' a h
    · obtain rfl : a = z := by simpa using h
      exact hP a fun b hb => ih hl' b (hl l a [] (by simp) b hb)

/-! ### Kahn's elimination -/

/-- One pass over the unresolved nodes, in order: a node whose requirements are all resolved by now
    is resolved, the others stay. Returns what stays and the resolved nodes, latest last. -/
def resolvePass : List (α × Finset α) → List α → List (α × Finset α) × List α
  | [], resolved => ([], resolved)
  | (a, req) :: rest, resolved =>
    if ∀ b ∈ req, b ∈ resolved then resolvePass rest (resolved ++ [a])
    else ((a, req) :: (resolvePass rest resolved).1, (resolvePass rest resolved).2)

/-- Passes until one makes no progress. A pass that progresses removes a node, so `fuel` passes
    suffice when `fuel` is at least the number of nodes. -/
def resolveAll : ℕ → List (α × Finset α) → List α → List (α × Finset α) × List α
  | 0, remaining, resolved => (remaining, resolved)
  | fuel + 1, remaining, resolved =>
    if (resolvePass remaining resolved).1.length < remaining.length then
      resolveAll fuel (resolvePass remaining resolved).1 (resolvePass remaining resolved).2
    else (remaining, resolved)

/-- A pass keeps the nodes: each one is resolved or stays with its requirements. -/
theorem resolvePass_perm : ∀ (remaining : List (α × Finset α)) (resolved : List α),
    ((resolvePass remaining resolved).1.map Prod.fst ++ (resolvePass remaining resolved).2).Perm
      (remaining.map Prod.fst ++ resolved)
  | [], resolved => by simp [resolvePass]
  | (a, req) :: rest, resolved => by
    rw [resolvePass]
    split
    · refine (resolvePass_perm rest (resolved ++ [a])).trans ?_
      rw [List.map_cons, ← List.append_assoc]
      exact List.perm_append_singleton a _
    · exact (resolvePass_perm rest resolved).cons a

theorem resolvePass_subset : ∀ (remaining : List (α × Finset α)) (resolved : List α),
    (resolvePass remaining resolved).1 ⊆ remaining
  | [], _ => by simp [resolvePass]
  | (a, req) :: rest, resolved => by
    rw [resolvePass]
    split
    · exact List.subset_cons_of_subset _ (resolvePass_subset rest _)
    · exact List.cons_subset_cons _ (resolvePass_subset rest _)

/-- A pass extends a topological order to a topological order. -/
theorem resolvePass_topo (req : α → Finset α) :
    ∀ (remaining : List (α × Finset α)) (resolved : List α),
      (∀ p ∈ remaining, req p.1 = p.2) → TopoOrdered req resolved →
      TopoOrdered req (resolvePass remaining resolved).2
  | [], _, _, h => h
  | (a, r) :: rest, resolved, hreq, h => by
    have hrest : ∀ p ∈ rest, req p.1 = p.2 := fun p hp => hreq p (List.mem_cons_of_mem _ hp)
    rw [resolvePass]
    split
    · next hall =>
      refine resolvePass_topo req rest _ hrest (topoOrdered_concat h ?_)
      have ha : req a = r := hreq (a, r) (List.mem_cons_self ..)
      rw [ha]; exact hall
    · exact resolvePass_topo req rest _ hrest h

theorem resolveAll_perm : ∀ (fuel : ℕ) (remaining : List (α × Finset α)) (resolved : List α),
    ((resolveAll fuel remaining resolved).1.map Prod.fst ++
        (resolveAll fuel remaining resolved).2).Perm (remaining.map Prod.fst ++ resolved)
  | 0, _, _ => List.Perm.refl _
  | fuel + 1, remaining, resolved => by
    rw [resolveAll]
    split
    · exact (resolveAll_perm fuel _ _).trans (resolvePass_perm remaining resolved)
    · exact List.Perm.refl _

theorem resolveAll_topo (req : α → Finset α) :
    ∀ (fuel : ℕ) (remaining : List (α × Finset α)) (resolved : List α),
      (∀ p ∈ remaining, req p.1 = p.2) → TopoOrdered req resolved →
      TopoOrdered req (resolveAll fuel remaining resolved).2
  | 0, _, _, _, h => h
  | fuel + 1, remaining, resolved, hreq, h => by
    rw [resolveAll]
    split
    · refine resolveAll_topo req fuel _ _ (fun p hp => ?_) (resolvePass_topo req _ _ hreq h)
      exact hreq p (resolvePass_subset _ _ hp)
    · exact h

/-- Soundness: when nothing is left over, the resolved nodes are all the nodes of the graph, in a
    topological order. -/
theorem resolveAll_sound {req : α → Finset α} {nodes : List (α × Finset α)} {fuel : ℕ}
    (hreq : ∀ p ∈ nodes, req p.1 = p.2) (h : (resolveAll fuel nodes []).1 = []) :
    (resolveAll fuel nodes []).2.Perm (nodes.map Prod.fst) ∧
      TopoOrdered req (resolveAll fuel nodes []).2 := by
  refine ⟨?_, resolveAll_topo req fuel nodes [] hreq (topoOrdered_nil req)⟩
  have hp := resolveAll_perm fuel nodes []
  rw [h] at hp
  simpa using hp

/-! ### Acyclic graphs are the ones that resolve -/

/-- No path leads from a node back to it. -/
def Acyclic {α : Type} (r : α → α → Prop) : Prop := ∀ a, ¬ Relation.TransGen r a a

/-- `a` is a node that requires `b`. -/
def Requires {α : Type} (nodes : List (α × Finset α)) (b a : α) : Prop :=
  ∃ req, (a, req) ∈ nodes ∧ b ∈ req

omit [DecidableEq α] in
theorem acyclic_of_wellFounded {r : α → α → Prop} (h : WellFounded r) : Acyclic r :=
  fun a => h.transGen.irrefl.irrefl a

omit [DecidableEq α] in
/-- Nodes each of which has a predecessor among them lie on or behind a cycle. -/
theorem not_acyclic_of_closed {r : α → α → Prop} {l : List α} (hne : l ≠ [])
    (h : ∀ a ∈ l, ∃ b ∈ l, r b a) : ¬ Acyclic r := by
  intro hA
  have : IsTrans α (Relation.TransGen r) := ⟨fun _ _ _ => Relation.TransGen.trans⟩
  have : Std.Irrefl (Relation.TransGen r) := ⟨hA⟩
  have : IsStrictOrder α (Relation.TransGen r) := {}
  have hwf : {a | a ∈ l}.WellFoundedOn (Relation.TransGen r) := l.finite_toSet.wellFoundedOn
  obtain ⟨a, ha⟩ := List.exists_mem_of_ne_nil l hne
  refine hwf.induction (P := fun _ => False) ha fun y hy ih => ?_
  obtain ⟨b, hb, hr⟩ := h y hy
  exact ih b hb (.single hr)

/-- A topological order of all nodes leaves no room for a cycle. -/
theorem acyclic_of_resolved {req : α → Finset α} {nodes : List (α × Finset α)} {fuel : ℕ}
    (hreq : ∀ p ∈ nodes, req p.1 = p.2) (h : (resolveAll fuel nodes []).1 = []) :
    Acyclic (Requires nodes) := by
  obtain ⟨hperm, htopo⟩ := resolveAll_sound hreq h
  have hstep : ∀ a, (∀ b ∈ req a, Acc (Requires nodes) b) → Acc (Requires nodes) a := by
    intro a ha
    refine Acc.intro a fun b hb => ?_
    obtain ⟨r, hr, hbr⟩ := hb
    exact ha b (hreq _ hr ▸ hbr)
  refine acyclic_of_wellFounded ⟨fun a => Acc.intro a fun b hb => ?_⟩
  obtain ⟨r, hr, hbr⟩ := hb
  have ha : a ∈ (resolveAll fuel nodes []).2 :=
    hperm.mem_iff.mpr (List.mem_map_of_mem (f := Prod.fst) hr)
  exact (htopo.induct hstep a ha).inv ⟨r, hr, hbr⟩

theorem resolvePass_length : ∀ (remaining : List (α × Finset α)) (resolved : List α),
    (resolvePass remaining resolved).1.length ≤ remaining.length
  | [], _ => le_rfl
  | (a, req) :: rest, resolved => by
    rw [resolvePass]
    split
    · exact (resolvePass_length rest _).trans (Nat.le_succ _)
    · exact Nat.succ_le_succ (resolvePass_length rest _)

/-- A pass that resolves nothing had no node to resolve. -/
theorem resolvePass_stuck : ∀ (remaining : List (α × Finset α)) (resolved : List α),
    ¬ (resolvePass remaining resolved).1.length < remaining.length →
    ∀ p ∈ remaining, ¬ ∀ b ∈ p.2, b ∈ resolved
  | [], _, _ => by simp
  | (a, req) :: rest, resolved, hstuck => by
    rw [resolvePass] at hstuck
    split at hstuck
    · have := resolvePass_length rest (resolved ++ [a])
      simp only [List.length_cons] at hstuck
      omega
    · next hreq =>
      rw [List.length_cons, List.length_cons, Nat.add_lt_add_iff_right] at hstuck
      intro p hp
      rcases List.mem_cons.mp hp with rfl | hp
      · exact hreq
      · exact resolvePass_stuck rest resolved hstuck p hp

/-- With enough passes the nodes left over are ones that no pass resolves. -/
theorem resolveAll_stuck : ∀ (fuel : ℕ) (remaining : List (α × Finset α)) (resolved : List α),
    remaining.length ≤ fuel → ∀ p ∈ (resolveAll fuel remaining resolved).1,
      ¬ ∀ b ∈ p.2, b ∈ (resolveAll fuel remaining resolved).2
  | 0, remaining, _, hfuel => by
    obtain rfl : remaining = [] := List.length_eq_zero_iff.mp (by omega)
    simp [resolveAll]
  | fuel + 1, remaining, resolved, hfuel => by
    rw [resolveAll]
    split
    · exact resolveAll_stuck fuel _ _ (by omega)
    · next hstuck => exact resolvePass_stuck remaining resolved hstuck

theorem resolveAll_subset : ∀ (fuel : ℕ) (remaining : List (α × Finset α)) (resolved : List α),
    (resolveAll fuel remaining resolved).1 ⊆ remaining
  | 0, _, _ => List.Subset.refl _
  | fuel + 1, remaining, resolved => by
    rw [resolveAll]
    split
    · exact fun p hp => resolvePass_subset _ _ (resolveAll_subset fuel _ _ hp)
    · exact List.Subset.refl _

/-- Kahn's elimination decides acyclicity: of a graph whose requirements are all nodes, nothing is
    left over iff no node lies on a cycle. -/
theorem resolveAll_eq_nil_iff {req : α → Finset α} {nodes : List (α × Finset α)}
    (hreq : ∀ p ∈ nodes, req p.1 = p.2) (hclosed : ∀ p ∈ nodes, ∀ b ∈ p.2, b ∈ nodes.map Prod.fst) :
    (resolveAll nodes.length nodes []).1 = [] ↔ Acyclic (Requires nodes) := by
  refine ⟨acyclic_of_resolved hreq, fun hA => ?_⟩
  by_contra hne
  set left := (resolveAll nodes.length nodes []).1 with hleft
  -- every node left over waits for another one
  refine not_acyclic_of_closed (l := left.map Prod.fst) (by simpa using hne) ?_ hA
  intro a ha
  obtain ⟨p, hp, rfl⟩ := List.mem_map.mp ha
  obtain ⟨b, hb, hbres⟩ : ∃ b ∈ p.2, b ∉ (resolveAll nodes.length nodes []).2 := by
    simpa using resolveAll_stuck nodes.length nodes [] le_rfl p hp
  have hmem : p ∈ nodes := resolveAll_subset _ _ _ hp
  have hperm := resolveAll_perm nodes.length nodes []
  rw [List.append_nil] at hperm
  have hb' := hperm.mem_iff.mpr (hclosed p hmem b hb)
  exact ⟨b, (List.mem_append.mp hb').resolve_right hbres, p.2, hmem, hb⟩

end Lib
