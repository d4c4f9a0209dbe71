import Mathlib

/-! Version chains: the rows of one versioned document. Each new version retires the one before it
    and is built on it, and only the newest is live:

        v1 ◀── v2 ◀── … ◀── vn
        └───── retired ─────┘ live

    The rows may stand in any order; what a row says of itself is a `Versioned`. -/

namespace Lib

/-- What a row of a versioned document says. -/
structure Versioned (Row : Type) where
  version : Row → ℕ
  live : Row → Prop
  retired : Row → Prop
  /-- `follows r r'`: the row `r'` is built on `r`. -/
  follows : Row → Row → Prop

variable {Row : Type} {V : Versioned Row} {rows : List Row}

/-- The rows are the versions `1..n` of one document. -/
structure VersionChain (V : Versioned Row) (rows : List Row) : Prop where
  versions : (rows.map V.version).Perm (List.range' 1 rows.length)
  live : ∀ r ∈ rows, V.version r = rows.length → V.live r
  retired : ∀ r ∈ rows, V.version r ≠ rows.length → V.retired r
  linked : ∀ r ∈ rows, ∀ r' ∈ rows, V.version r' = V.version r + 1 → V.follows r r'

/-- Where no version is there twice, the version says which row it is. -/
theorem eq_of_version (hversions : (rows.map V.version).Perm (List.range' 1 rows.length))
    {r r' : Row} (hr : r ∈ rows) (hr' : r' ∈ rows) (h : V.version r = V.version r') : r = r' :=
  List.inj_on_of_nodup_map (hversions.symm.nodup List.nodup_range') hr hr' h

namespace VersionChain

theorem nil : VersionChain V [] where
  versions := List.Perm.refl []
  live := by simp
  retired := by simp
  linked := by simp

/-- The newest version. -/
theorem exists_newest (h : VersionChain V rows) (hne : rows ≠ []) :
    ∃ r ∈ rows, V.version r = rows.length ∧ V.live r := by
  have hpos : 0 < rows.length := List.length_pos_of_ne_nil hne
  have hmem : rows.length ∈ rows.map V.version :=
    h.versions.symm.subset (List.mem_range'_1.mpr (by omega))
  obtain ⟨r, hr, hversion⟩ := List.mem_map.mp hmem
  exact ⟨r, hr, hversion, h.live r hr hversion⟩

/-- Where no live row is retired, only the newest is live. -/
theorem version_of_live (h : VersionChain V rows) (hexcl : ∀ r, V.live r → ¬ V.retired r) {r : Row}
    (hr : r ∈ rows) (hlive : V.live r) : V.version r = rows.length := by
  by_contra hne
  exact hexcl r hlive (h.retired r hr hne)

/-- Extension rule: a new version is added, built on the newest of the rows, all of which retire. -/
theorem extend (h : VersionChain V rows) (retire : Row → Row) {new : Row}
    (hversion : ∀ r ∈ rows, V.version (retire r) = V.version r)
    (hretired : ∀ r ∈ rows, V.retired (retire r))
    (hfollows : ∀ r ∈ rows, ∀ r' ∈ rows, V.follows r r' → V.follows (retire r) (retire r'))
    (hnew : V.version new = rows.length + 1) (hlive : V.live new)
    (hlast : ∀ r ∈ rows, V.version r = rows.length → V.follows (retire r) new) :
    VersionChain V (rows.map retire ++ [new]) := by
  have hle : ∀ r ∈ rows, V.version r ≤ rows.length := by
    intro r hr
    have hmem := h.versions.subset (List.mem_map_of_mem hr)
    rw [List.mem_range'_1] at hmem
    omega
  have hlength : (rows.map retire ++ [new]).length = rows.length + 1 := by simp
  have hcases : ∀ r ∈ rows.map retire ++ [new], (∃ r₀ ∈ rows, retire r₀ = r) ∨ r = new := by
    intro r hr
    rcases List.mem_append.mp hr with hr | hr
    · exact Or.inl (List.mem_map.mp hr)
    · exact Or.inr (List.mem_singleton.mp hr)
  constructor
  case versions =>
    have hsame : rows.map (V.version ∘ retire) = rows.map V.version :=
      List.map_congr_left hversion
    rw [hlength, List.range'_concat, List.map_append, List.map_map, hsame, List.map_singleton, hnew]
    have hlast : rows.length + 1 = 1 + 1 * rows.length := by omega
    rw [hlast]
    exact h.versions.append_right _
  case live =>
    intro r hr hv
    rcases hcases r hr with ⟨r₀, hr₀, rfl⟩ | rfl
    · have := hle r₀ hr₀
      rw [hversion r₀ hr₀] at hv
      omega
    · exact hlive
  case retired =>
    intro r hr hv
    rcases hcases r hr with ⟨r₀, hr₀, rfl⟩ | rfl
    · exact hretired r₀ hr₀
    · omega
  case linked =>
    intro r hr r' hr' hv
    rcases hcases r hr with ⟨r₀, hr₀, rfl⟩ | rfl
    · rw [hversion r₀ hr₀] at hv
      rcases hcases r' hr' with ⟨r₁, hr₁, rfl⟩ | rfl
      · rw [hversion r₁ hr₁] at hv
        exact hfollows r₀ hr₀ r₁ hr₁ (h.linked r₀ hr₀ r₁ hr₁ hv)
      · exact hlast r₀ hr₀ (by omega)
    · rcases hcases r' hr' with ⟨r₁, hr₁, rfl⟩ | rfl
      · have := hle r₁ hr₁
        rw [hversion r₁ hr₁] at hv
        omega
      · omega

/-- A document starts with its first version. -/
theorem singleton {new : Row} (hnew : V.version new = 1) (hlive : V.live new) :
    VersionChain V [new] :=
  nil.extend id (by simp) (by simp) (by simp) hnew hlive (by simp)

end VersionChain

end Lib
