import Mathlib
import GeoRisk.Uuid

/-! What a column of the database holds. A text has no NUL, wherever it stands, and as many characters
    as its column has; an `integer` has 32 bits; a `jsonb` document has no infinity and no NaN. The
    texts that the program composes itself can be stored whenever their parts can. -/

namespace GeoRisk.DataAcquisition

/-- A text that the database stores: one without the character NUL. -/
def storable (text : String) : Bool := text.toList.all (· ≠ Char.ofNat 0)

/-- A text for a column of at most `limit` characters. -/
def fits (limit : ℕ) (text : String) : Bool := text.length ≤ limit && storable text

/-- A column of 32 bits. -/
def fitsInteger (n : ℤ) : Bool := -2 ^ 31 ≤ n && n < 2 ^ 31

/-- A `jsonb` column holds no infinity and no NaN. -/
def finite : PyFloat → Bool
  | .finite _ => true
  | .inf _ => false
  | .nan => false

mutual

/-- A document for a `jsonb` column. -/
def storableJson : Json → Bool
  | .null => true
  | .bool _ => true
  | .int _ => true
  | .float x => finite x
  | .str text => storable text
  | .arr items => storableItems items
  | .obj fields => storableFields fields

def storableItems : List Json → Bool
  | [] => true
  | item :: items => storableJson item && storableItems items

def storableFields : List (String × Json) → Bool
  | [] => true
  | (name, value) :: fields => storable name && storableJson value && storableFields fields

end

/-! ### Composed texts -/

@[simp] theorem storable_append (a b : String) :
    storable (a ++ b) = (storable a && storable b) := by
  rw [storable, String.toList_append, List.all_append]
  rfl

/-- An interpolated text is put in as it is. -/
@[simp] theorem toString_text (s : String) : toString s = s := rfl

/-- Two texts fit a column together that is as wide as both of theirs. -/
theorem fits_append {m n k : ℕ} {a b : String} (ha : fits m a = true) (hb : fits n b = true)
    (h : m + n ≤ k) : fits k (a ++ b) = true := by
  simp only [fits, Bool.and_eq_true, decide_eq_true_eq] at ha hb
  simp only [fits, storable_append, String.length_append, ha.2, hb.2, Bool.and_true,
    decide_eq_true_eq]
  omega

theorem storable_of_fits {limit : ℕ} {text : String} (h : fits limit text = true) :
    storable text = true :=
  (Bool.and_eq_true_iff.mp h).2

theorem storable_ofList {cs : List Char} : storable (String.ofList cs) = cs.all (· ≠ Char.ofNat 0) := by
  rw [storable, String.toList_ofList]

theorem digitChar_ne_nul {d : ℕ} (hd : d < 16) : Nat.digitChar d ≠ Char.ofNat 0 := by
  interval_cases d <;> decide

/-- `repr` of a character writes no NUL, least of all for a NUL. -/
theorem reprChar_ne_nul {q c c' : Char} (hq : q ≠ Char.ofNat 0) (h : c' ∈ reprChar q c) :
    c' ≠ Char.ofNat 0 := by
  have hpair : ∀ {a : Char}, a ≠ Char.ofNat 0 → c' ∈ ['\\', a] → c' ≠ Char.ofNat 0 := by
    intro a ha hmem
    rcases List.mem_pair.mp hmem with rfl | rfl
    · decide
    · exact ha
  unfold reprChar at h
  split at h
  · next hescaped =>
    refine hpair ?_ h
    rcases hescaped with rfl | rfl
    · exact hq
    · decide
  · split at h
    · exact hpair (by decide) h
    · split at h
      · exact hpair (by decide) h
      · split at h
        · exact hpair (by decide) h
        · split at h
          · next hcode =>
            have hhigh : c.toNat / 16 < 16 := by omega
            simp only [List.mem_cons, List.not_mem_nil, or_false] at h
            rcases h with rfl | rfl | rfl | rfl
            · decide
            · decide
            · exact digitChar_ne_nul hhigh
            · exact digitChar_ne_nul (Nat.mod_lt _ (by decide))
          · next hcode =>
            rw [List.mem_singleton.mp h]
            rintro rfl
            exact hcode (Or.inl (by decide))

@[simp] theorem storable_pyRepr (s : String) : storable (pyRepr s) = true := by
  unfold pyRepr
  dsimp only
  generalize hq : (if Char.ofNat 0x27 ∈ s.toList ∧ Char.ofNat 0x22 ∉ s.toList then
    Char.ofNat 0x22 else Char.ofNat 0x27) = q
  have hquote : q ≠ Char.ofNat 0 := by
    rw [← hq]
    split <;> decide
  rw [storable_ofList, List.all_eq_true]
  intro c hc
  refine decide_eq_true ?_
  rcases List.mem_append.mp hc with hc | hc
  · rcases List.mem_cons.mp hc with rfl | hc
    · exact hquote
    · obtain ⟨c', -, hc'⟩ := List.mem_flatMap.mp hc
      exact reprChar_ne_nul hquote hc'
  · rw [List.mem_singleton.mp hc]
    exact hquote

theorem storable_intercalate {sep : String} (hsep : storable sep = true) {texts : List String}
    (h : ∀ text ∈ texts, storable text = true) : storable (sep.intercalate texts) = true := by
  induction texts with
  | nil => rw [String.intercalate_nil]; rfl
  | cons text texts ih =>
    cases texts with
    | nil =>
      rw [String.intercalate_singleton]
      exact h text (List.mem_singleton_self _)
    | cons next rest =>
      rw [String.intercalate_cons_cons]
      simp only [storable_append, Bool.and_eq_true]
      exact ⟨⟨h text (List.mem_cons_self ..), hsep⟩,
        ih fun text' hmem => h text' (List.mem_cons_of_mem _ hmem)⟩

theorem storable_of_isDigit {cs : List Char} (h : ∀ c ∈ cs, c.isDigit = true) :
    storable (String.ofList cs) = true := by
  rw [storable_ofList, List.all_eq_true]
  intro c hc
  refine decide_eq_true ?_
  rintro rfl
  exact absurd (h _ hc) (by decide)

@[simp] theorem storable_nat (n : ℕ) : storable n.repr = true := by
  rw [← Nat.toString_eq_repr, Nat.toString_eq_ofList_toDigits]
  exact storable_of_isDigit fun c hc => Nat.isDigit_of_mem_toDigits (by decide) (by decide) hc

@[simp] theorem storable_int (n : ℤ) : storable n.repr = true := by
  rw [Int.repr_eq_if]
  split
  · exact storable_nat _
  · rw [storable_append, storable_nat, Bool.and_true]
    decide

/-- What holds of the digits of a UUID and of the hyphen holds of the characters of its spelling. -/
theorem uuid_str_forall {P : Char → Prop} (hhyphen : P '-') (hdigit : ∀ d < 16, P (Nat.digitChar d))
    (u : UUID) : ∀ c ∈ u.str.toList, P c := by
  intro c hc
  by_cases hc' : c = '-'
  · exact hc' ▸ hhyphen
  · have hmem : c ∈ u.str.toList.filter (fun c => c ≠ '-') :=
      List.mem_filter.mpr ⟨hc, decide_eq_true hc'⟩
    rw [UUID.filter_str] at hmem
    obtain ⟨d, hd, rfl⟩ := List.mem_map.mp hmem
    exact hdigit d (digitsBelow_lt hd)

@[simp] theorem storable_uuid (u : UUID) : storable u.str = true := by
  rw [storable, List.all_eq_true]
  intro c hc
  refine decide_eq_true ?_
  exact uuid_str_forall (P := fun c => c ≠ Char.ofNat 0) (by decide)
    (fun d hd => digitChar_ne_nul hd) u c hc

theorem uuid_str_length (u : UUID) : u.str.length = 36 := by
  have hgroups : ∀ hex : List Char, hex.length = 32 →
      (hex.take 8 ++ '-' :: (hex.drop 8).take 4 ++ '-' :: (hex.drop 12).take 4 ++
        '-' :: (hex.drop 16).take 4 ++ '-' :: hex.drop 20).length = 36 := by
    intro hex h
    simp [h]
  unfold UUID.str
  dsimp only
  rw [String.length_ofList]
  exact hgroups _ (by simp)

theorem fits_uuid (u : UUID) : fits 36 u.str = true := by
  simp [fits, uuid_str_length]

end GeoRisk.DataAcquisition
