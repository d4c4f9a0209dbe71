import GeoRisk.Analysis.RawInputs
import GeoRisk.Lib.Outcomes

/-! How the calculators read. What is there and is a number is read; a number is checked to lie between
    0 and 1, and the check raises one kind of error only:

        lookup ─▶ KeyError     number ─▶ TypeError     0 ≤ x ≤ 1 ─▶ InvalidIndicatorInputError
           └──────────┬───────────┘                         └ allowed in `checkUnit_meets`
                  excluded by `HasNumber` -/

namespace GeoRisk.Analysis

open Strategies Lib

section Given

variable {α : Type}

/-- An `InvalidIndicatorInputError`. -/
def IsInvalidInput (e : ComputeError α) : Prop := ∃ error, e = .invalidIndicatorInput error

def IsNumber (value : RawValue α) : Prop := ∃ x, value = .number x

def HasNumber (inputs : RawInputs α) (key : String) : Prop :=
  ∃ value, inputs.lookup key = some value ∧ IsNumber value

/-- The numbers under some keys. -/
def NumbersAt (inputs : RawInputs α) (keys : List String) (xs : List α) : Prop :=
  List.Forall₂ (fun key x => inputs.lookup key = some (.number x)) keys xs

end Given

/-! ### Numbers -/

section Reading

variable {α : Type} {allowed : ComputeError α → Prop} {inputs record : RawInputs α} {key : String}
  {keys : List String} {xs : List α}

theorem item_meets (h : HasNumber inputs key) :
    Meets allowed (fun v => inputs.lookup key = some v ∧ IsNumber v) (item inputs key) := by
  obtain ⟨value, hvalue, hnumber⟩ := h
  rw [item_ok.mpr hvalue]
  exact ⟨hvalue, hnumber⟩

theorem toNumber_meets {value : RawValue α} (h : IsNumber value) :
    Meets allowed (fun x => value = .number x) value.toNumber := by
  obtain ⟨x, rfl⟩ := h
  exact rfl

theorem toNumber_map_ok (xs : List α) : (xs.map .number).mapM RawValue.toNumber = .ok xs := by
  induction xs with
  | nil => rfl
  | cons x xs ih =>
    rw [List.map_cons, List.mapM_cons, ih]
    rfl

/-- All values are numbers: the loop that reads them returns them. -/
theorem numbers_meets {values : List (RawValue α)} (h : ∀ v ∈ values, IsNumber v) :
    Meets allowed (fun xs => values = xs.map .number) (values.mapM RawValue.toNumber) := by
  refine (Meets.mapM fun v hv => toNumber_meets (h v hv)).post fun xs hxs => ?_
  induction hxs with
  | nil => rfl
  | cons hx _ ih => rw [hx, ih fun v hv => h v (List.mem_cons_of_mem _ hv), List.map_cons]

/-- And it returns for no other values. -/
theorem isNumber_of_numbers {values : List (RawValue α)}
    (h : values.mapM RawValue.toNumber = .ok xs) : ∀ v ∈ values, IsNumber v := by
  intro v hv
  obtain ⟨x, -, hx⟩ := Lib.exists_of_mapM_ok h v hv
  exact ⟨x, toNumber_ok.mp hx⟩

/-! ### Numbers under keys -/

theorem HasNumber.of_lookup {value : RawValue α} (hvalue : inputs.lookup key = some value)
    (h : IsNumber value) : HasNumber inputs key := ⟨value, hvalue, h⟩

theorem exists_numbersAt (h : ∀ key ∈ keys, HasNumber record key) :
    ∃ xs, NumbersAt record keys xs := by
  induction keys with
  | nil => exact ⟨[], .nil⟩
  | cons key keys ih =>
    obtain ⟨value, hvalue, x, rfl⟩ := h key (by simp)
    obtain ⟨xs, hxs⟩ := ih fun key hkey => h key (List.mem_cons_of_mem _ hkey)
    exact ⟨x :: xs, .cons hvalue hxs⟩

theorem NumbersAt.of_lookup (h : NumbersAt record keys xs)
    (heq : ∀ key ∈ keys, inputs.lookup key = record.lookup key) : NumbersAt inputs keys xs := by
  induction h with
  | nil => exact .nil
  | cons hx _ ih =>
    refine .cons ((heq _ (by simp)).trans hx) (ih fun key hkey => ?_)
    exact heq key (List.mem_cons_of_mem _ hkey)

theorem NumbersAt.unique {ys : List α} (h : NumbersAt record keys xs)
    (h' : NumbersAt record keys ys) : xs = ys := by
  induction h generalizing ys with
  | nil => cases h'; rfl
  | cons hx _ ih =>
    cases h' with
    | cons hy hys =>
      cases hx.symm.trans hy
      rw [ih hys]

theorem NumbersAt.mem (h : NumbersAt record keys xs) {x : α} (hx : x ∈ xs) :
    ∃ key ∈ keys, record.lookup key = some (.number x) := exists_of_forall₂ h hx

theorem NumbersAt.hasNumber (h : NumbersAt record keys xs) (hkey : key ∈ keys) :
    HasNumber record key := by
  obtain ⟨x, -, hx⟩ := exists_of_forall₂ h.flip hkey
  exact ⟨_, hx, x, rfl⟩

theorem entries_meets (h : ∀ key ∈ keys, HasNumber inputs key) :
    Meets allowed (fun data => data.map Prod.fst = keys ∧
      ∀ p ∈ data, inputs.lookup p.1 = some p.2 ∧ IsNumber p.2) (entries inputs keys) := by
  refine (Meets.mapM fun key hkey => (item_meets (h key hkey)).bind fun v hv =>
    (show Meets allowed (fun p : String × RawValue α => p.1 = key ∧ inputs.lookup key = some p.2 ∧
      IsNumber p.2) (.ok (key, v)) from ⟨rfl, hv⟩)).post fun data hdata => ?_
  induction hdata with
  | nil => exact ⟨rfl, by simp⟩
  | @cons key p keys data hp _ ih =>
    obtain ⟨hkeys, hrest⟩ := ih fun k hk => h k (List.mem_cons_of_mem _ hk)
    obtain ⟨rfl, hp⟩ := hp
    refine ⟨by rw [List.map_cons, hkeys], fun q hq => ?_⟩
    rcases List.mem_cons.mp hq with rfl | hq
    · exact hp
    · exact hrest q hq

/-- What was copied out of a dictionary is read in the copy. -/
theorem hasNumber_of_entries {data : RawInputs α}
    (h : data.map Prod.fst = keys ∧ ∀ p ∈ data, inputs.lookup p.1 = some p.2 ∧ IsNumber p.2)
    (hkey : key ∈ keys) : HasNumber data key := by
  obtain ⟨value, hvalue, hmem⟩ := exists_lookup (h.1 ▸ hkey : key ∈ data.map Prod.fst)
  exact ⟨value, hvalue, (h.2 _ hmem).2⟩

theorem lookup_of_entries {data : RawInputs α}
    (h : data.map Prod.fst = keys ∧ ∀ p ∈ data, inputs.lookup p.1 = some p.2 ∧ IsNumber p.2)
    (hkey : key ∈ keys) : data.lookup key = inputs.lookup key := by
  obtain ⟨value, hvalue, hmem⟩ := exists_lookup (h.1 ▸ hkey : key ∈ data.map Prod.fst)
  rw [hvalue, (h.2 _ hmem).1]

variable [Field α] [LinearOrder α]

theorem checkUnit_meets {error : α → InvalidIndicatorInput α} {value : RawValue α}
    (h : IsNumber value) :
    Meets IsInvalidInput (fun x => value = .number x ∧ 0 ≤ x ∧ x ≤ 1) (checkUnit error value) := by
  refine (toNumber_meets h).bind fun x hx => ?_
  exact Meets.ite (fun hunit => ⟨hx, hunit⟩) fun _ => ⟨_, rfl⟩

end Reading

/-! ### What has to be there -/

section Required

variable {α : Type} {inputs data : RawInputs α} {key : String} {keys : List String} {r : Prop}

/-- A computation that raises nothing about what is invalid. -/
abbrev Silent {β : Type} (x : Computed α β) : Prop :=
  Meets (fun e => ¬ IsInvalidInput e) (fun _ => True) x

theorem Silent.bind {β γ : Type} {x : Computed α β} {f : β → Computed α γ} (h : Silent x)
    (hf : ∀ b, Silent (f b)) : Silent (x >>= f) := Meets.bind h fun b _ => hf b

theorem Silent.mapM {β γ : Type} {f : β → Computed α γ} {items : List β} (h : ∀ b, Silent (f b)) :
    Silent (items.mapM f) :=
  (Meets.mapM (R := fun _ _ => True) fun b _ => h b).post fun _ _ => trivial

end Required

/-! ### What is checked in turn -/

section Turns

variable {α : Type} [Field α] [LinearOrder α] {inputs data : RawInputs α} {keys : List String}
  {r : Prop}

end Turns

end GeoRisk.Analysis
