import GeoRisk.Analysis.Firas.FloatCalculators
import GeoRisk.Analysis.Firas.Observation

/-! When the two stages that are compared with a history raise, with the numbers of Python. Of numbers that
    are `float`s or can be made one, nothing raises but the sum of a column:

        rows of the history, then the observation at hand
          x₁  int  ┐
          x₂  int  ┴─ added up as `int`s
          x₃  float ◀─ here the sum is made a `float`
          …

    The columns of indicators and of insecurity hold `float`s, and `int`s of 0 and 1, and can always be
    summed up; those of the parts hold what was uploaded. -/

namespace GeoRisk.Analysis.Firas.Floats

open Strategies Lib
open Firas.Vulnerability (VULNERABILITY_INDICATORS SUB_INDEX_KEYS INSECURITY_INDICATORS forInsecurity)

variable {allowed : ComputeError PyNumber → Prop} {log : PyFloat → PyFloat}
  {inputs record : RawInputs PyNumber} {historical : List (RawInputs PyNumber)} {keys : List String}

/-! ### Numbers -/

section Numbers

theorem arithmetic_ok {β : Type} {x : Except String β} {b : β} : arithmetic x = .ok b ↔ x = .ok b := by
  cases x <;> simp [arithmetic]

theorem arithmetic_meets {β : Type} {x : Except String β} (h : ∃ b, x = .ok b) :
    Meets allowed (fun b => x = .ok b) (arithmetic x) := by
  obtain ⟨b, rfl⟩ := h
  exact rfl

/-- The sum of a column of numbers. -/
theorem sumOf_number (xs : List PyNumber) :
    sumOf (xs.map .number) = arithmetic (PyNumber.sum xs) := by
  have hfold : ∀ s : PyNumber.SumState,
      (xs.map RawValue.number).foldlM
        (fun (s : PyNumber.SumState) v => do arithmetic (s.step (← v.toNumber))) s =
          arithmetic (xs.foldlM PyNumber.SumState.step s) := by
    induction xs with
    | nil => exact fun s => rfl
    | cons x xs ih =>
      intro s
      rw [List.map_cons, List.foldlM_cons, List.foldlM_cons]
      change arithmetic (s.step x) >>= _ = _
      cases s.step x with
      | ok t => exact ih t
      | error e => rfl
  rw [sumOf, hfold, PyNumber.sum]
  cases xs.foldlM PyNumber.SumState.step (.whole 0) <;> rfl

/-- There is a number under the key, which is a `float` or can be made one. -/
def HasFit (record : RawInputs PyNumber) (key : String) : Prop :=
  ∃ x, record.lookup key = some (.number x) ∧ x.Fits

theorem HasFit.hasNumber {key : String} (h : HasFit record key) : HasNumber record key := by
  obtain ⟨x, hx, -⟩ := h
  exact ⟨_, hx, x, rfl⟩

theorem toFloat_meets {x : PyNumber} (hx : x.Fits) :
    Meets allowed (fun y => x.toFloat = .ok y) (toFloat (.number x)) := arithmetic_meets hx

theorem fits_of_toFloat {value : RawValue PyNumber} {y : PyFloat} (h : toFloat value = .ok y) :
    ∃ x, value = .number x ∧ x.Fits := by
  obtain ⟨x, hx, h⟩ := bind_ok.mp h
  exact ⟨x, toNumber_ok.mp hx, y, arithmetic_ok.mp h⟩

theorem weightedSum_meets {weights : List PyFloat} {xs : List PyNumber} (h : ∀ x ∈ xs, x.Fits) :
    Meets allowed (fun _ => True) (weightedSum weights (xs.map .number)) := by
  refine Meets.bind (Meets.mapM (R := fun _ _ => True) fun p hp => ?_) fun _ _ => trivial
  obtain ⟨w, v⟩ := p
  obtain ⟨x, hx, rfl⟩ := List.mem_map.mp (List.of_mem_zip hp).2
  exact (toFloat_meets (h x hx)).bind fun _ _ => trivial

/-- Every value has been made a `float`. -/
theorem fits_of_weightedSum {weights : List PyFloat} {values : List (RawValue PyNumber)} {y : PyFloat}
    (h : weightedSum weights values = .ok y) (hlength : weights.length = values.length) :
    ∀ v ∈ values, ∃ x, v = .number x ∧ x.Fits := by
  intro v hv
  obtain ⟨terms, hterms, -⟩ := bind_ok.mp h
  have hmap : (weights.zip values).map Prod.snd = values :=
    List.map_snd_zip hlength.ge
  rw [← hmap] at hv
  obtain ⟨p, hp, rfl⟩ := List.mem_map.mp hv
  obtain ⟨term, -, hterm⟩ := exists_of_mapM_ok hterms p hp
  obtain ⟨z, hz, -⟩ := bind_ok.mp hterm
  exact fits_of_toFloat hz

end Numbers

/-! ### Weights -/

section Weights

variable {m : ℕ} {rows : List (List PyNumber)}

/-- A column of rows of numbers. -/
def columnOf (rows : List (List PyNumber)) (j : ℕ) : List PyNumber := rows.map fun row => row.getD j (.int 0)

theorem forall_mem_columnOf {P : PyNumber → Prop}
    (h : ∀ row ∈ rows, row.length = m ∧ ∀ x ∈ row, P x) {j : ℕ} (hj : j < m) :
    ∀ x ∈ columnOf rows j, P x := by
  intro x hx
  obtain ⟨row, hrow, rfl⟩ := List.mem_map.mp hx
  have hlt : j < row.length := (h row hrow).1.symm ▸ hj
  refine (h row hrow).2 _ ?_
  simp [List.getD, hlt]

theorem column_number (h : ∀ row ∈ rows, row.length = m) {j : ℕ} (hj : j < m) :
    (rows.map (·.map RawValue.number)).map (fun row => row.getD j .null) =
      (columnOf rows j).map .number := by
  rw [columnOf, List.map_map, List.map_map]
  refine List.map_congr_left fun row hrow => ?_
  have hlt : j < row.length := (h row hrow).symm ▸ hj
  simp [List.getD, hlt]

theorem computeWeights_length {matrix : List (List (RawValue PyNumber))} {weights : List PyFloat}
    (h : computeWeights log matrix = .ok weights) : weights.length = (matrix.headD []).length := by
  unfold computeWeights at h
  dsimp only at h
  split at h
  · cases h
    exact List.length_replicate
  · obtain ⟨colSums, -, h⟩ := bind_ok.mp h
    obtain ⟨proportions, -, h⟩ := bind_ok.mp h
    obtain ⟨k, -, h⟩ := bind_ok.mp h
    split at h
    · cases h
      exact List.length_replicate
    · cases h
      simp

/-- An entry is divided by the sum of its column, or by a small number. -/
theorem proportion_meets {x s : PyNumber} {xs : List PyNumber} (hs : PyNumber.sum xs = .ok s)
    (hx : x ∈ xs) (hfits : x.Fits) :
    Meets allowed (fun _ => True)
      (proportion (.number x) (if s.isZero then .float 1e-12 else s)) := by
  refine Meets.ok_bind (a := x) ((arithmetic_meets ?_).post fun _ _ => trivial)
  split
  · exact PyNumber.truediv_float hfits (by decide +kernel)
  · next hzero =>
    cases s with
    | float y => exact PyNumber.truediv_float hfits (by simpa [PyNumber.isZero] using hzero)
    | int t =>
      obtain ⟨a, rfl⟩ := PyNumber.int_of_sum hs x hx
      exact PyNumber.truediv_int hfits (by simpa [PyNumber.isZero] using hzero)

/-- What the entries of a column are divided by. -/
def IsColSum (rows : List (List PyNumber)) (j : ℕ) (s : PyNumber) : Prop :=
  ∃ t, PyNumber.sum (columnOf rows j) = .ok t ∧ s = if t.isZero then .float 1e-12 else t

theorem proportions_meets {row colSums : List PyNumber} (hrow : row.length = m ∧ ∀ x ∈ row, x.Fits)
    (hmem : row ∈ rows) (hcolSums : List.Forall₂ (IsColSum rows) (List.range m) colSums) :
    Meets allowed (fun _ => True)
      (((row.map .number).zip colSums).mapM fun p => proportion p.1 p.2) := by
  refine (Meets.mapM (R := fun _ _ => True) fun p hp => ?_).post fun _ _ => trivial
  -- the entry and the sum of its column
  obtain ⟨j, hj, rfl⟩ := List.mem_iff_getElem.mp hp
  have hlength : colSums.length = m := by
    rw [← hcolSums.length_eq, List.length_range]
  have hjm : j < m := by
    rw [List.length_zip, List.length_map, hrow.1, hlength, min_self] at hj
    exact hj
  have hjr : j < row.length := hrow.1.symm ▸ hjm
  obtain ⟨t, ht, hs⟩ := hcolSums.get (i := j) (by simpa using hjm) (by rwa [hlength])
  simp only [List.get_eq_getElem, List.getElem_range] at ht hs
  rw [List.getElem_zip, List.getElem_map, hs]
  refine proportion_meets ht ?_ (hrow.2 _ (List.getElem_mem hjr))
  refine List.mem_map.mpr ⟨row, hmem, ?_⟩
  simp [List.getD, hjr]

variable (hlog : ∀ n : ℕ, 2 ≤ n → (log (PyFloat.ofRat n)).isZero = false)

include hlog in
/-- Numbers of which every column can be summed up can be weighed. -/
theorem computeWeights_meets (hrows : ∀ row ∈ rows, row.length = m ∧ ∀ x ∈ row, x.Fits)
    (hsums : ∀ j < m, ∃ s, PyNumber.sum (columnOf rows j) = .ok s) :
    Meets allowed (fun weights => rows ≠ [] → weights.length = m)
      (computeWeights log (rows.map (·.map .number))) := by
  suffices h : Meets allowed (fun _ => True) (computeWeights log (rows.map (·.map .number))) by
    cases hx : computeWeights log (rows.map (·.map .number)) with
    | error e => rwa [hx] at h
    | ok weights =>
      intro hne
      rw [computeWeights_length hx]
      obtain ⟨row, rest, rfl⟩ := List.exists_cons_of_ne_nil hne
      simpa using (hrows row List.mem_cons_self).1
  unfold computeWeights
  dsimp only
  refine Meets.ite (fun _ => trivial) fun hmany => ?_
  rw [not_or, List.length_map, not_lt] at hmany
  obtain ⟨row, rest, hcons⟩ := List.exists_cons_of_ne_nil (l := rows) (by rintro rfl; simp at hmany)
  have hm : ((rows.map (·.map RawValue.number)).headD []).length = m := by
    simpa [hcons] using (hrows row (by simp [hcons])).1
  rw [hm]
  refine Meets.bind (Meets.mapM (R := IsColSum rows) fun j hj => ?_) fun colSums hcolSums => ?_
  · have hj := List.mem_range.mp hj
    rw [colSum, column_number (fun row hrow => (hrows row hrow).1) hj, sumOf_number]
    exact (arithmetic_meets (hsums j hj)).bind fun t ht => ⟨t, ht, rfl⟩
  · refine Meets.bind (Meets.mapM (R := fun _ _ => True) fun row hrow => ?_) fun proportions _ => ?_
    · obtain ⟨row, hmem, rfl⟩ := List.mem_map.mp hrow
      exact proportions_meets (hrows row hmem) hmem hcolSums
    · refine (arithmetic_meets ?_).bind fun k _ => Meets.ite (fun _ => trivial) fun _ => trivial
      have hn : (log (PyFloat.ofRat (rows.map (·.map RawValue.number)).length)).isZero = false := by
        rw [List.length_map]
        exact hlog rows.length hmany.1
      exact ⟨_, by rw [PyFloat.truediv, hn]; rfl⟩

/-- Columns that were weighed have been summed up, unless there was one row only. -/
theorem sum_of_computeWeights {weights : List PyFloat}
    (h : computeWeights log (rows.map (·.map .number)) = .ok weights) (hn : 2 ≤ rows.length)
    (hrows : ∀ row ∈ rows, row.length = m) {j : ℕ} (hj : j < m) :
    ∃ s, PyNumber.sum (columnOf rows j) = .ok s := by
  obtain ⟨row, rest, hcons⟩ := List.exists_cons_of_ne_nil (l := rows) (by rintro rfl; simp at hn)
  have hm : ((rows.map (·.map RawValue.number)).headD []).length = m := by
    simpa [hcons] using hrows row (by simp [hcons])
  unfold computeWeights at h
  dsimp only at h
  rw [hm, List.length_map, if_neg (by omega)] at h
  obtain ⟨colSums, hcolSums, -⟩ := bind_ok.mp h
  obtain ⟨s, -, hs⟩ := exists_of_mapM_ok hcolSums j (List.mem_range.mpr hj)
  rw [colSum, column_number hrows hj, sumOf_number] at hs
  obtain ⟨t, ht, -⟩ := bind_ok.mp hs
  exact ⟨t, arithmetic_ok.mp ht⟩

end Weights

/-! ### Rows of a history -/

section Rows

/-- The numbers under a key, in the rows that have one. -/
def numbersOf (historical : List (RawInputs PyNumber)) (key : String) : List PyNumber :=
  historical.filterMap fun record =>
    match record.lookup key with
    | some (.number x) => some x
    | _ => none

/-- What is added up under a key before the first `float` can be made one. -/
def Summable (historical : List (RawInputs PyNumber)) (key : String) : Prop :=
  (PyNumber.int (PyNumber.leadSum (numbersOf historical key))).Fits

theorem columnOf_append (past : List (List PyNumber)) (row : List PyNumber) (j : ℕ) :
    columnOf (past ++ [row]) j = columnOf past j ++ [row.getD j (.int 0)] := by
  simp [columnOf]

theorem map_number_concat (past : List (List PyNumber)) (row : List PyNumber) :
    past.map (·.map RawValue.number) ++ [row.map .number] = (past ++ [row]).map (·.map .number) := by
  simp

theorem getD_numbersAt {row : List PyNumber} (h : NumbersAt record keys row) {j : ℕ}
    (hj : j < keys.length) : record.lookup keys[j] = some (.number (row.getD j (.int 0))) := by
  have hrow : j < row.length := h.length_eq ▸ hj
  have hget := h.get hj hrow
  simpa [List.getD, hrow] using hget

/-- The columns of the rows hold the numbers under the keys. -/
theorem columnOf_rows {past : List (List PyNumber)}
    (h : List.Forall₂ (fun record row => NumbersAt record keys row) historical past) {j : ℕ}
    (hj : j < keys.length) : columnOf past j = numbersOf historical keys[j] := by
  induction h with
  | nil => rfl
  | @cons record row historical past hrow _ ih =>
    rw [columnOf, numbersOf] at ih
    rw [columnOf, numbersOf, List.map_cons, List.filterMap_cons, getD_numbersAt hrow hj, ← ih]

/-- The numbers of a row fit when those under its keys do. -/
theorem fits_of_numbersAt {row : List PyNumber} (h : NumbersAt record keys row)
    (hkeys : ∀ key ∈ keys, HasFit record key) : ∀ x ∈ row, x.Fits := by
  intro x hx
  obtain ⟨key, hkey, hlookup⟩ := exists_of_forall₂ h hx
  obtain ⟨y, hy, hfits⟩ := hkeys key hkey
  cases hlookup.symm.trans hy
  exact hfits

variable (hlog : ∀ n : ℕ, 2 ≤ n → (log (PyFloat.ofRat n)).isZero = false)

include hlog in
/-- What is under some keys can be weighed over a history that can be summed up. -/
theorem weighed_meets (hinputs : ∀ key ∈ keys, HasFit inputs key)
    (hpast : ∀ record ∈ historical, ∀ key ∈ keys, HasFit record key)
    (hsums : ∀ key ∈ keys, Summable historical key) :
    ∃ (past : List (List (RawValue PyNumber))) (xs : List PyNumber),
      (historical.mapM fun record => rowOf record keys) = .ok past ∧
      rowOf inputs keys = .ok (xs.map .number) ∧ (∀ x ∈ xs, x.Fits) ∧
      Meets allowed (fun weights => weights.length = keys.length)
        (computeWeights log (past ++ [xs.map .number])) := by
  obtain ⟨xs, hxs⟩ := exists_numbersAt fun key hkey => (hinputs key hkey).hasNumber
  obtain ⟨past, hrows⟩ := exists_rows fun record hrecord key hkey =>
    (hpast record hrecord key hkey).hasNumber
  refine ⟨_, xs, rowsOf_ok hrows, rowOf_ok hxs, fits_of_numbersAt hxs hinputs, ?_⟩
  have hfits : ∀ row ∈ past, row.length = keys.length ∧ ∀ x ∈ row, x.Fits := by
    intro row hrow
    obtain ⟨record, hrecord, hnumbers⟩ := exists_of_forall₂ hrows hrow
    exact ⟨hnumbers.length_eq.symm, fits_of_numbersAt hnumbers (hpast record hrecord)⟩
  have hcurrent : xs.length = keys.length ∧ ∀ x ∈ xs, x.Fits :=
    ⟨hxs.length_eq.symm, fits_of_numbersAt hxs hinputs⟩
  rw [map_number_concat]
  refine (computeWeights_meets hlog (List.forall_mem_append.mpr
    ⟨hfits, List.forall_mem_singleton.mpr hcurrent⟩) fun j hj => ?_).post fun weights h => h (by simp)
  -- a column: the numbers of the history, then the one at hand
  have hj' : j < xs.length := hcurrent.1.symm ▸ hj
  rw [columnOf_append]
  refine PyNumber.sum_append_ok (forall_mem_columnOf hfits hj) ?_ ?_
  · refine hcurrent.2 _ ?_
    simp [List.getD, hj']
  · rw [columnOf_rows hrows hj]
    exact hsums _ (List.getElem_mem hj)

variable {past : List (List (RawValue PyNumber))} {current : List (RawValue PyNumber)}
  {weights : List PyFloat}

theorem rowOf_length {row : List (RawValue PyNumber)} (h : rowOf record keys = .ok row) :
    row.length = keys.length := (mapM_ok.mp h).length_eq.symm

/-- There is a weight for every key. -/
theorem weighed_length (hpast : (historical.mapM fun record => rowOf record keys) = .ok past)
    (hcurrent : rowOf inputs keys = .ok current)
    (hweights : computeWeights log (past ++ [current]) = .ok weights) :
    weights.length = keys.length := by
  rw [computeWeights_length hweights]
  cases past with
  | nil => exact rowOf_length hcurrent
  | cons row past =>
    obtain ⟨record, -, hrow⟩ := mem_of_mapM_ok hpast row List.mem_cons_self
    exact rowOf_length hrow

/-- Where a `float` has been weighed over a history of numbers, the history can be summed up. -/
theorem summable_of_weighed (hpast : (historical.mapM fun record => rowOf record keys) = .ok past)
    (hcurrent : rowOf inputs keys = .ok current)
    (hweights : computeWeights log (past ++ [current]) = .ok weights)
    (hinputs : ∀ key ∈ keys, ∃ x, inputs.lookup key = some (.number (.float x)))
    (hnumbers : ∀ record ∈ historical, ∀ key ∈ keys, HasNumber record key) :
    ∀ key ∈ keys, Summable historical key := by
  intro key hkey
  rcases eq_or_ne historical [] with rfl | hne
  · exact PyNumber.fits_of_abs_le (by simp [numbersOf, PyNumber.leadSum])
  have hhas : ∀ key ∈ keys, HasNumber inputs key := by
    intro key hkey
    obtain ⟨x, hx⟩ := hinputs key hkey
    exact ⟨_, hx, _, rfl⟩
  obtain ⟨xs, hxs⟩ := exists_numbersAt hhas
  obtain ⟨rows, hrows⟩ := exists_rows hnumbers
  cases hcurrent.symm.trans (rowOf_ok hxs)
  cases hpast.symm.trans (rowsOf_ok hrows)
  rw [map_number_concat] at hweights
  obtain ⟨j, hj, rfl⟩ := List.mem_iff_getElem.mp hkey
  have hlength : ∀ row ∈ rows ++ [xs], row.length = keys.length := by
    refine List.forall_mem_append.mpr ⟨fun row hrow => ?_,
      List.forall_mem_singleton.mpr hxs.length_eq.symm⟩
    obtain ⟨record, -, hnumbers⟩ := exists_of_forall₂ hrows hrow
    exact hnumbers.length_eq.symm
  have htwo : 2 ≤ (rows ++ [xs]).length := by
    have hpos := List.length_pos_iff.mpr hne
    rw [hrows.length_eq] at hpos
    simp
    omega
  obtain ⟨s, hs⟩ := sum_of_computeWeights hweights htwo hlength hj
  obtain ⟨x, hx⟩ := hinputs _ (List.getElem_mem hj)
  have hfloat : xs.getD j (.int 0) = .float x := by
    have hget := getD_numbersAt hxs hj
    rw [hx] at hget
    exact (RawValue.number.inj (Option.some.inj hget)).symm
  rw [columnOf_append, hfloat] at hs
  have hlead := PyNumber.fits_of_sum hs ⟨x, by simp⟩
  rwa [PyNumber.leadSum_append_float, columnOf_rows hrows hj] at hlead

end Rows

/-! ### Parts of insecurity -/

section Parts

variable (hlog : ∀ n : ℕ, 2 ≤ n → (log (PyFloat.ofRat n)).isZero = false)

include hlog in
theorem subScore_meets (hinputs : ∀ key ∈ keys, HasFit inputs key)
    (hpast : ∀ record ∈ historical, ∀ key ∈ keys, HasFit record key)
    (hsums : ∀ key ∈ keys, Summable historical key) :
    Meets allowed (fun _ => True) (Vulnerability.subScore log inputs historical keys) := by
  obtain ⟨past, xs, hrows, hcurrent, hfits, hweights⟩ := weighed_meets hlog hinputs hpast hsums
  rw [Vulnerability.subScore, hrows]
  refine Meets.ok_bind ?_
  rw [hcurrent]
  refine Meets.ok_bind (hweights.bind fun weights _ => ?_)
  exact (weightedSum_meets hfits).bind fun _ _ => trivial

/-- A part that was computed was computed of numbers. -/
theorem fits_of_subScore {x : PyFloat} (h : Vulnerability.subScore log inputs historical keys = .ok x) :
    ∀ key ∈ keys, HasFit inputs key := by
  obtain ⟨past, hpast, h⟩ := bind_ok.mp h
  obtain ⟨current, hcurrent, h⟩ := bind_ok.mp h
  obtain ⟨weights, hweights, h⟩ := bind_ok.mp h
  obtain ⟨total, htotal, -⟩ := bind_ok.mp h
  have hlength := (weighed_length hpast hcurrent hweights).trans (rowOf_length hcurrent).symm
  intro key hkey
  obtain ⟨v, hv, hitem⟩ := exists_of_mapM_ok hcurrent key hkey
  obtain ⟨y, rfl, hy⟩ := fits_of_weightedSum htotal hlength v hv
  exact ⟨y, item_ok.mp hitem, hy⟩

theorem summable_of_subScore {x : PyFloat}
    (h : Vulnerability.subScore log inputs historical keys = .ok x)
    (hinputs : ∀ key ∈ keys, ∃ x, inputs.lookup key = some (.number (.float x)))
    (hnumbers : ∀ record ∈ historical, ∀ key ∈ keys, HasNumber record key) :
    ∀ key ∈ keys, Summable historical key := by
  obtain ⟨past, hpast, h⟩ := bind_ok.mp h
  obtain ⟨current, hcurrent, h⟩ := bind_ok.mp h
  obtain ⟨weights, hweights, -⟩ := bind_ok.mp h
  exact summable_of_weighed hpast hcurrent hweights hinputs hnumbers

end Parts

/-! ### Indices -/

section Indices

/-- A `float`, or an `int` of 1 at most. -/
def Small (x : PyNumber) : Prop := ∀ n, x = .int n → |n| ≤ 1

theorem small_float (x : PyFloat) : Small (.float x) := by
  intro n hn
  cases hn

theorem Small.fits {x : PyNumber} (h : Small x) : x.Fits := by
  cases x with
  | int n => exact PyNumber.fits_of_abs_le ((h n rfl).trans (by norm_num))
  | float x => exact PyNumber.fits_float x

theorem small_of_inUnit {x : PyNumber} (h : x.inUnit = true) : Small x := by
  rintro n rfl
  have hunit : 0 ≤ n ∧ n ≤ 1 := of_decide_eq_true h
  exact abs_le.mpr ⟨by omega, hunit.2⟩

/-- An index: no finite number but one between 0 and 1. -/
def IsIndex (x : PyFloat) : Prop := ∀ q, x = .finite q → 0 ≤ q ∧ q ≤ 1

theorem isDouble_one : PyFloat.IsDouble 1 := ⟨1, 0, by simp, by norm_num, by norm_num⟩

theorem zero_eq : (0 : PyFloat) = .finite 0 := by decide +kernel

theorem one_eq : (1 : PyFloat) = .finite 1 := by decide +kernel

theorem clampUnit_isIndex (x : PyFloat) : IsIndex (clampUnit x) := by
  intro q hq
  rw [clampUnit, PyFloat.minimum, PyFloat.maximum, zero_eq, one_eq] at hq
  simp only [List.foldl_cons, List.foldl_nil] at hq
  cases x with
  | finite p =>
    by_cases hneg : p < 0
    · have hnot : ¬ (1 : ℚ) < 0 := by norm_num
      obtain rfl : 0 = q := by simpa [PyFloat.lt, hneg, hnot] using hq
      exact ⟨le_rfl, zero_le_one⟩
    · by_cases hgreat : 1 < p
      · obtain rfl : 1 = q := by simpa [PyFloat.lt, hneg, hgreat] using hq
        exact ⟨zero_le_one, le_rfl⟩
      · obtain rfl : p = q := by simpa [PyFloat.lt, hneg, hgreat] using hq
        exact ⟨not_lt.mp hneg, not_lt.mp hgreat⟩
  | inf negative =>
    cases negative with
    | true =>
      cases hq
      simp
    | false =>
      cases hq
      simp
  | nan => cases hq

/-- Rounding to digits leads no further than 0 and 1. -/
theorem IsIndex.roundTo {x : PyFloat} (h : IsIndex x) (digits : ℕ) :
    IsIndex (PyFloat.roundTo digits x) := by
  intro q hq
  cases x with
  | finite p =>
    obtain ⟨h0, h1⟩ := h p rfl
    have hunit : (0 : ℚ) < 10 ^ digits := by positivity
    have hlow := Lib.roundHalfEven_mono (α := ℚ) (mul_nonneg h0 hunit.le)
    have hhigh := Lib.roundHalfEven_mono (α := ℚ) (mul_le_of_le_one_left hunit.le h1)
    rw [← Int.cast_zero, Lib.roundHalfEven_intCast] at hlow
    rw [← Int.cast_ofNat, ← Int.cast_pow, Lib.roundHalfEven_intCast] at hhigh
    have hmem : (PyFloat.roundHalfEven (p * 10 ^ digits) : ℚ) / 10 ^ digits ∈ Set.Icc 0 1 := by
      rw [PyFloat.roundHalfEven_eq]
      refine ⟨div_nonneg (by exact_mod_cast hlow) hunit.le, (div_le_one hunit).mpr ?_⟩
      exact_mod_cast hhigh
    rw [PyFloat.roundTo, PyFloat.ofRat_eq] at hq
    split at hq
    · cases hq
    · cases hq
      exact PyFloat.rounded_mem_Icc PyFloat.isDouble_zero isDouble_one hmem
  | inf negative => cases hq
  | nan => cases hq

/-- A number that is an index as a `float` is small. -/
theorem small_of_isIndex {n : PyNumber} {x : PyFloat} (h : IsIndex x) (hn : n.toFloat = .ok x) :
    Small n := by
  rintro k rfl
  obtain ⟨q, rfl, hround⟩ : ∃ q, x = .finite q ∧ PyFloat.rounded k = q := by
    rw [PyNumber.toFloat, PyFloat.ofRat_eq] at hn
    split at hn
    · next q hq =>
      split at hq
      · cases hq
      · cases hq
        exact ⟨_, (Except.ok.inj hn).symm, rfl⟩
    · cases hn
  obtain ⟨h0, h1⟩ := h q rfl
  -- 2 and -1 would be nearer to an `int` that is not small
  have htwo := PyFloat.abs_rounded_sub_le k
    (show PyFloat.IsDouble 2 from ⟨2, 0, by norm_num, by norm_num, by norm_num⟩)
  have hminus := PyFloat.abs_rounded_sub_le k isDouble_one.neg
  rw [hround] at htwo hminus
  by_contra hlarge
  rcases lt_abs.mp (not_le.mp hlarge) with hk | hk
  · have hk' : (2 : ℚ) ≤ k := by exact_mod_cast hk
    rw [abs_sub_comm, abs_sub_comm _ (k : ℚ)] at htwo
    have hle := (le_abs_self _).trans htwo
    rw [abs_of_nonneg (sub_nonneg.mpr hk')] at hle
    linarith
  · have hk' : (k : ℚ) ≤ -2 := by
      have hle : k ≤ -2 := by omega
      exact_mod_cast hle
    have hle := (le_abs_self _).trans hminus
    rw [abs_of_nonneg (by linarith)] at hle
    linarith

end Indices

/-! ### Columns of small numbers -/

section Small

/-- A row of small numbers. -/
def SmallRow (m : ℕ) (row : List (RawValue PyNumber)) : Prop :=
  ∃ xs : List PyNumber, row = xs.map .number ∧ xs.length = m ∧ ∀ x ∈ xs, Small x

variable {m : ℕ} {row : List (RawValue PyNumber)} {matrix : List (List (RawValue PyNumber))}
  (hlog : ∀ n : ℕ, 2 ≤ n → (log (PyFloat.ofRat n)).isZero = false)

theorem SmallRow.weightedSum_meets {weights : List PyFloat} (h : SmallRow m row) :
    Meets allowed (fun _ => True) (weightedSum weights row) := by
  obtain ⟨xs, rfl, -, hxs⟩ := h
  exact Floats.weightedSum_meets fun x hx => (hxs x hx).fits

theorem smallRow_of_forall₂ {β : Type} {ys : List β} {R : β → RawValue PyNumber → Prop}
    (h : List.Forall₂ R ys row) (hsmall : ∀ y v, R y v → ∃ x, v = .number x ∧ Small x) :
    SmallRow ys.length row := by
  obtain ⟨xs, rfl, hxs⟩ := exists_map_of_forall fun v hv => by
    obtain ⟨y, -, hy⟩ := exists_of_forall₂ h hv
    exact hsmall y v hy
  exact ⟨xs, rfl, by rw [h.length_eq, List.length_map], hxs⟩

include hlog in
/-- Small numbers can be weighed, as long as there are not too many of them. -/
theorem computeWeights_meets_of_small (hrows : ∀ row ∈ matrix, SmallRow m row)
    (hmany : matrix.length ≤ 201) :
    Meets allowed (fun weights => matrix ≠ [] → weights.length = m) (computeWeights log matrix) := by
  obtain ⟨rows, rfl, hsmall⟩ :=
    exists_map_of_forall (f := fun row : List PyNumber => row.map RawValue.number) hrows
  refine (computeWeights_meets hlog (fun row hrow => ⟨(hsmall row hrow).1, fun x hx =>
    ((hsmall row hrow).2 x hx).fits⟩) fun j hj => ?_).post fun weights h hne => h ?_
  · have hcolumn : ∀ x ∈ columnOf rows j, Small x := forall_mem_columnOf hsmall hj
    refine PyNumber.sum_ok (fun x hx => (hcolumn x hx).fits) fun _ => PyNumber.fits_of_abs_le ?_
    have hle := PyNumber.abs_leadSum_le fun n hn => hcolumn (.int n) hn n rfl
    rw [columnOf, List.length_map] at hle
    rw [List.length_map] at hmany
    exact hle.trans (by norm_cast; omega)
  · rintro rfl
    exact hne rfl

/-- The rows of a history, and one more. -/
theorem forall_concat {P : List (RawValue PyNumber) → Prop}
    (h : ∀ row ∈ matrix, P row) (hrow : P row) : ∀ r ∈ matrix ++ [row], P r :=
  List.forall_mem_append.mpr ⟨h, List.forall_mem_singleton.mpr hrow⟩

/-- The row of the indicators. -/
theorem transformedRow_meets (h : ∀ p ∈ VULNERABILITY_INDICATORS,
    ∃ x, record.lookup p.1 = some (.number x) ∧ x.inUnit = true) :
    Meets allowed (SmallRow VULNERABILITY_INDICATORS.length)
      (Vulnerability.transformedRow record) := by
  refine (Meets.mapM (R := fun _ v => ∃ x, v = .number x ∧ Small x) fun p hp => ?_).post
    fun row hrow => smallRow_of_forall₂ hrow fun _ _ hv => hv
  obtain ⟨x, hx, hunit⟩ := h p hp
  rw [item_ok.mpr hx]
  refine Meets.ok_bind (Meets.bind (P := fun y => y = x) ?_ ?_)
  · refine Meets.ok_bind (a := x) ?_
    rw [if_pos hunit]
    exact rfl
  · rintro _ rfl
    unfold Vulnerability.applyInverse
    split
    · refine Meets.bind (P := Small) ?_ fun y hy => ⟨y, rfl, hy⟩
      exact (arithmetic_meets (small_of_inUnit hunit).fits).bind fun y _ => small_float _
    · exact ⟨_, rfl, small_of_inUnit hunit⟩

/-- The row of insecurity: what the parts leave to 1, and the vulnerability. -/
theorem insecurityRow_meets (hscores : ∀ s ∈ SUB_INDEX_KEYS, HasFit record s.1)
    (hindex : ∃ x, record.lookup INPUT_KEY = some (.number x) ∧ Small x) :
    Meets allowed (SmallRow (SUB_INDEX_KEYS.length + 1)) (Vulnerability.insecurityRow record) := by
  refine Meets.bind (Meets.mapM (R := fun _ v => ∃ x, v = .number x ∧ Small x) fun s hs => ?_)
    fun parts hparts => ?_
  · obtain ⟨x, hx, hfits⟩ := hscores s hs
    rw [item_ok.mpr hx]
    exact Meets.ok_bind ((toFloat_meets hfits).bind fun y _ => ⟨_, rfl, small_float _⟩)
  · obtain ⟨index, hlookup, hsmall⟩ := hindex
    obtain ⟨xs, rfl, hlength, hxs⟩ := smallRow_of_forall₂ hparts fun _ _ hv => hv
    rw [item_ok.mpr hlookup]
    refine Meets.ok_bind ⟨xs ++ [index], by simp, ?_, ?_⟩
    · rw [List.length_append, hlength, List.length_singleton]
    · exact List.forall_mem_append.mpr ⟨hxs, List.forall_mem_singleton.mpr hsmall⟩

end Small

/-! ### The vulnerability stage -/

/-- What the stage can read. -/
structure Observation (inputs : RawInputs PyNumber) : Prop where
  vulnerability : ∀ p ∈ VULNERABILITY_INDICATORS,
    ∃ x, inputs.lookup p.1 = some (.number x) ∧ x.inUnit = true
  insecurity : ∀ key ∈ INSECURITY_INDICATORS, HasFit inputs key

/-- What it can read as a row of the history. -/
structure PastObservation (record : RawInputs PyNumber) : Prop extends Observation record where
  scores : ∀ s ∈ SUB_INDEX_KEYS, HasFit record s.1
  index : ∃ x, (forInsecurity record).lookup INPUT_KEY = some (.number x) ∧ Small x

section Vulnerability

/-- The index that is put into the rows is under a key of its own. -/
theorem numbersOf_forInsecurity {key : String} (h : key ≠ INPUT_KEY) :
    numbersOf (historical.map forInsecurity) key = numbersOf historical key := by
  rw [numbersOf, numbersOf, List.filterMap_map]
  refine List.filterMap_congr fun record _ => ?_
  rw [Function.comp_apply, lookup_forInsecurity h]

variable (hlog : ∀ n : ℕ, 2 ≤ n → (log (PyFloat.ofRat n)).isZero = false)

include hlog in
theorem computeFloodVulnerabilityIndex_meets
    (h : ∀ p ∈ VULNERABILITY_INDICATORS, ∃ x, inputs.lookup p.1 = some (.number x) ∧ x.inUnit = true)
    (hpast : ∀ record ∈ historical, ∀ p ∈ VULNERABILITY_INDICATORS,
      ∃ x, record.lookup p.1 = some (.number x) ∧ x.inUnit = true)
    (hmany : historical.length ≤ 200) :
    Meets allowed (fun r => r.2.length = VULNERABILITY_INDICATORS.length)
      (Vulnerability.computeFloodVulnerabilityIndex log inputs historical) := by
  refine Meets.bind (Meets.mapM fun record hrecord => transformedRow_meets (hpast record hrecord))
    fun past hrows => ?_
  refine (transformedRow_meets h).bind fun current hcurrent => ?_
  have hsmall : ∀ row ∈ past, SmallRow VULNERABILITY_INDICATORS.length row := fun row hrow =>
    (exists_of_forall₂ hrows hrow).choose_spec.2
  have hcount := hrows.length_eq
  refine (computeWeights_meets_of_small hlog (forall_concat hsmall hcurrent) ?_).bind
    fun weights hweights => ?_
  · rw [List.length_append, List.length_singleton]
    omega
  · exact hcurrent.weightedSum_meets.bind fun _ _ => hweights (by simp)

include hlog in
/-- The parts, and the index, of parts that are each computed. -/
theorem computeInsecurity_meets
    (hparts : ∀ s ∈ SUB_INDEX_KEYS,
      Meets allowed (fun _ => True) (Vulnerability.subScore log inputs historical s.2))
    (hindex : ∃ x, inputs.lookup INPUT_KEY = some (.number (.float x)))
    (hpast : ∀ record ∈ historical, (∀ s ∈ SUB_INDEX_KEYS, HasFit record s.1) ∧
      ∃ x, record.lookup INPUT_KEY = some (.number x) ∧ Small x)
    (hmany : historical.length ≤ 200) :
    Meets allowed (fun _ => True) (Vulnerability.computeInsecurity log inputs historical) := by
  refine Meets.bind (Meets.mapM (R := fun _ _ => True) fun s hs =>
    (hparts s hs).bind fun _ _ => trivial) fun scores hscores => ?_
  refine Meets.bind (Meets.mapM fun record hrecord => insecurityRow_meets (hpast record hrecord).1
    (hpast record hrecord).2) fun past hrows => ?_
  obtain ⟨index, hlookup⟩ := hindex
  rw [item_ok.mpr hlookup]
  refine Meets.ok_bind ?_
  have hsmall : ∀ row ∈ past, SmallRow (SUB_INDEX_KEYS.length + 1) row := fun row hrow =>
    (exists_of_forall₂ hrows hrow).choose_spec.2
  have hcurrent : SmallRow (SUB_INDEX_KEYS.length + 1)
      (scores.map (fun s => .number (.float (1 - s.2))) ++ [.number (.float index)]) := by
    refine ⟨scores.map (fun s => .float (1 - s.2)) ++ [.float index], by simp, ?_, ?_⟩
    · rw [List.length_append, List.length_map, hscores.length_eq, List.length_singleton]
    · refine List.forall_mem_append.mpr ⟨?_, List.forall_mem_singleton.mpr (small_float _)⟩
      exact List.forall_mem_map.mpr fun s _ => small_float _
  have hcount := hrows.length_eq
  refine (computeWeights_meets_of_small hlog (forall_concat hsmall hcurrent) ?_).bind
    fun weights _ => ?_
  · rw [List.length_append, List.length_singleton]
    omega
  · exact hcurrent.weightedSum_meets.bind fun _ _ => trivial

include hlog in
/-- The stage returns for an observation, over a history of past observations that can be summed up. -/
theorem vulnerability_returns (h : Observation inputs)
    (hpast : ∀ record ∈ historical, PastObservation record) (hmany : historical.length ≤ 200)
    (hsums : ∀ key ∈ INSECURITY_INDICATORS, Summable historical key) :
    ∃ out, Vulnerability.compute log inputs historical = .ok out := by
  suffices hmeets : Meets (fun _ => False) (fun _ => True)
      (Vulnerability.compute log inputs historical) by
    obtain ⟨out, hout, -⟩ := hmeets.exists_ok
    exact ⟨out, hout⟩
  have hvulnerability : ∀ key ∈ VULNERABILITY_INDICATORS.map Prod.fst, HasNumber inputs key := by
    intro key hkey
    obtain ⟨p, hp, rfl⟩ := List.mem_map.mp hkey
    obtain ⟨x, hx, -⟩ := h.vulnerability p hp
    exact ⟨_, hx, x, rfl⟩
  refine (entries_meets hvulnerability).bind fun data hdata => ?_
  refine (computeFloodVulnerabilityIndex_meets hlog (fun p hp => ?_)
    (fun record hrecord => (hpast record hrecord).vulnerability) hmany).bind fun fvi _ => ?_
  · rw [lookup_of_entries hdata (List.mem_map_of_mem hp)]
    exact h.vulnerability p hp
  refine (entries_meets fun key hkey => (h.insecurity key hkey).hasNumber).bind
    fun insecurity hinsecurity => ?_
  refine (computeInsecurity_meets hlog (fun s hs => ?_) ⟨fvi.1, by rw [lookup_setItem, if_pos rfl]⟩
    (fun record hrecord => ?_) (by rwa [List.length_map])).bind fun _ _ => trivial
  · -- the parts read what was uploaded, in this observation and in the rows
    have hkeys : ∀ key ∈ s.2, key ∈ INSECURITY_INDICATORS ∧ key ≠ INPUT_KEY := fun key hkey =>
      ⟨mem_insecurity hs hkey, ne_inputKey s hs key (List.mem_cons_of_mem _ hkey)⟩
    refine subScore_meets hlog (fun key hkey => ?_) (fun record hrecord key hkey => ?_)
      fun key hkey => ?_
    · rw [HasFit, lookup_setItem, if_neg (hkeys key hkey).2,
        lookup_of_entries hinsecurity (hkeys key hkey).1]
      exact h.insecurity key (hkeys key hkey).1
    · obtain ⟨row, hrow, rfl⟩ := List.mem_map.mp hrecord
      rw [HasFit, lookup_forInsecurity (hkeys key hkey).2]
      exact (hpast row hrow).insecurity key (hkeys key hkey).1
    · rw [Summable, numbersOf_forInsecurity (hkeys key hkey).2]
      exact hsums key (hkeys key hkey).1
  · obtain ⟨row, hrow, rfl⟩ := List.mem_map.mp hrecord
    refine ⟨fun s hs => ?_, (hpast row hrow).index⟩
    rw [HasFit, lookup_forInsecurity (ne_inputKey s hs s.1 List.mem_cons_self)]
    exact (hpast row hrow).scores s hs

variable {out : List (Strategies.Indicator PyFloat)}

/-- What the stage returns for was an observation. -/
theorem observation_of_compute (h : Vulnerability.compute log inputs historical = .ok out) :
    Observation inputs := by
  obtain ⟨data, hdata, h⟩ := bind_ok.mp h
  obtain ⟨fvi, hfvi, h⟩ := bind_ok.mp h
  obtain ⟨insecurity, hinsecurity, h⟩ := bind_ok.mp h
  obtain ⟨r, hr, -⟩ := bind_ok.mp h
  refine ⟨fun p hp => ?_, fun key hkey => ?_⟩
  · obtain ⟨past, -, hfvi⟩ := bind_ok.mp hfvi
    obtain ⟨current, hcurrent, -⟩ := bind_ok.mp hfvi
    obtain ⟨y, -, hy⟩ := exists_of_mapM_ok hcurrent p hp
    obtain ⟨v, hv, hy⟩ := bind_ok.mp hy
    obtain ⟨x, hx, -⟩ := bind_ok.mp hy
    obtain ⟨z, hz, hx⟩ := bind_ok.mp hx
    refine ⟨z, ?_, ?_⟩
    · rw [← lookup_entries hdata (List.mem_map_of_mem hp), item_ok.mp hv, toNumber_ok.mp hz]
    · split at hx
      · next hunit => exact hunit
      · cases hx
  · obtain ⟨s, hs, hkeys⟩ := List.mem_flatMap.mp hkey
    obtain ⟨scores, hscores, -⟩ := bind_ok.mp hr
    obtain ⟨q, -, hq⟩ := exists_of_mapM_ok hscores s hs
    obtain ⟨x, hx, -⟩ := bind_ok.mp hq
    have hfit := fits_of_subScore hx key hkeys
    rwa [HasFit, lookup_setItem, if_neg (ne_inputKey s hs key (List.mem_cons_of_mem _ hkeys)),
      lookup_entries hinsecurity hkey] at hfit

/-- Where the parts are uploaded as `float`s, the history they are weighed over can be summed up. -/
theorem summable_of_compute (h : Vulnerability.compute log inputs historical = .ok out)
    (hinputs : ∀ key ∈ INSECURITY_INDICATORS, ∃ x, inputs.lookup key = some (.number (.float x)))
    (hnumbers : ∀ record ∈ historical, ∀ key ∈ INSECURITY_INDICATORS, HasNumber record key) :
    ∀ key ∈ INSECURITY_INDICATORS, Summable historical key := by
  intro key hkey
  obtain ⟨s, hs, hkeys⟩ := List.mem_flatMap.mp hkey
  obtain ⟨data, -, h⟩ := bind_ok.mp h
  obtain ⟨fvi, -, h⟩ := bind_ok.mp h
  obtain ⟨insecurity, hinsecurity, h⟩ := bind_ok.mp h
  obtain ⟨r, hr, -⟩ := bind_ok.mp h
  obtain ⟨scores, hscores, -⟩ := bind_ok.mp hr
  obtain ⟨q, -, hq⟩ := exists_of_mapM_ok hscores s hs
  obtain ⟨x, hx, -⟩ := bind_ok.mp hq
  have hparts : ∀ key ∈ s.2, key ∈ INSECURITY_INDICATORS ∧ key ≠ INPUT_KEY := fun key hkey =>
    ⟨mem_insecurity hs hkey, ne_inputKey s hs key (List.mem_cons_of_mem _ hkey)⟩
  have hsummable := summable_of_subScore hx (fun key hkey => ?_) (fun record hrecord key hkey => ?_)
    key hkeys
  · rwa [Summable, numbersOf_forInsecurity (hparts key hkeys).2] at hsummable
  · rw [lookup_setItem, if_neg (hparts key hkey).2, lookup_entries hinsecurity (hparts key hkey).1]
    exact hinputs key (hparts key hkey).1
  · obtain ⟨row, hrow, rfl⟩ := List.mem_map.mp hrecord
    rw [HasNumber, lookup_forInsecurity (hparts key hkey).2]
    exact hnumbers row hrow key (hparts key hkey).1

/-- What it puts out, whatever it was given. -/
theorem vulnerability_shape (h : Vulnerability.compute log inputs historical = .ok out) :
    ∃ fvi weights scores fii, out = indicatorsOf fvi weights scores fii ∧ IsIndex fvi ∧
      weights.length = VULNERABILITY_INDICATORS.length ∧
      scores.map Prod.fst = SUB_INDEX_KEYS.map Prod.fst := by
  obtain ⟨data, -, h⟩ := bind_ok.mp h
  obtain ⟨⟨fvi, weights⟩, hfvi, h⟩ := bind_ok.mp h
  obtain ⟨insecurity, -, h⟩ := bind_ok.mp h
  obtain ⟨⟨scores, fii⟩, hr, h⟩ := bind_ok.mp h
  obtain ⟨past, hpast, hfvi⟩ := bind_ok.mp hfvi
  obtain ⟨current, hcurrent, hfvi⟩ := bind_ok.mp hfvi
  obtain ⟨ws, hws, hfvi⟩ := bind_ok.mp hfvi
  obtain ⟨total, -, hfvi⟩ := bind_ok.mp hfvi
  cases hfvi
  refine ⟨_, _, scores, fii, (Except.ok.inj h).symm, (clampUnit_isIndex total).roundTo 4, ?_, ?_⟩
  · have hlength : ∀ {record row}, Vulnerability.transformedRow record = .ok row →
        row.length = VULNERABILITY_INDICATORS.length := fun hrow => (mapM_ok.mp hrow).length_eq.symm
    rw [computeWeights_length hws]
    cases past with
    | nil => exact hlength hcurrent
    | cons row past =>
      obtain ⟨record, -, hrow⟩ := mem_of_mapM_ok hpast row List.mem_cons_self
      exact hlength hrow
  · obtain ⟨parts, hparts, hr⟩ := bind_ok.mp hr
    obtain ⟨past, -, hr⟩ := bind_ok.mp hr
    obtain ⟨index, -, hr⟩ := bind_ok.mp hr
    obtain ⟨weights, -, hr⟩ := bind_ok.mp hr
    obtain ⟨total, -, hr⟩ := bind_ok.mp hr
    cases hr
    exact fst_of_mapM hparts

end Vulnerability

/-! ### Resilience -/

section Resilience

variable {out : List (Strategies.Indicator PyFloat)}

/-- The codes of the scores. -/
abbrev SCORES : List String := Firas.Resilience.SUB_INDEX_KEYS.map (·.1)

/-- The stage returns for scores, over a history of scores that can be summed up. -/
theorem resilience_returns (hlog : ∀ n : ℕ, 2 ≤ n → (log (PyFloat.ofRat n)).isZero = false)
    (h : ∀ key ∈ SCORES, HasFit inputs key)
    (hpast : ∀ record ∈ historical, ∀ key ∈ SCORES, HasFit record key)
    (hsums : ∀ key ∈ SCORES, Summable historical key) :
    ∃ out, Resilience.compute log inputs historical = .ok out := by
  suffices hmeets : Meets (fun _ => False) (fun _ => True)
      (Resilience.compute log inputs historical) by
    obtain ⟨out, hout, -⟩ := hmeets.exists_ok
    exact ⟨out, hout⟩
  refine (entries_meets fun key hkey => (h key hkey).hasNumber).bind fun data hdata => ?_
  have hfits : ∀ key ∈ SCORES, HasFit data key := by
    intro key hkey
    rw [HasFit, lookup_of_entries hdata hkey]
    exact h key hkey
  obtain ⟨past, xs, hrows, hcurrent, hxs, hweights⟩ := weighed_meets hlog hfits hpast hsums
  refine Meets.bind (P := fun _ => True) ?_ fun _ _ => trivial
  rw [Resilience.computeResilience, hrows]
  refine Meets.ok_bind ?_
  rw [hcurrent]
  refine Meets.ok_bind (hweights.bind fun weights _ => ?_)
  exact (weightedSum_meets hxs).bind fun _ _ => trivial

/-- What it returns for were scores, over a history that, where these are `float`s, can be summed up. -/
theorem scores_of_compute (h : Resilience.compute log inputs historical = .ok out) :
    (∀ key ∈ SCORES, HasFit inputs key) ∧
    ((∀ key ∈ SCORES, ∃ x, inputs.lookup key = some (.number (.float x))) →
      (∀ record ∈ historical, ∀ key ∈ SCORES, HasNumber record key) →
      ∀ key ∈ SCORES, Summable historical key) := by
  obtain ⟨data, hdata, h⟩ := bind_ok.mp h
  obtain ⟨r, hr, -⟩ := bind_ok.mp h
  obtain ⟨past, hpast, hr⟩ := bind_ok.mp hr
  obtain ⟨current, hcurrent, hr⟩ := bind_ok.mp hr
  obtain ⟨weights, hweights, hr⟩ := bind_ok.mp hr
  obtain ⟨total, htotal, -⟩ := bind_ok.mp hr
  constructor
  · intro key hkey
    have hlength := (weighed_length hpast hcurrent hweights).trans (rowOf_length hcurrent).symm
    obtain ⟨v, hv, hitem⟩ := exists_of_mapM_ok hcurrent key hkey
    obtain ⟨y, rfl, hy⟩ := fits_of_weightedSum htotal hlength v hv
    exact ⟨y, by rw [← lookup_entries hdata hkey, item_ok.mp hitem], hy⟩
  · intro hfloats hnumbers
    refine summable_of_weighed hpast hcurrent hweights (fun key hkey => ?_) hnumbers
    rw [lookup_entries hdata hkey]
    exact hfloats key hkey

theorem resilience_shape (h : Resilience.compute log inputs historical = .ok out) :
    ∃ weights cri, out = resilienceIndicators weights cri := by
  obtain ⟨data, -, h⟩ := bind_ok.mp h
  obtain ⟨⟨weights, cri⟩, -, h⟩ := bind_ok.mp h
  exact ⟨weights, cri, (Except.ok.inj h).symm⟩

end Resilience

end GeoRisk.Analysis.Firas.Floats
