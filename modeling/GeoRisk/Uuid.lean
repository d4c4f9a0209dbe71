import Mathlib
import GeoRisk.SharedKernel

/-! Identifiers as requests spell them. `from_string` leaves the reading to `uuid.UUID`, which takes
    away `urn:`, `uuid:`, braces and hyphens and gives the 32 characters that remain to `int`. So one
    identifier has many spellings, of which `str` writes one:

        0000000a-0000-0000-0000-00000000000b       as `str` writes it
        {0000000A0000000000000000_0000000000B}     as it may be sent -/

namespace GeoRisk

/-! ### `int(text, 16)` -/

/-- The characters in `p` are stripped at both ends. -/
def stripped (p : Char → Bool) (cs : List Char) : List Char :=
  ((cs.dropWhile p).reverse.dropWhile p).reverse

/-- Where the ten decimal digits of each script begin. -/
def decimalZeros : List ℕ :=
  [0x30, 0x660, 0x6F0, 0x7C0, 0x966, 0x9E6, 0xA66, 0xAE6, 0xB66, 0xBE6, 0xC66, 0xCE6, 0xD66, 0xDE6,
   0xE50, 0xED0, 0xF20, 0x1040, 0x1090, 0x17E0, 0x1810, 0x1946, 0x19D0, 0x1A80, 0x1A90, 0x1B50,
   0x1BB0, 0x1C40, 0x1C50, 0xA620, 0xA8D0, 0xA900, 0xA9D0, 0xA9F0, 0xAA50, 0xABF0, 0xFF10, 0x104A0,
   0x10D30, 0x11066, 0x110F0, 0x11136, 0x111D0, 0x112F0, 0x11450, 0x114D0, 0x11650, 0x116C0,
   0x11730, 0x118E0, 0x11950, 0x11C50, 0x11D50, 0x11DA0, 0x11F50, 0x16A60, 0x16AC0, 0x16B50,
   0x1D7CE, 0x1D7D8, 0x1D7E2, 0x1D7EC, 0x1D7F6, 0x1E140, 0x1E2F0, 0x1E4F0, 0x1E950, 0x1FBF0]

/-- A character as `int` takes it: what is not ASCII counts as a blank, a decimal digit or an error. -/
def intChar (c : Char) : Char :=
  if c.toNat < 0x7F then c
  else if isSpace c then ' '
  else
    match decimalZeros.find? (fun first => first ≤ c.toNat ∧ c.toNat < first + 10) with
    | some first => Nat.digitChar (c.toNat - first)
    | none => '?'

/-- The blanks of C, which are fewer than those of `str.strip`. -/
def isSpaceC (c : Char) : Bool := c = ' ' || (0x09 ≤ c.toNat && c.toNat ≤ 0x0D)

def hexDigit (c : Char) : Option ℕ :=
  if 0x30 ≤ c.toNat ∧ c.toNat ≤ 0x39 then some (c.toNat - 0x30)
  else if 0x41 ≤ c.toNat ∧ c.toNat ≤ 0x46 then some (c.toNat - 0x37)
  else if 0x61 ≤ c.toNat ∧ c.toNat ≤ 0x66 then some (c.toNat - 0x57)
  else none

theorem hexDigit_lt {c : Char} {d : ℕ} (h : hexDigit c = some d) : d < 16 := by
  unfold hexDigit at h
  split at h
  · cases h
    omega
  · split at h
    · cases h
      omega
    · split at h
      · cases h
        omega
      · cases h

/-- Reads on after the digits of `value`; an underscore stands between two digits only. -/
def readDigits : Bool → ℕ → List Char → Option ℕ
  | afterDigit, value, [] => if afterDigit then some value else none
  | afterDigit, value, c :: cs =>
    if c = '_' then
      if afterDigit then readDigits false value cs else none
    else
      match hexDigit c with
      | some d => readDigits true (16 * value + d) cs
      | none => none

/-- The digits after an optional `0x`, which one underscore may follow. -/
def readPrefixed : List Char → Option ℕ
  | '0' :: c :: cs =>
    if c = 'x' ∨ c = 'X' then readDigits false 0 (if cs.head? = some '_' then cs.tail else cs)
    else readDigits false 0 ('0' :: c :: cs)
  | cs => readDigits false 0 cs

/-- `int(text, 16)`, for a text without a minus sign. -/
def readHex (text : List Char) : Option ℕ :=
  let text := stripped isSpaceC (text.map intChar)
  readPrefixed (if text.head? = some '+' then text.tail else text)

/-! ### `uuid.UUID(text)` -/

/-- `text.replace(word, "")`; the first `skip` characters belong to an occurrence. -/
def removed (word : List Char) : ℕ → List Char → List Char
  | _, [] => []
  | skip + 1, _ :: cs => removed word skip cs
  | 0, c :: cs =>
    if word.isPrefixOf (c :: cs) then removed word (word.length - 1) cs
    else c :: removed word 0 cs

def UUID.fromString (raw : String) : Option UUID :=
  let hex := removed "uuid:".toList 0 (removed "urn:".toList 0 raw.toList)
  let hex := (stripped (fun c => c = '\x7b' ∨ c = '\x7d') hex).filter (fun c => c ≠ '-')
  if hex.length ≠ 32 then none else readHex hex

/-! ### What `str` writes is read back -/

theorem stripped_of_none {p : Char → Bool} {cs : List Char} (h : ∀ c ∈ cs, p c = false) :
    stripped p cs = cs := by
  have hdrop : ∀ ds : List Char, (∀ c ∈ ds, p c = false) → ds.dropWhile p = ds := by
    intro ds hds
    cases ds with
    | nil => rfl
    | cons d ds => rw [List.dropWhile_cons_of_neg (by simp [hds d (List.mem_cons_self ..)])]
  rw [stripped, hdrop cs h, hdrop _ fun c hc => h c (List.mem_reverse.mp hc), List.reverse_reverse]

/-- A word whose first character does not occur is nowhere to be removed. -/
theorem removed_of_not_mem {w : Char} {word cs : List Char} (h : w ∉ cs) :
    removed (w :: word) 0 cs = cs := by
  induction cs with
  | nil => rfl
  | cons c cs ih =>
    rw [List.mem_cons, not_or] at h
    have hno : (w :: word).isPrefixOf (c :: cs) = false := by
      simp [List.isPrefixOf, h.1]
    rw [removed, hno, if_neg Bool.false_ne_true, ih h.2]

/-- A hexadecimal digit is read as itself, and is none of the other characters that matter. -/
theorem digitChar_plain {d : ℕ} (hd : d < 16) :
    hexDigit (Nat.digitChar d) = some d ∧ (Nat.digitChar d).toNat < 0x7F ∧
      isSpaceC (Nat.digitChar d) = false ∧
      Nat.digitChar d ∉ ['_', '+', '-', 'x', 'X', 'u', '\x7b', '\x7d'] := by
  interval_cases d <;> decide

theorem readDigits_digitChar (afterDigit : Bool) (value : ℕ) {d : ℕ} (hd : d < 16)
    (cs : List Char) :
    readDigits afterDigit value (Nat.digitChar d :: cs) = readDigits true (16 * value + d) cs := by
  obtain ⟨hread, -, -, hother⟩ := digitChar_plain hd
  rw [readDigits, if_neg fun heq => hother (by simp [heq]), hread]

/-- The digits of `u` below the `n`-th, the most significant first. -/
def digitsBelow (u n : ℕ) : List ℕ := (List.range n).reverse.map fun i => u / 16 ^ i % 16

theorem digitsBelow_succ (u n : ℕ) :
    digitsBelow u (n + 1) = u / 16 ^ n % 16 :: digitsBelow u n := by
  simp [digitsBelow, List.range_succ]

theorem digitsBelow_lt {u n d : ℕ} (h : d ∈ digitsBelow u n) : d < 16 := by
  obtain ⟨i, -, rfl⟩ := List.mem_map.mp h
  exact Nat.mod_lt _ (by decide)

theorem readDigits_digitsBelow (u n value : ℕ) :
    readDigits true value ((digitsBelow u n).map Nat.digitChar) =
      some (value * 16 ^ n + u % 16 ^ n) := by
  induction n generalizing value with
  | zero => simp [digitsBelow, readDigits, Nat.mod_one]
  | succ n ih =>
    rw [digitsBelow_succ, List.map_cons, readDigits_digitChar _ _ (Nat.mod_lt _ (by decide)), ih,
      Nat.mod_pow_succ]
    congr 1
    ring

/-- The groups of `str`, without the hyphens. -/
theorem filter_groups {hex : List Char} (h : ∀ c ∈ hex, c ≠ '-') :
    (hex.take 8 ++ '-' :: (hex.drop 8).take 4 ++ '-' :: (hex.drop 12).take 4 ++
      '-' :: (hex.drop 16).take 4 ++ '-' :: hex.drop 20).filter (fun c => c ≠ '-') = hex := by
  have hkeep : ∀ cs : List Char, cs ⊆ hex → cs.filter (fun c => c ≠ '-') = cs := by
    intro cs hcs
    exact List.filter_eq_self.mpr fun c hc => by simpa using h c (hcs hc)
  have htake : ∀ n m, (hex.drop n).take m ⊆ hex := fun n m =>
    List.Subset.trans (List.take_subset _ _) (List.drop_subset _ _)
  have hjoin : ∀ n, (hex.drop n).take 4 ++ hex.drop (n + 4) = hex.drop n := by
    intro n
    rw [← List.drop_drop, List.take_append_drop]
  simp only [List.filter_append, List.filter_cons, hkeep _ (List.take_subset _ _),
    hkeep _ (htake _ _), hkeep _ (List.drop_subset _ _), ne_eq, not_true_eq_false, decide_false,
    Bool.false_eq_true, if_false, List.append_assoc]
  rw [hjoin 16, hjoin 12, hjoin 8, List.take_append_drop]

/-- The characters of these digits. -/
theorem mem_digitChars {u n : ℕ} {c : Char} (h : c ∈ (digitsBelow u n).map Nat.digitChar) :
    c.toNat < 0x7F ∧ isSpaceC c = false ∧ c ∉ ['_', '+', '-', 'x', 'X', 'u', '\x7b', '\x7d'] := by
  obtain ⟨d, hd, rfl⟩ := List.mem_map.mp h
  exact (digitChar_plain (digitsBelow_lt hd)).2

theorem readHex_digitsBelow (u n : ℕ) :
    readHex ((digitsBelow u (n + 2)).map Nat.digitChar) = some (u % 16 ^ (n + 2)) := by
  have hint : ((digitsBelow u (n + 2)).map Nat.digitChar).map intChar =
      (digitsBelow u (n + 2)).map Nat.digitChar := by
    refine (List.map_congr_left fun c hc => ?_).trans (List.map_id _)
    rw [intChar, if_pos (mem_digitChars hc).1, id]
  have hread : readDigits false 0 ((digitsBelow u (n + 2)).map Nat.digitChar) =
      some (u % 16 ^ (n + 2)) := by
    have hread := readDigits_digitsBelow u (n + 2) 0
    rw [digitsBelow_succ, List.map_cons, readDigits_digitChar _ _ (Nat.mod_lt _ (by decide))]
      at hread ⊢
    rw [hread, Nat.zero_mul, Nat.zero_add]
  rw [readHex, hint, stripped_of_none fun c hc => (mem_digitChars hc).2.1]
  have hmem := fun c => mem_digitChars (u := u) (n := n + 2) (c := c)
  simp only [digitsBelow_succ, List.map_cons] at hmem hread ⊢
  generalize Nat.digitChar (u / 16 ^ (n + 1) % 16) = first at hmem hread ⊢
  generalize Nat.digitChar (u / 16 ^ n % 16) = second at hmem hread ⊢
  -- neither a sign nor a prefix stands before the digits
  obtain ⟨-, -, hfirst⟩ := hmem first (List.mem_cons_self ..)
  obtain ⟨-, -, hsecond⟩ := hmem second (List.mem_cons_of_mem _ (List.mem_cons_self ..))
  simp only [List.mem_cons, not_or] at hfirst hsecond
  rw [List.head?_cons, if_neg fun heq => hfirst.2.1 (Option.some.inj heq)]
  unfold readPrefixed
  split
  · next c cs heq =>
    rw [List.cons.injEq, List.cons.injEq] at heq
    obtain ⟨rfl, rfl, rfl⟩ := heq
    rw [if_neg (not_or.mpr ⟨hsecond.2.2.2.1, hsecond.2.2.2.2.1⟩), hread]
  · exact hread

/-- A number of `n` more digits is below `16 ^ n` times the next one. -/
theorem readDigits_lt {afterDigit : Bool} {value v : ℕ} {cs : List Char}
    (h : readDigits afterDigit value cs = some v) : v < (value + 1) * 16 ^ cs.length := by
  induction cs generalizing afterDigit value with
  | nil =>
    rw [readDigits] at h
    split at h
    · cases h
      simp
    · cases h
  | cons c cs ih =>
    rw [readDigits] at h
    have hgrow : (value + 1) * 16 ^ cs.length ≤ (value + 1) * 16 ^ (c :: cs).length :=
      Nat.mul_le_mul_left _ (Nat.pow_le_pow_right (by decide) (by simp))
    split at h
    · split at h
      · exact (ih h).trans_le hgrow
      · cases h
    · split at h
      · next d hd =>
        have hd16 : d < 16 := hexDigit_lt hd
        refine (ih h).trans_le ?_
        rw [List.length_cons, Nat.pow_succ, ← Nat.mul_assoc, Nat.mul_right_comm]
        exact Nat.mul_le_mul_right _ (by omega)
      · cases h

theorem readDigits_lt_of_length_le {cs : List Char} {v n : ℕ}
    (h : readDigits false 0 cs = some v) (hn : cs.length ≤ n) : v < 16 ^ n := by
  have hlt := readDigits_lt h
  rw [zero_add, one_mul] at hlt
  exact hlt.trans_le (Nat.pow_le_pow_right (by decide) hn)

theorem readPrefixed_lt {cs : List Char} {v : ℕ} (h : readPrefixed cs = some v) :
    v < 16 ^ cs.length := by
  unfold readPrefixed at h
  split at h
  · next c cs =>
    split at h
    · refine readDigits_lt_of_length_le h ?_
      split
      · simp only [List.length_tail, List.length_cons]
        omega
      · simp only [List.length_cons]
        omega
    · exact readDigits_lt_of_length_le h le_rfl
  · exact readDigits_lt_of_length_le h le_rfl

theorem stripped_length_le (p : Char → Bool) (cs : List Char) :
    (stripped p cs).length ≤ cs.length := by
  rw [stripped, List.length_reverse]
  refine (List.length_dropWhile_le _ _).trans ?_
  rw [List.length_reverse]
  exact List.length_dropWhile_le _ _

/-- What is read as a UUID has 128 bits. -/
theorem UUID.fromString_lt {raw : String} {u : UUID} (h : UUID.fromString raw = some u) :
    u < 2 ^ 128 := by
  unfold UUID.fromString at h
  dsimp only at h
  split at h
  · cases h
  · next hlength =>
    unfold readHex at h
    dsimp only at h
    refine (readPrefixed_lt h).trans_le ?_
    have hstripped := (stripped_length_le isSpaceC (List.map intChar _)).trans_eq
      ((List.length_map _).trans (not_not.mp hlength))
    refine (Nat.pow_le_pow_right (by decide) ?_).trans_eq (by norm_num : 16 ^ 32 = 2 ^ 128)
    split
    · rw [List.length_tail]
      omega
    · exact hstripped

/-- The canonical spelling without its hyphens. -/
theorem UUID.filter_str (u : UUID) :
    u.str.toList.filter (fun c => c ≠ '-') = (digitsBelow u 32).map Nat.digitChar := by
  have hstr : u.str.toList = let hex := (digitsBelow u 32).map Nat.digitChar
      hex.take 8 ++ '-' :: (hex.drop 8).take 4 ++ '-' :: (hex.drop 12).take 4 ++
        '-' :: (hex.drop 16).take 4 ++ '-' :: hex.drop 20 := by
    rw [UUID.str, String.toList_ofList, digitsBelow, List.map_map]
    rfl
  rw [hstr]
  refine filter_groups fun c hc heq => ?_
  exact (mem_digitChars hc).2.2 (by simp [heq])

/-- The canonical spelling is accepted, and read as the identifier it spells. -/
theorem UUID.fromString_str {u : UUID} (hu : u < 2 ^ 128) : UUID.fromString u.str = some u := by
  have hplain : ∀ c ∈ u.str.toList, c ∉ ['u', '\x7b', '\x7d'] := by
    intro c hc
    by_cases hhyphen : c = '-'
    · rw [hhyphen]
      decide
    · have hmem : c ∈ u.str.toList.filter (fun c => c ≠ '-') :=
        List.mem_filter.mpr ⟨hc, decide_eq_true hhyphen⟩
      rw [UUID.filter_str] at hmem
      have hsub : ['u', '\x7b', '\x7d'] ⊆ ['_', '+', '-', 'x', 'X', 'u', '\x7b', '\x7d'] := by simp
      exact fun hc' => (mem_digitChars hmem).2.2 (hsub hc')
  have hu' : 'u' ∉ u.str.toList := fun h => hplain _ h (by simp)
  have hbraces : stripped (fun c => c = '\x7b' ∨ c = '\x7d') u.str.toList = u.str.toList := by
    refine stripped_of_none fun c hc => decide_eq_false ?_
    rintro (rfl | rfl) <;> exact hplain _ hc (by simp)
  have hlength : ((digitsBelow u 32).map Nat.digitChar).length = 32 := by
    simp [digitsBelow]
  unfold UUID.fromString
  rw [show "urn:".toList = ['u', 'r', 'n', ':'] from rfl,
    show "uuid:".toList = ['u', 'u', 'i', 'd', ':'] from rfl, removed_of_not_mem hu',
    removed_of_not_mem hu']
  simp only [hbraces, UUID.filter_str, if_neg (not_not.mpr hlength)]
  rw [readHex_digitsBelow u 30, show 16 ^ (30 + 2) = 2 ^ 128 by norm_num, Nat.mod_eq_of_lt hu]

end GeoRisk
