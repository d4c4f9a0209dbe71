import GeoRisk.Lib.Base64
import GeoRisk.Lib.Calendar
import GeoRisk.Uuid

/-! The cursors of listings. A cursor names the last row of a page by its time and its identifier, and
    travels as a text:

        (time, id)  ── isoformat, str ──▶  JSON  ── UTF-8 ──▶  bytes  ── Base64 ──▶  text

    A text that was written so is read back. Those who ask may send other texts too, such as a time
    with another offset; how these are taken is left open. -/

namespace GeoRisk

/-! ### `datetime.isoformat` -/

/-- The last `width` decimal digits of a number. -/
def padded : ℕ → ℕ → List Char
  | 0, _ => []
  | width + 1, v => Nat.digitChar (v / 10 ^ width % 10) :: padded width v

/-- Reads `width` digits after those of `value`. -/
def readPadded : ℕ → ℕ → List Char → Option (ℕ × List Char)
  | 0, value, cs => some (value, cs)
  | _ + 1, _, [] => none
  | width + 1, value, c :: cs =>
    if 0x30 ≤ c.toNat ∧ c.toNat ≤ 0x39 then readPadded width (10 * value + (c.toNat - 0x30)) cs
    else none

/-- Times are counted in microseconds from the first day on, in UTC. -/
def microsecondsPerDay : ℕ := 86400000000

/-- The end of `datetime.max`. -/
def maxTimestamp : Timestamp := Lib.Calendar.maxOrdinal * microsecondsPerDay

def isoformat (t : Timestamp) : List Char :=
  let (year, month, day) := Lib.Calendar.ofOrdinal (t / microsecondsPerDay + 1)
  let microsecond := t % 1000000
  padded 4 year ++ '-' :: padded 2 month ++ '-' :: padded 2 day ++ 'T' ::
    padded 2 (t / 3600000000 % 24) ++ ':' :: padded 2 (t / 60000000 % 60) ++ ':' ::
    padded 2 (t / 1000000 % 60) ++ (if microsecond = 0 then [] else '.' :: padded 6 microsecond) ++
    "+00:00".toList

/-- `datetime.fromisoformat`, for the texts that `isoformat` writes in UTC. -/
def fromIsoformat (text : List Char) : Option Timestamp := do
  let (year, text) ← readPadded 4 0 text
  let text ← text.dropPrefix? ['-']
  let (month, text) ← readPadded 2 0 text
  let text ← text.dropPrefix? ['-']
  let (day, text) ← readPadded 2 0 text
  let text ← text.dropPrefix? ['T']
  let (hour, text) ← readPadded 2 0 text
  let text ← text.dropPrefix? [':']
  let (minute, text) ← readPadded 2 0 text
  let text ← text.dropPrefix? [':']
  let (second, text) ← readPadded 2 0 text
  let (microsecond, text) ←
    match text.dropPrefix? ['.'] with
    | some text => readPadded 6 0 text
    | none => some (0, text)
  if text = "+00:00".toList ∧ Lib.Calendar.Valid year month day ∧ hour ≤ 23 ∧ minute ≤ 59 ∧
      second ≤ 59 then
    some ((Lib.Calendar.toOrdinal year month day - 1) * microsecondsPerDay + hour * 3600000000 +
      minute * 60000000 + second * 1000000 + microsecond)
  else none

/-! ### `json.dumps` -/

def quote : Char := Char.ofNat 0x22

def quoted (text : List Char) : List Char := quote :: text ++ [quote]

/-- A character that stands for itself in a JSON string. -/
def isPlain (c : Char) : Bool := 0x20 ≤ c.toNat && c.toNat ≤ 0x7E && c != quote && c != '\\'

def beforeCreatedAt : List Char := '\x7b' :: quoted "created_at".toList ++ [':', ' ']

def beforeId : List Char := [',', ' '] ++ quoted "id".toList ++ [':', ' ']

/-- `json.dumps` of the two texts, whose characters are plain. -/
def dumps (createdAt id : List Char) : List Char :=
  beforeCreatedAt ++ quoted createdAt ++ beforeId ++ quoted id ++ ['\x7d']

def readQuoted (text : List Char) : Option (List Char × List Char) := do
  let text ← text.dropPrefix? [quote]
  let rest ← (text.dropWhile isPlain).dropPrefix? [quote]
  return (text.takeWhile isPlain, rest)

/-- `json.loads`, for the documents that `dumps` writes. -/
def loads (text : List Char) : Option (List Char × List Char) := do
  let text ← text.dropPrefix? beforeCreatedAt
  let (createdAt, text) ← readQuoted text
  let text ← text.dropPrefix? beforeId
  let (id, text) ← readQuoted text
  if text = ['\x7d'] then some (createdAt, id) else none

/-! ### Cursors -/

/-- What listings are ordered by. -/
abbrev PageKey := Timestamp ×ₗ UUID

def encodeCursor (key : PageKey) : String :=
  let payload := String.ofList (dumps (isoformat (ofLex key).1) (UUID.str (ofLex key).2).toList)
  String.ofList (Lib.Base64.encode (payload.toByteArray.data.toList.map UInt8.toNat))

def readCursor (text : String) : Option PageKey := do
  let bytes ← Lib.Base64.decode text.toList
  let payload ← String.fromUTF8? ⟨(bytes.map UInt8.ofNat).toArray⟩
  let (createdAt, id) ← loads payload.toList
  return toLex (← fromIsoformat createdAt, ← UUID.fromString (String.ofList id))

/-- `other` says how texts of another form are taken. -/
def decodeCursor (other : String → Option PageKey) (text : String) : Option PageKey :=
  (readCursor text).or (other text)

/-! ### What is written is read back -/

theorem readPadded_padded (width value v : ℕ) (cs : List Char) :
    readPadded width value (padded width v ++ cs) =
      some (value * 10 ^ width + v % 10 ^ width, cs) := by
  induction width generalizing value with
  | zero => simp [readPadded, padded, Nat.mod_one]
  | succ width ih =>
    have hd : v / 10 ^ width % 10 < 10 := Nat.mod_lt _ (by decide)
    have hchar : ∀ d < 10, 0x30 ≤ (Nat.digitChar d).toNat ∧ (Nat.digitChar d).toNat ≤ 0x39 ∧
        (Nat.digitChar d).toNat - 0x30 = d := by decide
    obtain ⟨hle, hge, hdigit⟩ := hchar _ hd
    rw [padded, List.cons_append, readPadded, if_pos ⟨hle, hge⟩, ih, hdigit, Nat.mod_pow_succ]
    congr 2
    ring

theorem dropPrefix?_append (word cs : List Char) : (word ++ cs).dropPrefix? word = some cs :=
  List.dropPrefix?_append_of_beq cs (BEq.refl word)

theorem dropPrefix?_cons (c : Char) (cs : List Char) : (c :: cs).dropPrefix? [c] = some cs :=
  dropPrefix?_append [c] cs

/-- A time is its day and the parts of its time of day. -/
theorem timeOfDay (t : ℕ) : t / microsecondsPerDay * microsecondsPerDay +
    t / 3600000000 % 24 * 3600000000 + t / 60000000 % 60 * 60000000 + t / 1000000 % 60 * 1000000 +
    t % 1000000 = t := by
  have hminutes : t / 60000000 = t / 1000000 / 60 := (Nat.div_div_eq_div_mul t 1000000 60).symm
  have hhours : t / 3600000000 = t / 1000000 / 60 / 60 := by
    rw [Nat.div_div_eq_div_mul, Nat.div_div_eq_div_mul]
  have hdays : t / microsecondsPerDay = t / 1000000 / 60 / 60 / 24 := by
    rw [Nat.div_div_eq_div_mul, Nat.div_div_eq_div_mul, Nat.div_div_eq_div_mul]
    rfl
  rw [hdays, hhours, hminutes, microsecondsPerDay]
  omega

/-- A time is read from its date and its time of day. -/
theorem fromIsoformat_isoformat {t : Timestamp} (ht : t < maxTimestamp) :
    fromIsoformat (isoformat t) = some t := by
  have hday : t / microsecondsPerDay + 1 ≤ Lib.Calendar.maxOrdinal :=
    Nat.div_lt_of_lt_mul (ht.trans_eq (Nat.mul_comm _ _))
  obtain ⟨hordinal, hvalid⟩ := Lib.Calendar.toOrdinal_ofOrdinal (Nat.le_add_left 1 _) hday
  rw [isoformat]
  generalize Lib.Calendar.ofOrdinal (t / microsecondsPerDay + 1) = date at hordinal hvalid
  obtain ⟨year, month, day⟩ := date
  dsimp only at hordinal hvalid ⊢
  have hyear : year % 10 ^ 4 = year := Nat.mod_eq_of_lt (by have := hvalid.year_le; omega)
  have hmonth : month % 10 ^ 2 = month := Nat.mod_eq_of_lt (by have := hvalid.month_le; omega)
  have hday : day % 10 ^ 2 = day := Nat.mod_eq_of_lt (by have := hvalid.day_le_31; omega)
  have hhour : t / 3600000000 % 24 % 10 ^ 2 = t / 3600000000 % 24 := Nat.mod_eq_of_lt (by omega)
  have hminute : t / 60000000 % 60 % 10 ^ 2 = t / 60000000 % 60 := Nat.mod_eq_of_lt (by omega)
  have hsecond : t / 1000000 % 60 % 10 ^ 2 = t / 1000000 % 60 := Nat.mod_eq_of_lt (by omega)
  have hmicro : t % 1000000 % 10 ^ 6 = t % 1000000 := Nat.mod_eq_of_lt (by omega)
  simp only [fromIsoformat, List.append_assoc, List.cons_append, readPadded_padded,
    dropPrefix?_cons, Option.bind_eq_bind, Option.bind_some, zero_mul, zero_add, hyear, hmonth, hday,
    hhour, hminute, hsecond]
  have hvalue : (Lib.Calendar.toOrdinal year month day - 1) * microsecondsPerDay +
      t / 3600000000 % 24 * 3600000000 + t / 60000000 % 60 * 60000000 +
      t / 1000000 % 60 * 1000000 + t % 1000000 = t := by
    rw [hordinal, Nat.add_sub_cancel, timeOfDay]
  have htime : t / 3600000000 % 24 ≤ 23 ∧ t / 60000000 % 60 ≤ 59 ∧ t / 1000000 % 60 ≤ 59 :=
    ⟨Nat.le_of_lt_succ (Nat.mod_lt _ (by decide)), Nat.le_of_lt_succ (Nat.mod_lt _ (by decide)),
      Nat.le_of_lt_succ (Nat.mod_lt _ (by decide))⟩
  by_cases hzero : t % 1000000 = 0
  · have hnone : "+00:00".toList.dropPrefix? ['.'] = none := by decide
    rw [hzero, Nat.add_zero] at hvalue
    simp only [hzero, if_true, List.nil_append, hnone, Nat.add_zero, hvalue]
    exact if_pos ⟨trivial, hvalid, htime⟩
  · simp only [if_neg hzero, List.cons_append, dropPrefix?_cons, readPadded_padded, zero_mul,
      zero_add, hmicro, Option.bind_some]
    rw [if_pos ⟨trivial, hvalid, htime⟩, hvalue]

/-! ### Plain texts -/

theorem isPlain_digitChar {d : ℕ} (hd : d < 16) : isPlain (Nat.digitChar d) = true := by
  interval_cases d <;> decide

theorem isPlain_padded {width v : ℕ} {c : Char} (h : c ∈ padded width v) : isPlain c = true := by
  induction width with
  | zero => exact absurd h List.not_mem_nil
  | succ width ih =>
    rcases List.mem_cons.mp h with rfl | h
    · exact isPlain_digitChar ((Nat.mod_lt _ (by decide)).trans (by decide))
    · exact ih h

theorem isPlain_isoformat {t : Timestamp} {c : Char} (h : c ∈ isoformat t) : isPlain c = true := by
  have hseparators : ∀ c ∈ ['-', 'T', ':', '.', '+', '0'], isPlain c = true := by
    simp [isPlain, quote]
  have hoffset : "+00:00".toList ⊆ ['-', 'T', ':', '.', '+', '0'] := by decide
  have hseparator : ∀ {c}, c ∈ ['-', 'T', ':', '.', '+', '0'] → isPlain c = true := hseparators _
  rw [isoformat] at h
  generalize "+00:00".toList = offset at h hoffset
  simp only [List.append_assoc, List.cons_append, List.mem_append, List.mem_cons] at h
  rcases h with h | rfl | h | rfl | h | rfl | h | rfl | h | rfl | h | h | h
  · exact isPlain_padded h
  · exact hseparator (by simp)
  · exact isPlain_padded h
  · exact hseparator (by simp)
  · exact isPlain_padded h
  · exact hseparator (by simp)
  · exact isPlain_padded h
  · exact hseparator (by simp)
  · exact isPlain_padded h
  · exact hseparator (by simp)
  · exact isPlain_padded h
  · split at h
    · exact absurd h List.not_mem_nil
    · rcases List.mem_cons.mp h with rfl | h
      · exact hseparator (by simp)
      · exact isPlain_padded h
  · exact hseparators _ (hoffset h)

theorem isPlain_str {u : UUID} {c : Char} (h : c ∈ (UUID.str u).toList) : isPlain c = true := by
  by_cases hhyphen : c = '-'
  · rw [hhyphen]
    decide
  · have hmem : c ∈ (UUID.str u).toList.filter (fun c => c ≠ '-') :=
      List.mem_filter.mpr ⟨h, decide_eq_true hhyphen⟩
    rw [UUID.filter_str] at hmem
    obtain ⟨d, hd, rfl⟩ := List.mem_map.mp hmem
    exact isPlain_digitChar (digitsBelow_lt hd)

theorem readQuoted_quoted {text : List Char} (h : ∀ c ∈ text, isPlain c = true) (rest : List Char) :
    readQuoted (quoted text ++ rest) = some (text, rest) := by
  have hquote : isPlain quote = false := by decide
  have hsplit : quoted text ++ rest = [quote] ++ (text ++ quote :: rest) := by simp [quoted]
  have htake : (text ++ quote :: rest).takeWhile isPlain = text := by
    rw [List.takeWhile_append_of_pos h, List.takeWhile_cons_of_neg (by simp [hquote]),
      List.append_nil]
  have hdrop : (text ++ quote :: rest).dropWhile isPlain = quote :: rest := by
    rw [List.dropWhile_append_of_pos h, List.dropWhile_cons_of_neg (by simp [hquote])]
  rw [readQuoted, hsplit, dropPrefix?_append]
  simp only [Option.bind_eq_bind, Option.bind_some, htake, hdrop, dropPrefix?_cons, Option.pure_def]

theorem loads_dumps {createdAt id : List Char} (hcreatedAt : ∀ c ∈ createdAt, isPlain c = true)
    (hid : ∀ c ∈ id, isPlain c = true) : loads (dumps createdAt id) = some (createdAt, id) := by
  simp only [loads, dumps, List.append_assoc, dropPrefix?_append, Option.bind_eq_bind,
    Option.bind_some, readQuoted_quoted hcreatedAt, readQuoted_quoted hid, if_true]

/-! ### Cursors are read back -/

/-- The bytes of a text are read as the text. -/
theorem fromUTF8?_bytes (payload : String) :
    String.fromUTF8? ⟨((payload.toByteArray.data.toList.map UInt8.toNat).map
      UInt8.ofNat).toArray⟩ = some payload := by
  rw [List.map_map, show UInt8.ofNat ∘ UInt8.toNat = id from funext fun byte => UInt8.ofNat_toNat,
    List.map_id, Array.toArray_toList, String.fromUTF8?, dif_pos payload.isValidUTF8]
  rfl

theorem decode_bytes (payload : String) :
    Lib.Base64.decode (Lib.Base64.encode (payload.toByteArray.data.toList.map UInt8.toNat)) =
      some (payload.toByteArray.data.toList.map UInt8.toNat) := by
  refine Lib.Base64.decode_encode fun b hb => ?_
  obtain ⟨byte, -, rfl⟩ := List.mem_map.mp hb
  exact byte.toNat_lt

theorem readCursor_encodeCursor {key : PageKey} (ht : (ofLex key).1 < maxTimestamp)
    (hu : (ofLex key).2 < 2 ^ 128) : readCursor (encodeCursor key) = some key := by
  rw [readCursor, encodeCursor]
  simp only [String.toList_ofList, decode_bytes, Option.bind_eq_bind, Option.bind_some,
    fromUTF8?_bytes, loads_dumps (fun c => isPlain_isoformat) (fun c => isPlain_str),
    fromIsoformat_isoformat ht, String.ofList_toList, UUID.fromString_str hu, Option.pure_def]
  rfl

theorem decodeCursor_encodeCursor (other : String → Option PageKey) {key : PageKey}
    (ht : (ofLex key).1 < maxTimestamp) (hu : (ofLex key).2 < 2 ^ 128) :
    decodeCursor other (encodeCursor key) = some key := by
  rw [decodeCursor, readCursor_encodeCursor ht hu, Option.some_or]

theorem encodeCursor_ne_empty (key : PageKey) : encodeCursor key ≠ "" := by
  intro hempty
  have hbytes := congrArg (fun text => Lib.Base64.decode text.toList) hempty
  simp only [encodeCursor, String.toList_ofList, decode_bytes] at hbytes
  -- no bytes are those of the empty text only
  have hnil := Option.some.inj (hbytes.trans (rfl : Lib.Base64.decode "".toList = some []))
  have hpayload := fromUTF8?_bytes (String.ofList
    (dumps (isoformat (ofLex key).1) (UUID.str (ofLex key).2).toList))
  have hblank := fromUTF8?_bytes ""
  rw [hnil] at hpayload
  have heq := congrArg String.toList (Option.some.inj (hpayload.symm.trans hblank))
  rw [String.toList_ofList] at heq
  exact nomatch heq

end GeoRisk
