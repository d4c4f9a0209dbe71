import Mathlib

/-! What every bounded context shares: typed identifiers over a UUID, identifiers as a request
    spells them, timestamps and floats, Python's blank test, and the transactional outbox, whose
    events carry a sequence number that `appendEvent` draws per aggregate. -/

namespace GeoRisk

/-- The integer value of a `uuid.UUID`. -/
abbrev UUID := ℕ

/-- The canonical spelling of a UUID, in groups of 8-4-4-4-12 hexadecimal digits. -/
def UUID.str (u : UUID) : String :=
  let hex := (List.range 32).reverse.map fun i => Nat.digitChar (u / 16 ^ i % 16)
  String.ofList (hex.take 8 ++ '-' :: (hex.drop 8).take 4 ++ '-' :: (hex.drop 12).take 4 ++
    '-' :: (hex.drop 16).take 4 ++ '-' :: hex.drop 20)

theorem mod_isUuid (n : ℕ) : n % 2 ^ 128 < 2 ^ 128 := Nat.mod_lt _ (by decide)

structure TenantId where
  value : UUID
  deriving DecidableEq

structure UserId where
  value : UUID
  deriving DecidableEq

instance : ToString TenantId := ⟨fun i => UUID.str i.value⟩
instance : ToString UserId := ⟨fun i => UUID.str i.value⟩

/-- An identifier in a request: the text sent, and the identifier `from_string` reads from it. -/
structure Spelled (ι : Type) where
  text : String
  id : ι

/-- A `datetime`, as an instant. -/
abbrev Timestamp := ℕ

/-- A `float`: the rational it denotes, an infinity, or not a number. -/
inductive PyFloat where
  | finite (q : ℚ)
  | inf (negative : Bool)
  | nan
  deriving DecidableEq

/-- A value of a JSON document; the fields of an object in their order. -/
inductive Json where
  | null
  | bool (b : Bool)
  | int (n : ℤ)
  | float (x : PyFloat)
  | str (s : String)
  | arr (items : List Json)
  | obj (fields : List (String × Json))

/-- The characters `str.strip` removes. -/
def isSpace (c : Char) : Bool :=
  (0x09 ≤ c.toNat && c.toNat ≤ 0x0D) || (0x1C ≤ c.toNat && c.toNat ≤ 0x20) ||
    [0x85, 0xA0, 0x1680, 0x2028, 0x2029, 0x202F, 0x205F, 0x3000].contains c.toNat ||
    (0x2000 ≤ c.toNat && c.toNat ≤ 0x200A)

/-- `not s.strip()`. -/
def isBlank (s : String) : Bool := s.toList.all isSpace

/-- `repr` of one character between quotes `q`; what is not ASCII is taken as printable. -/
def reprChar (q c : Char) : List Char :=
  if c = q ∨ c = '\\' then ['\\', c]
  else if c = '\n' then ['\\', 'n']
  else if c = '\r' then ['\\', 'r']
  else if c = '\t' then ['\\', 't']
  else if c.toNat < 0x20 ∨ c.toNat = 0x7F then
    ['\\', 'x', Nat.digitChar (c.toNat / 16), Nat.digitChar (c.toNat % 16)]
  else [c]

/-- `repr` of a string: in single quotes, unless only those occur in it. -/
def pyRepr (s : String) : String :=
  let single := Char.ofNat 0x27
  let double := Char.ofNat 0x22
  let q := if single ∈ s.toList ∧ double ∉ s.toList then double else single
  String.ofList (q :: s.toList.flatMap (reprChar q) ++ [q])

/-- `d[key] = value` on a dictionary. -/
def setItem {β : Type} (d : List (String × β)) (key : String) (value : β) : List (String × β) :=
  if key ∈ d.map Prod.fst then d.map fun p => if p.1 = key then (key, value) else p
  else d ++ [(key, value)]

section Dictionaries

variable {β : Type} {d : List (String × β)} {key code : String} {value : β}

theorem setItem_keys_of_mem (h : key ∈ d.map Prod.fst) :
    (setItem d key value).map Prod.fst = d.map Prod.fst := by
  rw [setItem, if_pos h, List.map_map]
  refine List.map_congr_left fun p _ => ?_
  by_cases hp : p.1 = key <;> simp [hp]

theorem mem_setItem_keys :
    code ∈ (setItem d key value).map Prod.fst ↔ code ∈ d.map Prod.fst ∨ code = key := by
  by_cases hkey : key ∈ d.map Prod.fst
  · rw [setItem_keys_of_mem hkey]
    constructor
    · exact Or.inl
    · rintro (hcode | rfl)
      · exact hcode
      · exact hkey
  · rw [setItem, if_neg hkey]
    simp

theorem setItem_keys_nodup (h : (d.map Prod.fst).Nodup) :
    ((setItem d key value).map Prod.fst).Nodup := by
  by_cases hkey : key ∈ d.map Prod.fst
  · rw [setItem_keys_of_mem hkey]
    exact h
  · rw [setItem, if_neg hkey, List.map_append, List.nodup_append]
    refine ⟨h, List.nodup_singleton _, fun a ha b hb => ?_⟩
    rintro rfl
    obtain rfl : a = key := by simpa using hb
    exact hkey ha

theorem mem_setItem {p : String × β} (h : p ∈ setItem d key value) : p ∈ d ∨ p = (key, value) := by
  unfold setItem at h
  split at h
  · obtain ⟨q, hq, h⟩ := List.mem_map.mp h
    split at h
    · exact Or.inr h.symm
    · exact Or.inl (h ▸ hq)
  · rcases List.mem_append.mp h with h | h
    · exact Or.inl h
    · exact Or.inr (List.mem_singleton.mp h)

/-- A key is looked up in one of its items. -/
theorem exists_lookup (h : key ∈ d.map Prod.fst) : ∃ value, d.lookup key = some value ∧
    (key, value) ∈ d := by
  induction d with
  | nil => cases h
  | cons p d ih =>
    by_cases hp : key = p.1
    · subst hp
      exact ⟨p.2, List.lookup_cons_self, List.mem_cons_self⟩
    · have hkey : key ∈ d.map Prod.fst := by simpa [hp] using h
      obtain ⟨value, hvalue, hmem⟩ := ih hkey
      refine ⟨value, ?_, List.mem_cons_of_mem p hmem⟩
      rw [List.lookup_cons, beq_eq_false_iff_ne.mpr hp]
      exact hvalue

/-- An item just set holds what was set. -/
theorem eq_of_mem_setItem {q : String × β} (hq : q ∈ setItem d key value)
    (hkey : q.1 = key) : q.2 = value := by
  unfold setItem at hq
  split at hq
  · obtain ⟨p, hp, rfl⟩ := List.mem_map.mp hq
    split at hkey
    · next h => simp [h]
    · next h => exact absurd hkey h
  · next hnew =>
    rcases List.mem_append.mp hq with hq | hq
    · exact absurd (hkey ▸ List.mem_map_of_mem hq) hnew
    · rw [List.mem_singleton.mp hq]

theorem lookup_cons_ne {p : String × β} (h : code ≠ p.1) : (p :: d).lookup code = d.lookup code := by
  rw [List.lookup_cons, beq_eq_false_iff_ne.mpr h]

theorem lookup_cons_eq {p : String × β} (h : code = p.1) : (p :: d).lookup code = some p.2 := by
  rw [List.lookup_cons, beq_iff_eq.mpr h]

theorem lookup_map_replace (hkey : key ∈ d.map Prod.fst) (value : β) :
    (d.map fun p => if p.1 = key then (key, value) else p).lookup code =
      if code = key then some value else d.lookup code := by
  induction d with
  | nil => cases hkey
  | cons p d ih =>
    rw [List.map_cons]
    by_cases hcode : code = key
    · rw [if_pos hcode]
      by_cases hp : p.1 = key
      · rw [if_pos hp, lookup_cons_eq hcode]
      · have hrest : key ∈ d.map Prod.fst := by simpa [Ne.symm hp] using hkey
        rw [if_neg hp, lookup_cons_ne (hcode ▸ Ne.symm hp), ih hrest, if_pos hcode]
    · -- the other keys stand where they stood, whether the key comes again or not
      have hother : ∀ d : List (String × β), (d.map fun p => if p.1 = key then (key, value)
          else p).lookup code = d.lookup code := by
        intro d
        induction d with
        | nil => rfl
        | cons q d ih =>
          rw [List.map_cons]
          by_cases hq : q.1 = key
          · rw [if_pos hq, lookup_cons_ne hcode, lookup_cons_ne (hq ▸ hcode), ih]
          · rw [if_neg hq, List.lookup_cons, List.lookup_cons, ih]
      rw [← List.map_cons (f := fun p : String × β => if p.1 = key then (key, value) else p),
        hother, if_neg hcode]

theorem lookup_setItem (d : List (String × β)) (key code : String) (value : β) :
    (setItem d key value).lookup code = if code = key then some value else d.lookup code := by
  unfold setItem
  split
  · next hkey => exact lookup_map_replace hkey value
  · next hkey =>
    rw [List.lookup_append]
    by_cases hcode : code = key
    · have hnone : d.lookup code = none := by
        refine List.lookup_eq_none_iff.mpr fun p hp => bne_iff_ne.mpr ?_
        rintro rfl
        exact hkey (hcode ▸ List.mem_map_of_mem hp)
      rw [hnone, Option.none_or, if_pos hcode, lookup_cons_eq hcode]
    · rw [if_neg hcode, lookup_cons_ne hcode, List.lookup_nil, Option.or_none]

end Dictionaries

/-! ### The outbox -/

/-- A row of the outbox; `payload` is the event itself. -/
structure OutboxEvent (Event : Type) where
  aggregateType : String
  aggregateId : String
  payload : Event
  tenantId : Option TenantId
  occurredAt : Timestamp
  sequenceNumber : ℕ

section Outbox

variable {Event : Type}

/-- `coalesce(max(sequence_number), 0) + 1` over the rows of one aggregate. -/
def nextSeq (outbox : List (OutboxEvent Event)) (aggregateType aggregateId : String) : ℕ :=
  ((outbox.filter fun e => e.aggregateType = aggregateType ∧ e.aggregateId = aggregateId).map
    (·.sequenceNumber)).foldl max 0 + 1

def appendEvent (outbox : List (OutboxEvent Event)) (aggregateType aggregateId : String)
    (payload : Event) (tenantId : Option TenantId) (now : Timestamp) : List (OutboxEvent Event) :=
  outbox ++ [{ aggregateType, aggregateId, payload, tenantId, occurredAt := now,
               sequenceNumber := nextSeq outbox aggregateType aggregateId }]

end Outbox

end GeoRisk
