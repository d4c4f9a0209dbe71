import GeoRisk.Cursors
import GeoRisk.SharedKernel
import GeoRisk.Uuid

/-! Documents in columns of JSON: how the fields of an entity are written into a dictionary, and
    read out of it again. A kind of values knows how they are written and read, and which of them it
    reads back as it wrote them. A reader gives nothing where the code raises; it also refuses a
    value of a type that the field does not have, which the code would take:

        data["key"]        item          KeyError where there is no such key
        data.get("key")    getOptional   None where there is none, or where it is null

    The read of a whole document goes through its fields in the order they were written in. -/

namespace GeoRisk

/-- The member of an enumeration that has the value; `ValueError` where none has. -/
def memberOfValue {α : Type} (members : List α) (value : α → String) (s : String) : Option α :=
  members.find? fun a => value a = s

/-- A kind of values in documents. -/
structure Column (α : Type) where
  write : α → Json
  read : Json → Option α
  ok : α → Prop
  read_write : ∀ a, ok a → read (write a) = some a
  write_ne_null : ∀ a, write a ≠ .null

namespace Column

variable {α : Type}

/-! ### Kinds of values -/

def str : Column String where
  write := .str
  read
    | .str s => some s
    | _ => none
  ok _ := True
  read_write _ _ := rfl
  write_ne_null := nofun

def float : Column PyFloat where
  write := .float
  read
    | .float x => some x
    | _ => none
  ok _ := True
  read_write _ _ := rfl
  write_ne_null := nofun

def bool : Column Bool where
  write := .bool
  read
    | .bool b => some b
    | _ => none
  ok _ := True
  read_write _ _ := rfl
  write_ne_null := nofun

def nat : Column ℕ where
  write n := .int n
  read
    | .int n => if 0 ≤ n then some n.toNat else none
    | _ => none
  ok _ := True
  read_write n _ := by simp
  write_ne_null := nofun

/-- `isoformat` and `fromisoformat`. -/
def time : Column Timestamp where
  write t := .str (String.ofList (isoformat t))
  read
    | .str s => fromIsoformat s.toList
    | _ => none
  ok t := t < maxTimestamp
  read_write t h := by
    dsimp only
    rw [String.toList_ofList, fromIsoformat_isoformat h]
  write_ne_null := nofun

/-- A member of an enumeration, as its value. -/
def enum (members : List α) (value : α → String)
    (h : ∀ a, memberOfValue members value (value a) = some a) : Column α where
  write a := .str (value a)
  read
    | .str s => memberOfValue members value s
    | _ => none
  ok _ := True
  read_write a _ := h a
  write_ne_null := nofun

/-- A dictionary of numbers. -/
def floats : Column (List (String × PyFloat)) where
  write d := .obj (d.map fun q => (q.1, float.write q.2))
  read
    | .obj fields => fields.mapM fun q => (float.read q.2).map (q.1, ·)
    | _ => none
  ok _ := True
  read_write d _ := by
    dsimp only
    induction d with
    | nil => rfl
    | cons q d ih => rw [List.map_cons, List.mapM_cons, ih]; rfl
  write_ne_null := nofun

theorem mapM_read (T : Column α) {as : List α} (h : ∀ a ∈ as, T.ok a) :
    (as.map T.write).mapM T.read = some as := by
  induction as with
  | nil => rfl
  | cons a as ih =>
    rw [List.forall_mem_cons] at h
    rw [List.map_cons, List.mapM_cons, T.read_write a h.1, ih h.2]
    rfl

/-- A list of values. -/
def list (T : Column α) : Column (List α) where
  write as := .arr (as.map T.write)
  read
    | .arr items => items.mapM T.read
    | _ => none
  ok as := ∀ a ∈ as, T.ok a
  read_write _ h := T.mapM_read h
  write_ne_null := nofun

/-- A dictionary with fields. -/
def record (write : α → List (String × Json)) (read : List (String × Json) → Option α)
    (ok : α → Prop) (h : ∀ a, ok a → read (write a) = some a) : Column α where
  write a := .obj (write a)
  read
    | .obj data => read data
    | _ => none
  ok := ok
  read_write := h
  write_ne_null := nofun

@[simp] theorem str_ok (s : String) : str.ok s := trivial
@[simp] theorem float_ok (x : PyFloat) : float.ok x := trivial
@[simp] theorem bool_ok (b : Bool) : bool.ok b := trivial
@[simp] theorem nat_ok (n : ℕ) : nat.ok n := trivial
@[simp] theorem time_ok (t : Timestamp) : time.ok t ↔ t < maxTimestamp := Iff.rfl

@[simp] theorem time_write_ne (t : Timestamp) : time.write t ≠ .str "" := by
  intro h
  have hempty : isoformat t = [] := String.ofList_injective (Json.str.inj h)
  simp [isoformat] at hempty

@[simp] theorem floats_ok (d : List (String × PyFloat)) : floats.ok d := trivial

@[simp] theorem list_ok (T : Column α) (as : List α) : T.list.ok as ↔ ∀ a ∈ as, T.ok a := Iff.rfl

/-! ### Fields of a dictionary -/

/-- A value, or null. -/
def writeOptional (T : Column α) : Option α → Json
  | none => .null
  | some a => T.write a

def readOptional (T : Column α) : Json → Option (Option α)
  | .null => some none
  | value => (T.read value).map some

theorem readOptional_writeOptional (T : Column α) {a : Option α} (h : ∀ b ∈ a, T.ok b) :
    T.readOptional (T.writeOptional a) = some a := by
  cases a with
  | none => rfl
  | some a =>
    have hread := T.read_write a (h a rfl)
    rw [writeOptional]
    cases hw : T.write a with
    | null => exact absurd hw (T.write_ne_null a)
    | _ =>
      rw [hw] at hread
      rw [readOptional, hread]
      · rfl
      · nofun

/-- `data[key]`. -/
def item (T : Column α) (data : List (String × Json)) (key : String) : Option α :=
  data.lookup key >>= T.read

/-- `data.get(key)`. -/
def getOptional (T : Column α) (data : List (String × Json)) (key : String) : Option (Option α) :=
  T.readOptional ((data.lookup key).getD .null)

/-- `data.get(key, default)`. -/
def getDefault (T : Column α) (default : α) (data : List (String × Json)) (key : String) :
    Option α :=
  match data.lookup key with
  | some value => T.read value
  | none => some default

/-- `T(data[key]) if data.get(key) else None`, for texts. -/
def getTruthy (T : Column α) (data : List (String × Json)) (key : String) : Option (Option α) :=
  match (data.lookup key).getD .null with
  | .str "" => some none
  | value => T.readOptional value

/-! ### Reading on

The lemmas read the first field of a dictionary, or pass over it, and leave the rest to be read. -/

section Reading

variable {β : Type} {T : Column α} {key key' : String} {value : Json} {data : List (String × Json)}
  {f : α → Option β} {g : Option α → Option β}

theorem lookup_cons_of_ne (h : key ≠ key') :
    ((key', value) :: data).lookup key = data.lookup key := by
  rw [List.lookup_cons, beq_eq_false_iff_ne.mpr h]

@[simp ↓] theorem bind_item_self {a : α} (h : T.ok a) :
    (T.item ((key, T.write a) :: data) key >>= f) = f a := by
  have hread : T.item ((key, T.write a) :: data) key = some a := by
    rw [item, List.lookup_cons_self, ← T.read_write a h]
    rfl
  rw [hread]
  rfl

@[simp ↓] theorem bind_item_of_ne (h : key ≠ key') :
    (T.item ((key', value) :: data) key >>= f) = (T.item data key >>= f) := by
  rw [item, item, lookup_cons_of_ne h]

@[simp ↓] theorem bind_getOptional_self {a : Option α} (h : ∀ b ∈ a, T.ok b) :
    (T.getOptional ((key, T.writeOptional a) :: data) key >>= g) = g a := by
  rw [getOptional, List.lookup_cons_self, Option.getD_some, T.readOptional_writeOptional h]
  rfl

@[simp ↓] theorem bind_getOptional_of_ne (h : key ≠ key') :
    (T.getOptional ((key', value) :: data) key >>= g) = (T.getOptional data key >>= g) := by
  rw [getOptional, getOptional, lookup_cons_of_ne h]

@[simp ↓] theorem bind_getDefault_self {default a : α} (h : T.ok a) :
    (T.getDefault default ((key, T.write a) :: data) key >>= f) = f a := by
  rw [getDefault, List.lookup_cons_self]
  dsimp only
  rw [T.read_write a h]
  rfl

@[simp ↓] theorem bind_getDefault_of_ne {default : α} (h : key ≠ key') :
    (T.getDefault default ((key', value) :: data) key >>= f) =
      (T.getDefault default data key >>= f) := by
  rw [getDefault, getDefault, lookup_cons_of_ne h]

@[simp ↓] theorem bind_getTruthy_self {a : Option α} (h : ∀ b ∈ a, T.ok b)
    (htext : ∀ b ∈ a, T.write b ≠ .str "") :
    (T.getTruthy ((key, T.writeOptional a) :: data) key >>= g) = g a := by
  have hread := T.readOptional_writeOptional h
  rw [getTruthy, List.lookup_cons_self, Option.getD_some]
  split
  · next heq =>
    cases a with
    | none => cases heq
    | some a => exact absurd heq (htext a rfl)
  · rw [hread]
    rfl

@[simp ↓] theorem bind_getTruthy_of_ne (h : key ≠ key') :
    (T.getTruthy ((key', value) :: data) key >>= g) = (T.getTruthy data key >>= g) := by
  rw [getTruthy, getTruthy, lookup_cons_of_ne h]

end Reading

/-! ### Columns -/

/-- A column that may be empty. -/
def readNullable (T : Column α) : Option Json → Option (Option α)
  | none => some none
  | some value => (T.read value).map some

theorem readNullable_write (T : Column α) {a : Option α} (h : ∀ b ∈ a, T.ok b) :
    T.readNullable (a.map T.write) = some a := by
  cases a with
  | none => rfl
  | some a => rw [Option.map_some, readNullable, T.read_write a (h a rfl)]; rfl

/-- A column of rows, `[…] or None`. -/
def writeRows (T : Column α) (as : List α) : Option Json :=
  if as.isEmpty then none else some (T.list.write as)

/-- The rows of a column, `column or []`. -/
def readRows (T : Column α) : Option Json → Option (List α)
  | none => some []
  | some value => T.list.read value

theorem readRows_writeRows (T : Column α) {as : List α} (h : ∀ a ∈ as, T.ok a) :
    T.readRows (T.writeRows as) = some as := by
  cases as with
  | nil => rfl
  | cons a as => exact T.list.read_write _ h

end Column

end GeoRisk
