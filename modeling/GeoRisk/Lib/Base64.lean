import Mathlib

/-! Base64 for URLs. The encoder takes three bytes at a time; the decoder reads character by character,
    skips what is not in the alphabet and keeps the bits that do not make a byte yet:

        bytes     aaaaaaaa         bbbbbbbb         cccccccc
        digits    aaaaaa   aabbbb           bbbbcc  cccccc
        kept               └ 2 ┘            └ 4 ┘

    What is encoded is decoded. -/

namespace Lib.Base64

/-- The character of six bits. -/
def digit (v : ℕ) : Char :=
  if v < 26 then Char.ofNat (0x41 + v)
  else if v < 52 then Char.ofNat (0x61 + (v - 26))
  else if v < 62 then Char.ofNat (0x30 + (v - 52))
  else if v = 62 then '-'
  else '_'

/-- The bits of a character; those of the alphabet that is not for URLs are taken too. -/
def value (c : Char) : Option ℕ :=
  if 0x41 ≤ c.toNat ∧ c.toNat ≤ 0x5A then some (c.toNat - 0x41)
  else if 0x61 ≤ c.toNat ∧ c.toNat ≤ 0x7A then some (c.toNat - 0x61 + 26)
  else if 0x30 ≤ c.toNat ∧ c.toNat ≤ 0x39 then some (c.toNat - 0x30 + 52)
  else if c = '-' ∨ c = '+' then some 62
  else if c = '_' ∨ c = '/' then some 63
  else none

/-- `urlsafe_b64encode`. -/
def encode : List ℕ → List Char
  | a :: b :: c :: bytes =>
    digit (a / 4) :: digit (a % 4 * 16 + b / 16) :: digit (b % 16 * 4 + c / 64) :: digit (c % 64) ::
      encode bytes
  | [a, b] => [digit (a / 4), digit (a % 4 * 16 + b / 16), digit (b % 16 * 4), '=']
  | [a] => [digit (a / 4), digit (a % 4 * 16), '=', '=']
  | [] => []

/-- Reads on in a group of which `quad` characters are read, with the bits `left` kept of them and
    `pads` padding characters seen since. Enough padding ends the text. -/
def decodeFrom : ℕ → ℕ → ℕ → List Char → Option (List ℕ)
  | quad, _, _, [] => if quad = 0 then some [] else none
  | quad, left, pads, c :: cs =>
    if c = '=' then
      if 2 ≤ quad then
        if 4 ≤ quad + (pads + 1) then some [] else decodeFrom quad left (pads + 1) cs
      else decodeFrom quad left pads cs
    else
      match value c with
      | none => decodeFrom quad left pads cs
      | some v =>
        match quad with
        | 0 => decodeFrom 1 v 0 cs
        | 1 => (decodeFrom 2 (v % 16) 0 cs).map (List.cons (left * 4 + v / 16))
        | 2 => (decodeFrom 3 (v % 4) 0 cs).map (List.cons (left * 16 + v / 4))
        | _ => (decodeFrom 0 0 0 cs).map (List.cons (left * 64 + v))

/-- `urlsafe_b64decode`, `none` where it raises. -/
def decode (text : List Char) : Option (List ℕ) := decodeFrom 0 0 0 text

/-! ### What is encoded is decoded -/

theorem value_digit {v : ℕ} (hv : v < 64) : value (digit v) = some v ∧ digit v ≠ '=' := by
  interval_cases v <;> decide

section Steps

variable {v left pads : ℕ} (hv : v < 64) (cs : List Char)
include hv

theorem decodeFrom_zero : decodeFrom 0 left pads (digit v :: cs) = decodeFrom 1 v 0 cs := by
  obtain ⟨hvalue, hne⟩ := value_digit hv
  rw [decodeFrom, if_neg hne, hvalue]
  rfl

theorem decodeFrom_one : decodeFrom 1 left pads (digit v :: cs) =
    (decodeFrom 2 (v % 16) 0 cs).map (List.cons (left * 4 + v / 16)) := by
  obtain ⟨hvalue, hne⟩ := value_digit hv
  rw [decodeFrom, if_neg hne, hvalue]
  rfl

theorem decodeFrom_two : decodeFrom 2 left pads (digit v :: cs) =
    (decodeFrom 3 (v % 4) 0 cs).map (List.cons (left * 16 + v / 4)) := by
  obtain ⟨hvalue, hne⟩ := value_digit hv
  rw [decodeFrom, if_neg hne, hvalue]
  rfl

theorem decodeFrom_three : decodeFrom 3 left pads (digit v :: cs) =
    (decodeFrom 0 0 0 cs).map (List.cons (left * 64 + v)) := by
  obtain ⟨hvalue, hne⟩ := value_digit hv
  rw [decodeFrom, if_neg hne, hvalue]
  rfl

end Steps

theorem decode_encode {bytes : List ℕ} (h : ∀ b ∈ bytes, b < 256) :
    decode (encode bytes) = some bytes := by
  rw [decode]
  fun_induction encode bytes with
  | case1 a b c bytes ih =>
    simp only [List.mem_cons, forall_eq_or_imp] at h
    obtain ⟨ha, hb, hc, hbytes⟩ := h
    rw [decodeFrom_zero (by omega), decodeFrom_one (by omega), decodeFrom_two (by omega),
      decodeFrom_three (by omega), ih hbytes]
    simp only [Option.map_some, Option.some.injEq, List.cons.injEq, and_true]
    omega
  | case2 a b =>
    simp only [List.mem_cons, forall_eq_or_imp] at h
    obtain ⟨ha, hb, -⟩ := h
    rw [decodeFrom_zero (by omega), decodeFrom_one (by omega), decodeFrom_two (by omega)]
    simp only [decodeFrom, if_true, show 2 ≤ 3 from by decide, show 4 ≤ 3 + (0 + 1) from by decide,
      Option.map_some, Option.some.injEq, List.cons.injEq, and_true]
    omega
  | case3 a =>
    simp only [List.mem_cons, forall_eq_or_imp] at h
    obtain ⟨ha, -⟩ := h
    rw [decodeFrom_zero (by omega), decodeFrom_one (by omega)]
    simp only [decodeFrom, if_true, le_refl, show ¬ 4 ≤ 2 + (0 + 1) from by decide, if_false,
      Option.map_some, Option.some.injEq, List.cons.injEq, and_true]
    omega
  | case4 => rfl

end Lib.Base64
