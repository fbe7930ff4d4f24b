import Mathlib.Data.List.Basic

/-! # UTF-8

The encoder, and the decoder of the Encoding Standard, which puts U+FFFD for what
is not well formed. Decoding undoes encoding, so only bytes that encode no text
are replaced.
-/

namespace Foundation

namespace Utf8

def encode (text : List Char) : List UInt8 := text.flatMap String.utf8EncodeChar

/-- A sequence begun: its bits so far, the bytes still needed and the range of the next one. -/
structure Pending where
  codePoint : Nat
  needed : Nat
  lower : Nat
  upper : Nat

/-- The first byte of a sequence. -/
def lead (byte : Nat) : List Char × Option Pending :=
  if byte ≤ 0x7F then ([Char.ofNat byte], none)
  else if 0xC2 ≤ byte ∧ byte ≤ 0xDF then ([], some ⟨byte % 0x20, 1, 0x80, 0xBF⟩)
  else if 0xE0 ≤ byte ∧ byte ≤ 0xEF then
    ([], some ⟨byte % 0x10, 2, if byte = 0xE0 then 0xA0 else 0x80,
      if byte = 0xED then 0x9F else 0xBF⟩)
  else if 0xF0 ≤ byte ∧ byte ≤ 0xF4 then
    ([], some ⟨byte % 0x8, 3, if byte = 0xF0 then 0x90 else 0x80,
      if byte = 0xF4 then 0x8F else 0xBF⟩)
  else (['\uFFFD'], none)

/-- A byte out of range ends the sequence with an error and is read again as a first byte. -/
def step : Option Pending → Nat → List Char × Option Pending
  | none, byte => lead byte
  | some pending, byte =>
      if pending.lower ≤ byte ∧ byte ≤ pending.upper then
        if pending.needed = 1 then ([Char.ofNat (pending.codePoint * 0x40 + byte % 0x40)], none)
        else ([], some ⟨pending.codePoint * 0x40 + byte % 0x40, pending.needed - 1, 0x80, 0xBF⟩)
      else ('\uFFFD' :: (lead byte).1, (lead byte).2)

def decodeFrom : Option Pending → List UInt8 → List Char
  | none, [] => []
  | some _, [] => ['\uFFFD']
  | state, byte :: bytes =>
      (step state byte.toNat).1 ++ decodeFrom (step state byte.toNat).2 bytes

def decode (bytes : List UInt8) : List Char := decodeFrom none bytes

@[simp] theorem encode_nil : encode [] = [] := rfl

theorem encode_cons (c : Char) (text : List Char) :
    encode (c :: text) = String.utf8EncodeChar c ++ encode text := rfl

theorem decodeFrom_cons (state : Option Pending) (byte : UInt8) (bytes : List UInt8) :
    decodeFrom state (byte :: bytes) =
      (step state byte.toNat).1 ++ decodeFrom (step state byte.toNat).2 bytes := by
  cases state <;> rfl

/-- A text without the byte order mark it may begin with. -/
def dropByteOrderMark : List Char → List Char
  | [] => []
  | c :: text => if c = '\uFEFF' then text else c :: text

theorem dropByteOrderMark_eq_self_iff {text : List Char} :
    dropByteOrderMark text = text ↔ text.head? ≠ some '\uFEFF' := by
  cases text with
  | nil => simp [dropByteOrderMark]
  | cons c text =>
      unfold dropByteOrderMark
      split
      next hmark => simp [hmark]
      next hother => simp [hother]

/-! ## The bytes of one character -/

theorem toNat_ofNat_byte {byte : Nat} (hbyte : byte < 0x100) : (UInt8.ofNat byte).toNat = byte := by
  simpa using hbyte

theorem lead_two {n : Nat} (hlower : 2 ≤ n) (hupper : n < 0x20) :
    lead (n + 0xC0) = ([], some ⟨n, 1, 0x80, 0xBF⟩) := by
  rw [lead, if_neg (by omega), if_pos (by omega), show (n + 0xC0) % 0x20 = n by omega]

theorem lead_three {n : Nat} (hupper : n < 0x10) :
    lead (n + 0xE0) = ([], some ⟨n, 2, if n = 0 then 0xA0 else 0x80,
      if n = 0xD then 0x9F else 0xBF⟩) := by
  rw [lead, if_neg (by omega), if_neg (by omega), if_pos (by omega),
    show (n + 0xE0) % 0x10 = n by omega]
  simp only [show n + 0xE0 = 0xE0 ↔ n = 0 by omega, show n + 0xE0 = 0xED ↔ n = 0xD by omega]

theorem lead_four {n : Nat} (hupper : n ≤ 4) :
    lead (n + 0xF0) = ([], some ⟨n, 3, if n = 0 then 0x90 else 0x80,
      if n = 4 then 0x8F else 0xBF⟩) := by
  rw [lead, if_neg (by omega), if_neg (by omega), if_neg (by omega), if_pos (by omega),
    show (n + 0xF0) % 0x8 = n by omega]
  simp only [show n + 0xF0 = 0xF0 ↔ n = 0 by omega, show n + 0xF0 = 0xF4 ↔ n = 4 by omega]

/-- Six more bits of a sequence that needs more than one byte. -/
theorem step_more {codePoint needed lower upper n : Nat} (hn : n < 0x40)
    (hlower : lower ≤ n + 0x80) (hupper : n + 0x80 ≤ upper) :
    step (some ⟨codePoint, needed + 2, lower, upper⟩) (n + 0x80) =
      ([], some ⟨codePoint * 0x40 + n, needed + 1, 0x80, 0xBF⟩) := by
  rw [step, if_pos ⟨hlower, hupper⟩, if_neg (by simp), show (n + 0x80) % 0x40 = n by omega]
  rfl

/-- The last six bits of a sequence. -/
theorem step_last {codePoint n : Nat} (hn : n < 0x40) :
    step (some ⟨codePoint, 1, 0x80, 0xBF⟩) (n + 0x80) =
      ([Char.ofNat (codePoint * 0x40 + n)], none) := by
  rw [step, if_pos (by simp; omega), if_pos rfl, show (n + 0x80) % 0x40 = n by omega]

theorem decodeFrom_encodeChar (c : Char) (bytes : List UInt8) :
    decodeFrom none (String.utf8EncodeChar c ++ bytes) = c :: decodeFrom none bytes := by
  have hvalid : c.toNat < 0xD800 ∨ 0xDFFF < c.toNat ∧ c.toNat < 0x110000 := c.valid
  have hchar := Char.ofNat_toNat c
  have hval : c.val.toNat = c.toNat := rfl
  unfold String.utf8EncodeChar
  rw [hval]
  generalize c.toNat = v at *
  dsimp only
  split
  next hone =>
    rw [List.singleton_append, decodeFrom_cons, toNat_ofNat_byte (by omega), step, lead,
      if_pos hone, hchar]
    rfl
  next hone =>
  split
  next htwo =>
    simp only [List.cons_append, List.nil_append, decodeFrom_cons]
    rw [toNat_ofNat_byte (by omega), toNat_ofNat_byte (by omega), step,
      lead_two (by omega) (by omega), step_last (by omega),
      show v / 64 % 0x20 * 0x40 + v % 0x40 = v by omega, hchar]
    rfl
  next htwo =>
  split
  next hthree =>
    simp only [List.cons_append, List.nil_append, decodeFrom_cons]
    rw [toNat_ofNat_byte (by omega), toNat_ofNat_byte (by omega), toNat_ofNat_byte (by omega), step,
      lead_three (by omega),
      step_more (by omega) (by split <;> omega) (by split <;> omega), step_last (by omega),
      show (v / 4096 % 0x10 * 0x40 + v / 64 % 0x40) * 0x40 + v % 0x40 = v by omega, hchar]
    rfl
  next hthree =>
    simp only [List.cons_append, List.nil_append, decodeFrom_cons]
    rw [toNat_ofNat_byte (by omega), toNat_ofNat_byte (by omega), toNat_ofNat_byte (by omega),
      toNat_ofNat_byte (by omega), step, lead_four (by omega),
      step_more (by omega) (by split <;> omega) (by split <;> omega),
      step_more (by omega) (by omega) (by omega), step_last (by omega),
      show ((v / 262144 % 0x8 * 0x40 + v / 4096 % 0x40) * 0x40 + v / 64 % 0x40) * 0x40 +
        v % 0x40 = v by omega, hchar]
    rfl

@[simp] theorem decode_encode (text : List Char) : decode (encode text) = text := by
  induction text with
  | nil => rfl
  | cons c text ih =>
      rw [decode, encode_cons, decodeFrom_encodeChar]
      exact congrArg (c :: ·) ih

end Utf8

end Foundation
