import Mathlib.Data.List.Basic

/-! # Base64

Three bytes are four digits of six bits, and padding fills the last group. Two
decoders are in use: the forgiving one of the web refuses other characters, that
of Node.js skips them. Both undo the encoder.
-/

namespace Foundation

namespace Base64

def alphabet : List Char := "ABCDEFGHIJKLMNOPQRSTUVWXYZabcdefghijklmnopqrstuvwxyz0123456789+/".toList

/-- The character of a digit below 64. -/
def character (digit : Nat) : Char := alphabet.getD digit '='

def value (c : Char) : Option Nat := alphabet.idxOf? c

/-- The digits of the bytes, with zero bits after the last one. -/
def digits : List UInt8 → List Nat
  | [] => []
  | [a] => [a.toNat / 4, a.toNat % 4 * 16]
  | [a, b] => [a.toNat / 4, a.toNat % 4 * 16 + b.toNat / 16, b.toNat % 16 * 4]
  | a :: b :: c :: bytes =>
      [a.toNat / 4, a.toNat % 4 * 16 + b.toNat / 16, b.toNat % 16 * 4 + c.toNat / 64,
        c.toNat % 64] ++ digits bytes

/-- The whole bytes that the digits spell. -/
def bytesOf : List Nat → List UInt8
  | [] => []
  | [_] => []
  | [p, q] => [UInt8.ofNat (p * 4 + q / 16)]
  | [p, q, r] => [UInt8.ofNat (p * 4 + q / 16), UInt8.ofNat (q % 16 * 16 + r / 4)]
  | p :: q :: r :: s :: rest =>
      [UInt8.ofNat (p * 4 + q / 16), UInt8.ofNat (q % 16 * 16 + r / 4),
        UInt8.ofNat (r % 4 * 64 + s)] ++ bytesOf rest

/-- The number of padding characters. -/
def padding (size : Nat) : Nat := (3 - size % 3) % 3

def encode (bytes : List UInt8) : List Char :=
  (digits bytes).map character ++ List.replicate (padding bytes.length) '='

/-- Node.js: the URL-safe alphabet too, other characters are skipped and `=` ends the text. -/
def decodeLenient (text : List Char) : List UInt8 :=
  bytesOf ((text.takeWhile (· ≠ '=')).filterMap fun c =>
    if c = '-' then some 62 else if c = '_' then some 63 else value c)

def isAsciiWhitespace (c : Char) : Bool :=
  c = '\t' || c = '\n' || c = '\x0c' || c = '\r' || c = ' '

/-- Remove one or two `=` at the end. -/
def stripPadding (data : List Char) : List Char :=
  match data.reverse with
  | '=' :: '=' :: rest => rest.reverse
  | '=' :: rest => rest.reverse
  | _ => data

/-- Forgiving-base64 decode of the Infra Standard, `none` is its failure. -/
def decodeForgiving (text : List Char) : Option (List UInt8) :=
  let data := text.filter (!isAsciiWhitespace ·)
  let data := if data.length % 4 = 0 then stripPadding data else data
  if data.length % 4 = 1 then none else (data.mapM value).map bytesOf

/-! ## The digits -/

theorem digits_lt : ∀ {bytes : List UInt8}, ∀ digit ∈ digits bytes, digit < 64
  | [], digit, hdigit => absurd hdigit List.not_mem_nil
  | [a], digit, hdigit => by
      have ha := a.toNat_lt
      simp only [digits, List.mem_cons, List.not_mem_nil, or_false] at hdigit
      omega
  | [a, b], digit, hdigit => by
      have ha := a.toNat_lt
      have hb := b.toNat_lt
      simp only [digits, List.mem_cons, List.not_mem_nil, or_false] at hdigit
      omega
  | a :: b :: c :: bytes, digit, hdigit => by
      have ha := a.toNat_lt
      have hb := b.toNat_lt
      have hc := c.toNat_lt
      rw [digits, List.mem_append] at hdigit
      cases hdigit with
      | inl hgroup =>
          simp only [List.mem_cons, List.not_mem_nil, or_false] at hgroup
          omega
      | inr hrest => exact digits_lt digit hrest

theorem bytesOf_digits : ∀ bytes, bytesOf (digits bytes) = bytes
  | [] => rfl
  | [a] => by
      have ha := a.toNat_lt
      have hfirst : a.toNat / 4 * 4 + a.toNat % 4 * 16 / 16 = a.toNat := by omega
      rw [digits, bytesOf, hfirst, UInt8.ofNat_toNat]
  | [a, b] => by
      have hb := b.toNat_lt
      have hfirst : a.toNat / 4 * 4 + (a.toNat % 4 * 16 + b.toNat / 16) / 16 = a.toNat := by omega
      have hsecond : (a.toNat % 4 * 16 + b.toNat / 16) % 16 * 16 + b.toNat % 16 * 4 / 4 =
          b.toNat := by omega
      rw [digits, bytesOf, hfirst, hsecond, UInt8.ofNat_toNat, UInt8.ofNat_toNat]
  | a :: b :: c :: bytes => by
      have hb := b.toNat_lt
      have hc := c.toNat_lt
      have hfirst : a.toNat / 4 * 4 + (a.toNat % 4 * 16 + b.toNat / 16) / 16 = a.toNat := by omega
      have hsecond : (a.toNat % 4 * 16 + b.toNat / 16) % 16 * 16 +
          (b.toNat % 16 * 4 + c.toNat / 64) / 4 = b.toNat := by omega
      have hthird : (b.toNat % 16 * 4 + c.toNat / 64) % 4 * 64 + c.toNat % 64 = c.toNat := by omega
      show bytesOf (_ :: _ :: _ :: _ :: digits bytes) = _
      rw [bytesOf, hfirst, hsecond, hthird, UInt8.ofNat_toNat, UInt8.ofNat_toNat,
        UInt8.ofNat_toNat, bytesOf_digits bytes]
      rfl

theorem length_digits_add_padding : ∀ bytes,
    ((digits bytes).length + padding bytes.length) % 4 = 0
  | [] => rfl
  | [_] => by simp [digits, padding]
  | [_, _] => by simp [digits, padding]
  | _ :: _ :: _ :: bytes => by
      have ih := length_digits_add_padding bytes
      simp only [digits, padding, List.length_append, List.length_cons, List.length_nil] at ih ⊢
      omega

/-! ## The characters -/

theorem value_character : ∀ digit < 64, value (character digit) = some digit := by
  decide +kernel

theorem character_spec : ∀ digit < 64, character digit ≠ '=' ∧ character digit ≠ '-' ∧
    character digit ≠ '_' ∧ isAsciiWhitespace (character digit) = false := by
  decide +kernel

theorem mapM_value_character {ds : List Nat} (hds : ∀ digit ∈ ds, digit < 64) :
    (ds.map character).mapM value = some ds := by
  induction ds with
  | nil => rfl
  | cons digit ds ih =>
      rw [List.map_cons, List.mapM_cons, value_character digit (hds digit List.mem_cons_self),
        ih fun other hother => hds other (List.mem_cons_of_mem _ hother)]
      rfl

/-- Node.js reads the digits and stops at the padding. -/
theorem decodeLenient_encode (bytes : List UInt8) : decodeLenient (encode bytes) = bytes := by
  have hpad : ∀ c ∈ (digits bytes).map character, decide (c ≠ '=') = true := by
    intro c hc
    obtain ⟨digit, hdigit, rfl⟩ := List.mem_map.mp hc
    exact decide_eq_true (character_spec digit (digits_lt digit hdigit)).1
  have hread : (encode bytes).takeWhile (· ≠ '=') = (digits bytes).map character := by
    rw [encode, List.takeWhile_append_of_pos hpad]
    cases padding bytes.length <;> simp [List.replicate_succ]
  have hvalues : ((digits bytes).map character).filterMap (fun c =>
      if c = '-' then some 62 else if c = '_' then some 63 else value c) = digits bytes := by
    rw [List.filterMap_map]
    conv_rhs => rw [← List.filterMap_some (l := digits bytes)]
    refine List.filterMap_congr fun digit hdigit => ?_
    have hlt := digits_lt digit hdigit
    obtain ⟨-, hdash, hunderscore, -⟩ := character_spec digit hlt
    rw [Function.comp_apply, if_neg hdash, if_neg hunderscore, value_character digit hlt]
  rw [decodeLenient, hread, hvalues, bytesOf_digits]

theorem stripPadding_append {text : List Char} (htext : '=' ∉ text) {n : Nat} (hn : n ≤ 2) :
    stripPadding (text ++ List.replicate n '=') = text := by
  have hreverse : ∀ rest, text.reverse ≠ '=' :: rest := fun rest h =>
    htext (List.mem_reverse.mp (h ▸ List.mem_cons_self))
  have hcases : n = 0 ∨ n = 1 ∨ n = 2 := by omega
  obtain rfl | rfl | rfl := hcases
  · rw [List.replicate_zero, List.append_nil, stripPadding]
    split
    next h => exact absurd h (hreverse _)
    next h => exact absurd h (hreverse _)
    next => rfl
  · have hlast : (text ++ List.replicate 1 '=').reverse = '=' :: text.reverse := by simp
    rw [stripPadding, hlast]
    split
    next h => exact absurd (List.cons.inj h).2 (hreverse _)
    next h => rw [← (List.cons.inj h).2, List.reverse_reverse]
    next h => exact absurd rfl (h _)
  · have hlast : (text ++ List.replicate 2 '=').reverse = '=' :: '=' :: text.reverse := by simp
    rw [stripPadding, hlast]
    exact text.reverse_reverse

/-- The web removes the padding and reads the digits. -/
theorem decodeForgiving_encode (bytes : List UInt8) :
    decodeForgiving (encode bytes) = some bytes := by
  have hcharacter : ∀ c ∈ (digits bytes).map character,
      c ≠ '=' ∧ isAsciiWhitespace c = false := by
    intro c hc
    obtain ⟨digit, hdigit, rfl⟩ := List.mem_map.mp hc
    obtain ⟨hpad, -, -, hspace⟩ := character_spec digit (digits_lt digit hdigit)
    exact ⟨hpad, hspace⟩
  have hfilter : (encode bytes).filter (!isAsciiWhitespace ·) = encode bytes := by
    refine List.filter_eq_self.mpr fun c hc => ?_
    cases List.mem_append.mp hc with
    | inl hdigit => rw [(hcharacter c hdigit).2, Bool.not_false]
    | inr hpad =>
        rw [List.eq_of_mem_replicate hpad]
        rfl
  have hlength : (encode bytes).length % 4 = 0 := by
    rw [encode, List.length_append, List.length_map, List.length_replicate]
    exact length_digits_add_padding bytes
  have hpadding : padding bytes.length ≤ 2 := by
    unfold padding
    omega
  have hstrip : stripPadding (encode bytes) = (digits bytes).map character :=
    stripPadding_append (fun hmem => (hcharacter _ hmem).1 rfl) hpadding
  have hdigits : (digits bytes).length % 4 ≠ 1 := by
    have hsum := length_digits_add_padding bytes
    omega
  unfold decodeForgiving
  rw [hfilter]
  dsimp only
  rw [if_pos hlength, hstrip, List.length_map, if_neg hdigits, mapM_value_character digits_lt,
    Option.map_some, bytesOf_digits]

end Base64

end Foundation
