import MyAccountController.Auth.AuthService
import MyAccountController.Foundation.Base64
import MyAccountController.Foundation.Utf8

/-! # `webauthn-crypto.ts`

The master password is encrypted as UTF-8 under a key from the PRF output, and
both the nonce and the ciphertext are kept as base64. The text decoder takes a
byte order mark at the beginning for a signature and drops it, so a password that
begins with one does not come back.
-/

namespace MyAccountController

open Foundation

/-- The `crypto.subtle` functions. A buffer is its bytes, and `none` is an `OperationError`. -/
structure WebCrypto where
  Key : Type
  digestSha256 : List UInt8 → List UInt8
  /-- An AES-GCM key of 256 bits by HKDF with SHA-256. -/
  deriveKey : (secret salt info : List UInt8) → Key
  encrypt : (iv : List UInt8) → Key → List UInt8 → Option (List UInt8)
  decrypt : (iv : List UInt8) → Key → List UInt8 → Option (List UInt8)

/-- AES-GCM encrypts, and decryption gives the encrypted bytes back. -/
def WebCrypto.RoundTrip (crypto : WebCrypto) : Prop :=
  ∀ iv key plaintext, ∃ ciphertext, crypto.encrypt iv key plaintext = some ciphertext ∧
    crypto.decrypt iv key ciphertext = some plaintext

/-- `new TextEncoder().encode(text)`. -/
def textEncode (text : String) : List UInt8 := Utf8.encode text.toList

/-- `new TextDecoder().decode(bytes)`. -/
def textDecode (bytes : List UInt8) : String :=
  String.ofList (Utf8.dropByteOrderMark (Utf8.decode bytes))

/-- The text without the byte order mark it may begin with. -/
def withoutByteOrderMark (text : String) : String :=
  String.ofList (Utf8.dropByteOrderMark text.toList)

/-- `HKDF_INFO`. -/
def hkdfInfo : List UInt8 := textEncode "account-manager:webauthn-master-password-wrap:v1"

/-- `HKDF_SALT`. -/
def hkdfSalt : List UInt8 := textEncode "account-manager:webauthn-prf-salt:v1"

/-! ## Base64 -/

/-- `String.fromCharCode(...bytes)`. -/
def fromCharCode (bytes : List UInt8) : String :=
  String.ofList (bytes.map fun byte => Char.ofNat byte.toNat)

/-- `bytes[i] = binary.charCodeAt(i)` for every `i`. -/
def charCodes (binary : String) : List UInt8 := binary.toList.map fun c => UInt8.ofNat c.toNat

def invalidCharacter : Exception := .error "InvalidCharacterError"

/-- A binary string has no character above U+00FF. -/
def btoa (binary : String) : Except Exception String :=
  if binary.toList.all (·.toNat ≤ 0xFF) then
    .ok (String.ofList (Base64.encode (charCodes binary)))
  else .error invalidCharacter

def atob (base64 : String) : Except Exception String :=
  match Base64.decodeForgiving base64.toList with
  | some bytes => .ok (fromCharCode bytes)
  | none => .error invalidCharacter

def toBase64 (buffer : List UInt8) : Except Exception String := btoa (fromCharCode buffer)

def fromBase64 (base64 : String) : Except Exception (List UInt8) := do
  let binary ← atob base64
  pure (charCodes binary)

/-! ## Wrapping -/

/-- An entry of the object store `wrapped-master-password`, under the credential id. -/
structure WrappedMasterPassword where
  iv : String
  ciphertext : String
  deriving DecidableEq, Repr

/-- `crypto.subtle` answers or throws. -/
def operation {α : Type} : Option α → Except Exception α
  | some result => .ok result
  | none => .error (.error "OperationError")

section Wrapping

variable (crypto : WebCrypto)

def getPrfEvalSalt : List UInt8 := crypto.digestSha256 hkdfSalt

def deriveWrappingKey (prfOutput : List UInt8) : crypto.Key :=
  crypto.deriveKey prfOutput hkdfSalt hkdfInfo

/-- `iv` is drawn by `crypto.getRandomValues`. -/
def wrapMasterPassword (prfOutput : List UInt8) (masterPassword : String) (iv : Vector UInt8 12) :
    Except Exception WrappedMasterPassword := do
  let key := deriveWrappingKey crypto prfOutput
  let ciphertext ← operation (crypto.encrypt iv.toList key (textEncode masterPassword))
  let iv ← toBase64 iv.toList
  let ciphertext ← toBase64 ciphertext
  pure { iv, ciphertext }

def unwrapMasterPassword (prfOutput : List UInt8) (wrapped : WrappedMasterPassword) :
    Except Exception String := do
  let key := deriveWrappingKey crypto prfOutput
  let iv ← fromBase64 wrapped.iv
  let ciphertext ← fromBase64 wrapped.ciphertext
  let plaintext ← operation (crypto.decrypt iv key ciphertext)
  pure (textDecode plaintext)

end Wrapping

/-! ## The codecs undo each other -/

@[simp] theorem textDecode_textEncode (text : String) :
    textDecode (textEncode text) = withoutByteOrderMark text := by
  rw [textDecode, textEncode, Utf8.decode_encode, withoutByteOrderMark]

theorem withoutByteOrderMark_eq_self_iff {text : String} :
    withoutByteOrderMark text = text ↔ text.toList.head? ≠ some '\uFEFF' := by
  rw [← Utf8.dropByteOrderMark_eq_self_iff, withoutByteOrderMark]
  constructor
  · intro htext
    rw [← String.toList_ofList (l := Utf8.dropByteOrderMark text.toList), htext]
  · intro htext
    rw [htext, String.ofList_toList]

/-- A byte is the code of its character. -/
theorem toNat_ofNat_byte (byte : UInt8) : (Char.ofNat byte.toNat).toNat = byte.toNat := by
  have hbyte := byte.toNat_lt
  have hvalid : byte.toNat.isValidChar := .inl (by omega)
  rw [Char.toNat, Char.ofNat, dif_pos hvalid]
  rfl

@[simp] theorem charCodes_fromCharCode (bytes : List UInt8) :
    charCodes (fromCharCode bytes) = bytes := by
  rw [charCodes, fromCharCode, String.toList_ofList, List.map_map]
  conv_rhs => rw [← List.map_id bytes]
  refine List.map_congr_left fun byte _ => ?_
  rw [Function.comp_apply, toNat_ofNat_byte, UInt8.ofNat_toNat]
  rfl

theorem ok_bind {α β : Type} (a : α) (f : α → Except Exception β) :
    (Except.ok a >>= f) = f a := rfl

theorem toBase64_eq (buffer : List UInt8) :
    toBase64 buffer = .ok (String.ofList (Base64.encode buffer)) := by
  -- `btoa` refuses characters above 0xFF, which no byte is.
  have hbinary : (fromCharCode buffer).toList.all (·.toNat ≤ 0xFF) = true := by
    rw [fromCharCode, String.toList_ofList, List.all_map, List.all_eq_true]
    intro byte _
    have hbyte := byte.toNat_lt
    rw [Function.comp_apply, toNat_ofNat_byte]
    exact decide_eq_true (by omega)
  rw [toBase64, btoa, if_pos hbinary, charCodes_fromCharCode]

/-- Every byte array comes back. -/
theorem fromBase64_encode (buffer : List UInt8) :
    fromBase64 (String.ofList (Base64.encode buffer)) = .ok buffer := by
  rw [fromBase64, atob, String.toList_ofList, Base64.decodeForgiving_encode]
  exact congrArg Except.ok (charCodes_fromCharCode buffer)

/-- What is wrapped under a PRF output, and what unwraps from it. -/
theorem unwrap_wrap {crypto : WebCrypto} (hcrypto : crypto.RoundTrip) (prfOutput : List UInt8)
    (masterPassword : String) (iv : Vector UInt8 12) :
    ∃ wrapped, wrapMasterPassword crypto prfOutput masterPassword iv = .ok wrapped ∧
      unwrapMasterPassword crypto prfOutput wrapped = .ok (withoutByteOrderMark masterPassword) := by
  obtain ⟨ciphertext, hencrypt, hdecrypt⟩ := hcrypto iv.toList
    (deriveWrappingKey crypto prfOutput) (textEncode masterPassword)
  refine ⟨⟨String.ofList (Base64.encode iv.toList), String.ofList (Base64.encode ciphertext)⟩,
    ?_, ?_⟩
  · rw [wrapMasterPassword, hencrypt]
    simp only [toBase64_eq]
    rfl
  · rw [unwrapMasterPassword, fromBase64_encode, fromBase64_encode, ← textDecode_textEncode]
    show (do
      let plaintext ← operation (crypto.decrypt iv.toList _ ciphertext)
      pure (textDecode plaintext)) = _
    rw [hdecrypt]
    rfl

/-- A password comes back from what was wrapped under the same PRF output exactly when it does
not begin with a byte order mark. The base64 of every byte array comes back. -/
theorem unwrapMasterPassword_iff {crypto : WebCrypto} (hcrypto : crypto.RoundTrip)
    (prfOutput : List UInt8) (masterPassword : String) (iv : Vector UInt8 12) :
    ((wrapMasterPassword crypto prfOutput masterPassword iv >>=
          unwrapMasterPassword crypto prfOutput) = .ok masterPassword ∧
        ∀ buffer, toBase64 buffer >>= fromBase64 = .ok buffer) ↔
      masterPassword.toList.head? ≠ some '\uFEFF' := by
  obtain ⟨wrapped, hwrap, hunwrap⟩ := unwrap_wrap hcrypto prfOutput masterPassword iv
  have hpassword : (wrapMasterPassword crypto prfOutput masterPassword iv >>=
      unwrapMasterPassword crypto prfOutput) = .ok (withoutByteOrderMark masterPassword) := by
    rw [hwrap, ok_bind, hunwrap]
  have hbase64 : ∀ buffer, toBase64 buffer >>= fromBase64 = .ok buffer := by
    intro buffer
    rw [toBase64_eq, ok_bind, fromBase64_encode]
  rw [← withoutByteOrderMark_eq_self_iff, hpassword]
  constructor
  · exact fun hback => Except.ok.inj hback.1
  · exact fun hmark => ⟨congrArg Except.ok hmark, hbase64⟩

/-! ## A run -/

/-- A ciphertext spells out its nonce and its key before the plaintext. -/
def spelledCrypto : WebCrypto where
  Key := List UInt8
  digestSha256 bytes := bytes
  deriveKey secret _ _ := secret
  encrypt iv key plaintext := some (iv ++ (key ++ plaintext))
  decrypt iv key ciphertext :=
    if iv ++ key <+: ciphertext then some (ciphertext.drop (iv ++ key).length) else none

theorem spelledCrypto_roundTrip : spelledCrypto.RoundTrip := by
  intro iv (key : List UInt8) plaintext
  refine ⟨_, rfl, ?_⟩
  show (if iv ++ key <+: iv ++ (key ++ plaintext) then _ else none) = some plaintext
  rw [← List.append_assoc, if_pos (List.prefix_append _ _), List.drop_left]

/-- An accepted password that begins with a byte order mark comes back without it. -/
theorem unwrapMasterPassword_byteOrderMark :
    minMasterPasswordLength ≤ utf16Length "\uFEFFpassword" ∧
      spelledCrypto.RoundTrip ∧
      ¬ ((wrapMasterPassword spelledCrypto [7] "\uFEFFpassword" (Vector.replicate 12 0) >>=
        unwrapMasterPassword spelledCrypto [7]) = .ok "\uFEFFpassword" ∧
          ∀ buffer, toBase64 buffer >>= fromBase64 = .ok buffer) := by
  obtain ⟨wrapped, hwrap, hunwrap⟩ :=
    unwrap_wrap spelledCrypto_roundTrip [7] "\uFEFFpassword" (Vector.replicate 12 0)
  refine ⟨by decide, spelledCrypto_roundTrip, fun hback => ?_⟩
  rw [hwrap, ok_bind] at hback
  have hsame := Except.ok.inj (hunwrap.symm.trans hback.1)
  exact absurd (withoutByteOrderMark_eq_self_iff.mp hsame) (by decide)

theorem unwrapMasterPassword_hangul :
    (wrapMasterPassword spelledCrypto [7] "비밀번호-2026" (Vector.replicate 12 0) >>=
      unwrapMasterPassword spelledCrypto [7]) = .ok "비밀번호-2026" :=
  ((unwrapMasterPassword_iff spelledCrypto_roundTrip [7] "비밀번호-2026"
    (Vector.replicate 12 0)).mpr (by decide)).1

end MyAccountController
