import MyAccountController.Common.Exception
import MyAccountController.Common.Runtime
import MyAccountController.Foundation.Base64
import MyAccountController.Foundation.Utf8

/-! # `aes.util.ts`

A payload is the base64 of nonce, tag and ciphertext, at offsets 0, 12 and 28.
Decryption slices the same offsets but leaves the length of the tag to Node.js,
which accepts short tags and compares only the bytes that it was given.
-/

namespace MyAccountController

open Foundation

/-- A `Buffer` of 32 bytes. -/
abbrev AesKey := Vector UInt8 32

/-- AES-256-GCM: the keystream of a key and a nonce is added to the text, and the tag is that of
the ciphertext. -/
structure Gcm where
  crypt : AesKey → (iv : List UInt8) → List UInt8 → List UInt8
  tag : AesKey → (iv : List UInt8) → (ciphertext : List UInt8) → Vector UInt8 16

namespace Gcm

/-- The ciphertext is as long as the text, and decryption adds the same keystream. -/
structure Lawful (gcm : Gcm) : Prop where
  length_crypt : ∀ key iv text, (gcm.crypt key iv text).length = text.length
  crypt_crypt : ∀ key iv text, gcm.crypt key iv (gcm.crypt key iv text) = text

/-- The tag of this text is not that of its ciphertext under another key. Sixteen bytes cannot
tell all keys apart for every text, so this is about one. -/
def FailsUnderOthers (gcm : Gcm) (key : AesKey) (iv text : List UInt8) : Prop :=
  ∀ other, other ≠ key →
    gcm.tag other iv (gcm.crypt key iv text) ≠ gcm.tag key iv (gcm.crypt key iv text)

variable (gcm : Gcm)

/-- The tag lengths of GCM that Node.js accepts when none is asked for. -/
def acceptsTagLength (length : Nat) : Bool :=
  length = 4 || length = 8 || (12 ≤ length && length ≤ 16)

/-- `createDecipheriv`, `setAuthTag`, `update` and `final`. -/
def decipher (key : AesKey) (iv authTag ciphertext : List UInt8) :
    Except Exception (List UInt8) :=
  if iv = [] then .error (.error "Invalid initialization vector")
  else if acceptsTagLength authTag.length = false then
    .error (.error ("Invalid authentication tag length: " ++ toString authTag.length))
  else if authTag ≠ (gcm.tag key iv ciphertext).toList.take authTag.length then
    .error (.error "Unsupported state or unable to authenticate data")
  else .ok (gcm.crypt key iv ciphertext)

end Gcm

/-- `Buffer.from(payload, 'base64')`. -/
def bufferFrom (payload : String) : List UInt8 := Base64.decodeLenient payload.toList

namespace Aes

/-- `IV_LENGTH`. -/
def ivLength : Nat := 12

/-- `AUTH_TAG_LENGTH`. -/
def authTagLength : Nat := 16

variable (gcm : Gcm)

/-- The bytes of a payload. -/
def layout (plaintext : String) (key : AesKey) (iv : Vector UInt8 12) : List UInt8 :=
  let ciphertext := gcm.crypt key iv.toList (Utf8.encode plaintext.toList)
  let authTag := gcm.tag key iv.toList ciphertext
  iv.toList ++ (authTag.toList ++ ciphertext)

/-- `iv` is drawn by `randomBytes`. -/
def encrypt (plaintext : String) (key : AesKey) (iv : Vector UInt8 12) : String :=
  String.ofList (Base64.encode (layout gcm plaintext key iv))

def decrypt (payload : String) (key : AesKey) : Except Exception String := do
  let raw := bufferFrom payload
  let iv := raw.take ivLength
  let authTag := (raw.drop ivLength).take authTagLength
  let ciphertext := raw.drop (ivLength + authTagLength)
  let plaintext ← gcm.decipher key iv authTag ciphertext
  pure (String.ofList (Utf8.decode plaintext))

/-! ## The layout -/

variable {gcm}

@[simp] theorem bufferFrom_encrypt (plaintext : String) (key : AesKey) (iv : Vector UInt8 12) :
    bufferFrom (encrypt gcm plaintext key iv) = layout gcm plaintext key iv := by
  rw [bufferFrom, encrypt, String.toList_ofList, Base64.decodeLenient_encode]

/-- The slices of three parts whose lengths are known. -/
theorem slices {iv authTag ciphertext : List UInt8} (hiv : iv.length = ivLength)
    (htag : authTag.length = authTagLength) :
    (iv ++ (authTag ++ ciphertext)).take ivLength = iv ∧
      ((iv ++ (authTag ++ ciphertext)).drop ivLength).take authTagLength = authTag ∧
      (iv ++ (authTag ++ ciphertext)).drop (ivLength + authTagLength) = ciphertext := by
  refine ⟨List.take_left' hiv, ?_, ?_⟩
  · rw [List.drop_left' hiv, List.take_left' htag]
  · rw [← List.drop_drop, List.drop_left' hiv, List.drop_left' htag]

theorem layout_slices (plaintext : String) (key : AesKey) (iv : Vector UInt8 12) :
    (layout gcm plaintext key iv).take ivLength = iv.toList ∧
      ((layout gcm plaintext key iv).drop ivLength).take authTagLength =
        (gcm.tag key iv.toList (gcm.crypt key iv.toList (Utf8.encode plaintext.toList))).toList ∧
      (layout gcm plaintext key iv).drop (ivLength + authTagLength) =
        gcm.crypt key iv.toList (Utf8.encode plaintext.toList) :=
  slices Vector.length_toList Vector.length_toList

/-- What the decipher accepts. -/
theorem decipher_ok_iff {key : AesKey} {iv authTag ciphertext text : List UInt8} :
    gcm.decipher key iv authTag ciphertext = .ok text ↔
      iv ≠ [] ∧ Gcm.acceptsTagLength authTag.length = true ∧
        authTag = (gcm.tag key iv ciphertext).toList.take authTag.length ∧
        gcm.crypt key iv ciphertext = text := by
  unfold Gcm.decipher
  split_ifs with hiv hlength htag
  · exact ⟨fun herror => by contradiction, fun haccepts => absurd hiv haccepts.1⟩
  · refine ⟨fun herror => by contradiction, fun haccepts => ?_⟩
    rw [haccepts.2.1] at hlength
    contradiction
  · exact ⟨fun herror => by contradiction, fun haccepts => absurd haccepts.2.2.1 htag⟩
  · rw [Bool.not_eq_false] at hlength
    exact ⟨fun hok => ⟨hiv, hlength, not_not.mp htag, Except.ok.inj hok⟩,
      fun haccepts => congrArg Except.ok haccepts.2.2.2⟩

theorem decrypt_ok_iff {payload : String} {key : AesKey} {p : String} :
    decrypt gcm payload key = .ok p ↔
      ∃ text, gcm.decipher key ((bufferFrom payload).take ivLength)
          (((bufferFrom payload).drop ivLength).take authTagLength)
          ((bufferFrom payload).drop (ivLength + authTagLength)) = .ok text ∧
        String.ofList (Utf8.decode text) = p := by
  show (gcm.decipher _ _ _ _ >>= fun text => pure (String.ofList (Utf8.decode text))) = _ ↔ _
  rcases gcm.decipher key ((bufferFrom payload).take ivLength)
    (((bufferFrom payload).drop ivLength).take authTagLength)
    ((bufferFrom payload).drop (ivLength + authTagLength)) with e | text
  · constructor
    · intro hok
      contradiction
    · rintro ⟨_, hok, -⟩
      contradiction
  · constructor
    · exact fun hok => ⟨text, rfl, Except.ok.inj hok⟩
    · rintro ⟨_, hok, hp⟩
      rw [Except.ok.inj hok]
      exact congrArg Except.ok hp

/-! ## What is encrypted -/

theorem take_tag (tag : Vector UInt8 16) : tag.toList.take 16 = tag.toList :=
  List.take_of_length_le (by simp)

theorem decrypt_own (hgcm : gcm.Lawful) (plaintext : String) (key : AesKey)
    (iv : Vector UInt8 12) : decrypt gcm (encrypt gcm plaintext key iv) key = .ok plaintext := by
  obtain ⟨hiv, htag, hciphertext⟩ := @layout_slices gcm plaintext key iv
  refine decrypt_ok_iff.mpr ⟨Utf8.encode plaintext.toList, decipher_ok_iff.mpr ?_, ?_⟩
  · rw [bufferFrom_encrypt, hiv, htag, hciphertext, Vector.length_toList, take_tag]
    have hnonempty : iv.toList ≠ [] := List.ne_nil_of_length_pos (by simp)
    exact ⟨hnonempty, rfl, rfl, hgcm.crypt_crypt _ _ _⟩
  · rw [Utf8.decode_encode, String.ofList_toList]

/-- Another key that decrypts has the same tag. -/
theorem decrypt_other {plaintext p : String} {key other : AesKey} {iv : Vector UInt8 12}
    (haccepts : decrypt gcm (encrypt gcm plaintext key iv) other = .ok p) :
    gcm.tag other iv.toList (gcm.crypt key iv.toList (Utf8.encode plaintext.toList)) =
      gcm.tag key iv.toList (gcm.crypt key iv.toList (Utf8.encode plaintext.toList)) := by
  obtain ⟨hiv, htag, hciphertext⟩ := @layout_slices gcm plaintext key iv
  obtain ⟨text, hdecipher, -⟩ := decrypt_ok_iff.mp haccepts
  obtain ⟨-, -, haccepted, -⟩ := decipher_ok_iff.mp hdecipher
  rw [bufferFrom_encrypt, hiv, htag, hciphertext, Vector.length_toList, take_tag] at haccepted
  exact (Vector.toList_inj.mp haccepted).symm

/-- The payload has its three parts at their offsets, comes back under its key and is refused
under every other. -/
theorem payload_roundTrip (hgcm : gcm.Lawful) (plaintext : String) (key : AesKey)
    (iv : Vector UInt8 12)
    (hothers : gcm.FailsUnderOthers key iv.toList (Utf8.encode plaintext.toList)) :
    let ciphertext := gcm.crypt key iv.toList (Utf8.encode plaintext.toList)
    let payload := encrypt gcm plaintext key iv
    let raw := bufferFrom payload
    raw.length = 28 + (Utf8.encode plaintext.toList).length ∧
      raw.take 12 = iv.toList ∧
      (raw.drop 12).take 16 = (gcm.tag key iv.toList ciphertext).toList ∧
      raw.drop 28 = ciphertext ∧
      decrypt gcm payload key = .ok plaintext ∧
      ∀ other, other ≠ key → ∃ e, decrypt gcm payload other = .error e := by
  intro ciphertext payload raw
  have hraw : raw = layout gcm plaintext key iv := bufferFrom_encrypt plaintext key iv
  obtain ⟨hiv, htag, hciphertext⟩ := @layout_slices gcm plaintext key iv
  rw [← hraw] at hiv htag hciphertext
  have hlength : raw.length = 28 + (Utf8.encode plaintext.toList).length := by
    rw [hraw, layout, List.length_append, List.length_append, hgcm.length_crypt,
      Vector.length_toList, Vector.length_toList]
    omega
  refine ⟨hlength, hiv, htag, hciphertext, decrypt_own hgcm plaintext key iv, ?_⟩
  intro other hne
  rcases hresult : decrypt gcm payload other with e | p
  · exact ⟨e, rfl⟩
  · exact absurd (decrypt_other hresult) (hothers other hne)

/-- `CryptoService` hands these two functions to the other services. -/
def cryptoService (gcm : Gcm) (deriveEncryptionKey : String → String → AesKey) (R : Runtime) :
    Runtime :=
  { R with
    Key := AesKey
    Iv := Vector UInt8 12
    deriveEncryptionKey
    encrypt := encrypt gcm
    decrypt := fun payload key => (decrypt gcm payload key).toOption }

/-- The first law of `Runtime.AesGcmLaws`. -/
theorem cryptoService_decrypt_encrypt (hgcm : gcm.Lawful)
    (deriveEncryptionKey : String → String → AesKey) (R : Runtime) (plaintext : String)
    (key : AesKey) (iv : Vector UInt8 12) :
    let service := cryptoService gcm deriveEncryptionKey R
    service.decrypt (service.encrypt plaintext key iv) key = some plaintext := by
  dsimp only [cryptoService]
  rw [decrypt_own hgcm]
  rfl

/-! ## What is accepted -/

/-- The payload has the nonce, the complete tag and the ciphertext of the plaintext, as one that
`encrypt` produces. -/
structure Complete (gcm : Gcm) (payload : String) (key : AesKey) (p : String) : Prop where
  length : 28 ≤ (bufferFrom payload).length
  tag : ((bufferFrom payload).drop 12).take 16 = (gcm.tag key ((bufferFrom payload).take 12)
    (gcm.crypt key ((bufferFrom payload).take 12) (Utf8.encode p.toList))).toList
  produced : ∃ iv, bufferFrom payload = bufferFrom (encrypt gcm p key iv)

/-- The payload ends within the tag, at a length that Node.js accepts, and what there is of the
tag is that of the empty ciphertext. -/
def TruncatedTag (gcm : Gcm) (payload : String) (key : AesKey) : Prop :=
  let raw := bufferFrom payload
  raw.length < 28 ∧ Gcm.acceptsTagLength (raw.length - 12) = true ∧
    raw.drop 12 = (gcm.tag key (raw.take 12) []).toList.take (raw.length - 12)

/-- The tag is complete and right, but the bytes under it are those of no text. -/
def NoText (gcm : Gcm) (payload : String) (key : AesKey) : Prop :=
  let raw := bufferFrom payload
  28 ≤ raw.length ∧
    (raw.drop 12).take 16 = (gcm.tag key (raw.take 12) (raw.drop 28)).toList ∧
    ¬ ∃ text, Utf8.encode text = gcm.crypt key (raw.take 12) (raw.drop 28)

theorem length_tagSlice {raw : List UInt8} (hlength : raw.length < 28) :
    (raw.drop 12).take 16 = raw.drop 12 ∧ raw.drop 28 = [] := by
  constructor
  · exact List.take_of_length_le (by rw [List.length_drop]; omega)
  · exact List.drop_eq_nil_of_le (by omega)

/-- A payload within its tag is accepted as the empty text. -/
theorem decrypt_of_truncatedTag (hgcm : gcm.Lawful) {payload : String} {key : AesKey}
    (htruncated : TruncatedTag gcm payload key) : decrypt gcm payload key = .ok "" := by
  obtain ⟨hlength, haccepts, htag⟩ := htruncated
  obtain ⟨hslice, hempty⟩ := length_tagSlice hlength
  have hiv : (bufferFrom payload).take 12 ≠ [] := by
    intro hnil
    have hzero : (bufferFrom payload).length = 0 := by
      cases List.take_eq_nil_iff.mp hnil with
      | inl htwelve => contradiction
      | inr hnone => rw [hnone, List.length_nil]
    rw [hzero] at haccepts
    contradiction
  have hcrypt : gcm.crypt key ((bufferFrom payload).take 12) [] = [] :=
    List.eq_nil_of_length_eq_zero (hgcm.length_crypt _ _ _)
  refine decrypt_ok_iff.mpr ⟨[], decipher_ok_iff.mpr ⟨hiv, ?_, ?_, ?_⟩, rfl⟩
  · show Gcm.acceptsTagLength (((bufferFrom payload).drop 12).take 16).length = true
    rw [hslice, List.length_drop]
    exact haccepts
  · show ((bufferFrom payload).drop 12).take 16 = (gcm.tag key _
      ((bufferFrom payload).drop 28)).toList.take (((bufferFrom payload).drop 12).take 16).length
    rw [hslice, hempty, List.length_drop]
    exact htag
  · show gcm.crypt key _ ((bufferFrom payload).drop 28) = []
    rw [hempty]
    exact hcrypt

theorem tagSlice_length {raw : List UInt8} (hlength : 28 ≤ raw.length) :
    ((raw.drop 12).take 16).length = 16 := by
  rw [List.length_take, List.length_drop]
  omega

/-- Bytes of no text are accepted as what replaces them. -/
theorem decrypt_of_noText {payload : String} {key : AesKey} (hnoText : NoText gcm payload key) :
    ∃ p, decrypt gcm payload key = .ok p := by
  obtain ⟨hlength, htag, -⟩ := hnoText
  have htwelve : ((bufferFrom payload).take 12).length = 12 :=
    List.length_take_of_le (by omega)
  have hsixteen := tagSlice_length hlength
  refine ⟨_, decrypt_ok_iff.mpr ⟨_, decipher_ok_iff.mpr ⟨?_, ?_, ?_, rfl⟩, rfl⟩⟩
  · exact List.ne_nil_of_length_pos (by rw [ivLength, htwelve]; omega)
  · show Gcm.acceptsTagLength (((bufferFrom payload).drop 12).take 16).length = true
    rw [hsixteen]
    rfl
  · show ((bufferFrom payload).drop 12).take 16 = (gcm.tag key _
      ((bufferFrom payload).drop 28)).toList.take (((bufferFrom payload).drop 12).take 16).length
    rw [hsixteen, take_tag]
    exact htag

/-- The ciphertext of a complete payload is that of the plaintext. -/
theorem Complete.crypt_eq {payload : String} {key : AesKey} {p : String}
    (hgcm : gcm.Lawful) (hcomplete : Complete gcm payload key p) :
    Utf8.encode p.toList =
      gcm.crypt key ((bufferFrom payload).take 12) ((bufferFrom payload).drop 28) := by
  obtain ⟨iv, hproduced⟩ := hcomplete.produced
  obtain ⟨hiv, -, hciphertext⟩ := @layout_slices gcm p key iv
  rw [hproduced, bufferFrom_encrypt, show (layout gcm p key iv).take 12 = _ from hiv,
    show (layout gcm p key iv).drop 28 = _ from hciphertext, hgcm.crypt_crypt]

/-- A right and complete tag over the bytes of a text. -/
theorem complete_of_text (hgcm : gcm.Lawful) {payload : String} {key : AesKey} {text : List Char}
    (hlength : 28 ≤ (bufferFrom payload).length)
    (htag : ((bufferFrom payload).drop 12).take 16 = (gcm.tag key
      ((bufferFrom payload).take 12) ((bufferFrom payload).drop 28)).toList)
    (htext : Utf8.encode text =
      gcm.crypt key ((bufferFrom payload).take 12) ((bufferFrom payload).drop 28)) :
    Complete gcm payload key (String.ofList text) := by
  have hcrypt : gcm.crypt key ((bufferFrom payload).take 12)
      (Utf8.encode (String.ofList text).toList) = (bufferFrom payload).drop 28 := by
    rw [String.toList_ofList, htext, hgcm.crypt_crypt]
  have htwelve : ((bufferFrom payload).take 12).length = 12 :=
    List.length_take_of_le (by omega)
  refine ⟨hlength, by rw [hcrypt]; exact htag,
    ⟨⟨((bufferFrom payload).take 12).toArray, htwelve⟩, ?_⟩⟩
  rw [bufferFrom_encrypt, layout]
  show bufferFrom payload = (bufferFrom payload).take 12 ++ ((gcm.tag key
    ((bufferFrom payload).take 12) (gcm.crypt key ((bufferFrom payload).take 12)
      (Utf8.encode (String.ofList text).toList))).toList ++
    gcm.crypt key ((bufferFrom payload).take 12) (Utf8.encode (String.ofList text).toList))
  rw [hcrypt, ← htag]
  conv_lhs => rw [← List.take_append_drop 12 (bufferFrom payload),
    ← List.take_append_drop 16 ((bufferFrom payload).drop 12), List.drop_drop]

/-- Everything that is accepted has a complete tag, unless the payload ends within a tag that is
right as far as it goes, or its bytes are those of no text. -/
theorem complete_iff (hgcm : gcm.Lawful) (payload : String) (key : AesKey) :
    (∀ p, decrypt gcm payload key = .ok p → Complete gcm payload key p) ↔
      ¬ TruncatedTag gcm payload key ∧ ¬ NoText gcm payload key := by
  constructor
  · intro hcomplete
    constructor
    · intro htruncated
      have hlength := (hcomplete "" (decrypt_of_truncatedTag hgcm htruncated)).length
      exact absurd htruncated.1 (by omega)
    · intro hnoText
      obtain ⟨p, haccepts⟩ := decrypt_of_noText hnoText
      exact hnoText.2.2 ⟨p.toList, (hcomplete p haccepts).crypt_eq hgcm⟩
  · rintro ⟨htruncated, hnoText⟩ p haccepts
    obtain ⟨bytes, hdecipher, rfl⟩ := decrypt_ok_iff.mp haccepts
    obtain ⟨-, hlength, htag, rfl⟩ := decipher_ok_iff.mp hdecipher
    change Gcm.acceptsTagLength (((bufferFrom payload).drop 12).take 16).length = true at hlength
    change ((bufferFrom payload).drop 12).take 16 = (gcm.tag key ((bufferFrom payload).take 12)
      ((bufferFrom payload).drop 28)).toList.take
        (((bufferFrom payload).drop 12).take 16).length at htag
    by_cases hlong : 28 ≤ (bufferFrom payload).length
    · -- The whole tag is compared.
      rw [tagSlice_length hlong, take_tag] at htag
      obtain ⟨text, htext⟩ := not_not.mp fun hnone => hnoText ⟨hlong, htag, hnone⟩
      show Complete gcm payload key (String.ofList (Utf8.decode
        (gcm.crypt key ((bufferFrom payload).take 12) ((bufferFrom payload).drop 28))))
      rw [← htext, Utf8.decode_encode]
      exact complete_of_text hgcm hlong htag htext
    · -- Nothing is left for the ciphertext.
      obtain ⟨hslice, hempty⟩ := length_tagSlice (Nat.not_le.mp hlong)
      rw [hslice, List.length_drop] at hlength
      rw [hslice, hempty, List.length_drop] at htag
      exact (htruncated ⟨Nat.not_le.mp hlong, hlength, htag⟩).elim

/-! ## Runs -/

namespace Runs

/-- The key that the toy cipher tells from all others. -/
def zeroKey : AesKey := Vector.replicate 32 0

/-- Every bit is flipped, and the tag says whether the key was `zeroKey`. -/
def toyGcm : Gcm where
  crypt _ _ text := text.map (~~~ ·)
  tag key _ _ := Vector.replicate 16 (if key = zeroKey then 7 else 9)

theorem lawful : toyGcm.Lawful where
  length_crypt key iv text := text.length_map (~~~ ·)
  crypt_crypt key iv text := by
    show (text.map (~~~ ·)).map (~~~ ·) = text
    rw [List.map_map]
    conv_rhs => rw [← List.map_id text]
    refine List.map_congr_left fun byte _ => ?_
    simp

theorem failsUnderOthers (iv text : List UInt8) : toyGcm.FailsUnderOthers zeroKey iv text := by
  intro other hne htag
  have hbyte := congrArg (fun tag : Vector UInt8 16 => tag.toList) htag
  simp only [toyGcm, if_neg hne] at hbyte
  contradiction

def iv : Vector UInt8 12 := Vector.replicate 12 1

/-- The nonce and four bytes of the tag. -/
def shortPayload : String := String.ofList (Base64.encode (iv.toList ++ [7, 7, 7, 7]))

theorem decodes_shortPayload : bufferFrom shortPayload = iv.toList ++ [7, 7, 7, 7] := by
  rw [bufferFrom, shortPayload, String.toList_ofList, Base64.decodeLenient_encode]

end Runs

open Runs in
theorem payload_roundTrip_example :
    decrypt toyGcm (encrypt toyGcm "비밀번호" zeroKey iv) zeroKey = .ok "비밀번호" :=
  (payload_roundTrip lawful "비밀번호" zeroKey iv (failsUnderOthers _ _)).2.2.2.2.1

open Runs in
/-- Sixteen bytes are enough to be accepted. -/
theorem not_complete_shortPayload : ¬ ∀ p, decrypt toyGcm shortPayload zeroKey = .ok p →
    Complete toyGcm shortPayload zeroKey p := by
  intro hcomplete
  have htruncated : TruncatedTag toyGcm shortPayload zeroKey := by
    simp only [TruncatedTag, decodes_shortPayload]
    decide
  have hlength := (hcomplete "" (decrypt_of_truncatedTag lawful htruncated)).length
  rw [decodes_shortPayload] at hlength
  exact absurd hlength (by decide)

open Runs in
theorem complete_iff_example :
    Complete toyGcm (encrypt toyGcm "token" zeroKey iv) zeroKey "token" := by
  refine (complete_iff lawful (encrypt toyGcm "token" zeroKey iv) zeroKey).mpr ⟨?_, ?_⟩ "token"
    (decrypt_own lawful "token" zeroKey iv)
  · intro htruncated
    have hlength := htruncated.1
    rw [bufferFrom_encrypt] at hlength
    exact absurd hlength (by decide)
  · intro hnoText
    refine hnoText.2.2 ⟨"token".toList, ?_⟩
    rw [bufferFrom_encrypt]
    decide

end Aes

end MyAccountController
