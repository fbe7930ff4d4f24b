import MyAccountController.Common.JsonText
import MyAccountController.Common.Runtime

/-! # A symbolic runtime

The laws of `Runtime` hold of a concrete one, so results that assume them are
not empty. A key is the pair it was derived from, a ciphertext and a hash spell
out what they were made of, and JSON is real text. An account can be connected to
another user.
-/

namespace MyAccountController

namespace SymbolicRuntime

/-- `{ connect: { id } }` moves the account to the user of the id. No other nested write is
accepted. -/
def updateWithUser (write : Json) (columns : Account → Account) (id : String) (db : Database) :
    Except Exception (Account × Database) :=
  match write with
  | .obj [("connect", .obj [("id", .str owner)])] =>
      if (db.users.find? owner).isSome then
        match Prisma.account.replace id (fun row => { columns row with userId := owner }) db with
        | (.ok row, db') => .ok (row, db')
        | (.error e, _) => .error e
      else .error .p2025
  | _ => .error .prismaValidation

/-- Two texts in one: the length of the first in strokes, a bar, both texts. -/
def pack (first second : String) : String :=
  String.ofList (List.replicate first.toList.length '/' ++
    '|' :: (first.toList ++ second.toList))

def unpack (text : String) : Option (String × String) :=
  let length := (text.toList.takeWhile (· = '/')).length
  match text.toList.drop length with
  | [] => none
  | _ :: rest => some (String.ofList (rest.take length), String.ofList (rest.drop length))

@[simp] theorem unpack_pack (first second : String) :
    unpack (pack first second) = some (first, second) := by
  have hstrokes : ∀ n (rest : List Char),
      (List.replicate n '/' ++ '|' :: rest).takeWhile (· = '/') = List.replicate n '/' := by
    intro n rest
    induction n with
    | zero => simp
    | succ n ih => simp [List.replicate_succ, ih]
  have htext : (pack first second).toList = List.replicate first.toList.length '/' ++
      '|' :: (first.toList ++ second.toList) := String.toList_ofList
  rw [unpack, htext, hstrokes, List.length_replicate,
    List.drop_left' (List.length_replicate ..)]
  simp

/-- A key is a password with the salt it was derived under. -/
abbrev Key := String × String

def encrypt (plaintext : String) (key : Key) (iv : String) : String :=
  pack iv (pack key.1 (pack key.2 plaintext))

def decrypt (payload : String) (key : Key) : Option String := do
  let (_, sealed) ← unpack payload
  let (password, rest) ← unpack sealed
  let (salt, plaintext) ← unpack rest
  if (password, salt) = key then some plaintext else none

theorem decrypt_encrypt (plaintext : String) (key other : Key) (iv : String) :
    decrypt (encrypt plaintext key iv) other =
      if key = other then some plaintext else none := by
  simp [decrypt, encrypt]

end SymbolicRuntime

open SymbolicRuntime in
/-- The runtime of the concrete runs. -/
def symbolicRuntime : Runtime where
  Key := Key
  Iv := String
  deriveEncryptionKey password kdfSalt := (password, kdfSalt)
  hashMasterPassword hashSalt password := pack hashSalt password
  verifyMasterPassword password hash := (unpack hash).map Prod.snd = some password
  encrypt := encrypt
  decrypt := decrypt
  jsonStringify := JsonText.stringify
  jsonParse := JsonText.parse
  isoDate _ := none
  takesBareNull := true
  updateWithUser := updateWithUser

namespace symbolicRuntime

instance : DecidableEq symbolicRuntime.Key :=
  inferInstanceAs (DecidableEq SymbolicRuntime.Key)

theorem argon2Laws : symbolicRuntime.Argon2Laws where
  verify_hash hashSalt password candidate := by
    simp [symbolicRuntime, eq_comm]
  derive_injective kdfSalt := fun _ _ h => congrArg Prod.fst h

theorem aesGcmLaws : symbolicRuntime.AesGcmLaws where
  decrypt_encrypt plaintext key iv :=
    (SymbolicRuntime.decrypt_encrypt plaintext key key iv).trans (if_pos rfl)
  decrypt_other plaintext key iv other hne :=
    (SymbolicRuntime.decrypt_encrypt plaintext key other iv).trans (if_neg hne.symm)

theorem connectsUser : symbolicRuntime.ConnectsUser := by
  intro owner columns id db row db' hrun
  have hrun : (if (db.users.find? owner).isSome then
      match Prisma.account.replace id (fun row => { columns row with userId := owner }) db with
      | (.ok row, db') => .ok (row, db')
      | (.error e, _) => .error e
    else .error .p2025) = Except.ok (row, db') := hrun
  split at hrun
  · split at hrun
    next hreplace =>
      obtain ⟨rfl, rfl⟩ := Prod.mk.inj (Except.ok.inj hrun)
      exact hreplace
    next => contradiction
  · contradiction

theorem jsonRoundTrip : symbolicRuntime.JsonRoundTrip :=
  JsonText.parse_stringify

end symbolicRuntime

end MyAccountController
