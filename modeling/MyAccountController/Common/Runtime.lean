import Mathlib.Algebra.GroupWithZero.Nat
import MyAccountController.Prisma.Client

/-! # The functions the services take from Node.js and its packages

Argon2id, AES-256-GCM, the JSON text format and the nested writes of Prisma are
parameters. Randomness is an argument: the nonce of an encryption, the salt inside
an Argon2 hash. The laws are the documented behaviour of these functions and are
assumed by name where a result needs them.
-/

namespace MyAccountController

/-- `CryptoService`, `JSON`, and what Prisma makes of a data object. -/
structure Runtime where
  /-- A raw 32-byte AES key. -/
  Key : Type
  /-- A 12-byte nonce. -/
  Iv : Type
  deriveEncryptionKey : (password kdfSalt : String) → Key
  hashMasterPassword : (hashSalt password : String) → String
  verifyMasterPassword : (password hash : String) → Bool
  encrypt : (plaintext : String) → Key → Iv → String
  /-- `none` is the exception of `decipher.final()`. -/
  decrypt : (payload : String) → Key → Option String
  jsonStringify : Json → String
  /-- `none` is a `SyntaxError`. -/
  jsonParse : String → Option Json
  /-- A `DateTime` column given as an ISO 8601 string. -/
  isoDate : String → Option Int
  /-- A bare `null` for a nullable JSON column is stored as JSON `null`; else it is refused. -/
  takesBareNull : Bool
  /-- An update of the account of the id that names the relation `user`: the nested write, which
  may reach every table, and the scalar columns, in one transaction. -/
  updateWithUser : (write : Json) → (columns : Account → Account) → (id : String) → Database →
    Except Exception (Account × Database)

namespace Runtime

/-- Argon2 verification accepts exactly the hashed password, and the raw hash
under one salt separates passwords. -/
structure Argon2Laws (R : Runtime) : Prop where
  verify_hash : ∀ hashSalt password candidate,
    R.verifyMasterPassword candidate (R.hashMasterPassword hashSalt password) = true ↔
      candidate = password
  derive_injective : ∀ kdfSalt, Function.Injective fun password =>
    R.deriveEncryptionKey password kdfSalt

/-- AES-GCM decryption succeeds exactly under the encrypting key. -/
structure AesGcmLaws (R : Runtime) : Prop where
  decrypt_encrypt : ∀ plaintext key iv,
    R.decrypt (R.encrypt plaintext key iv) key = some plaintext
  decrypt_other : ∀ plaintext key iv other, other ≠ key →
    R.decrypt (R.encrypt plaintext key iv) other = none

/-- A nested `{ connect: { id } }` of `user` that succeeds writes that owner with the other
columns. -/
def ConnectsUser (R : Runtime) : Prop :=
  ∀ owner columns id db row db',
    R.updateWithUser (.obj [("connect", .obj [("id", .str owner)])]) columns id db =
        .ok (row, db') →
      Prisma.account.replace id (fun row => { columns row with userId := owner }) db =
        (.ok row, db')

/-- `JSON.parse` undoes `JSON.stringify`. -/
def JsonRoundTrip (R : Runtime) : Prop :=
  ∀ value, R.jsonParse (R.jsonStringify value) = some value

end Runtime

/-- `string.length`: the number of UTF-16 code units. -/
def utf16Length (text : String) : Nat :=
  (text.toList.map fun c => if c.val ≤ 0xFFFF then 1 else 2).sum

end MyAccountController
