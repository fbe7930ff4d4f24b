import MyAccountController.Common.Json
import MyAccountController.Foundation.Table

/-! # The database schema

The models of `prisma/schema.prisma` that the services read or write. Times are
milliseconds, and a nullable column is an option. The unique indexes of the
schema are the clashes of each table.
-/

namespace MyAccountController

open Foundation

inductive LogicalOperator where
  | AND
  | OR
  deriving DecidableEq, Repr

inductive CandidateStatus where
  | PENDING
  | APPROVED
  | EXCLUDED
  | PROCESSED
  deriving DecidableEq, Repr

@[ext] structure User where
  id : String
  googleSubId : String
  googleEmail : String
  masterPasswordHash : String
  masterKdfSalt : String
  autoLockMinutes : Int
  createdAt : Int
  deriving DecidableEq, Repr

@[ext] structure TrustedDevice where
  id : String
  userId : String
  deviceLabel : String
  webauthnCredentialId : String
  webauthnPublicKey : String
  counter : Int
  createdAt : Int
  lastUsedAt : Option Int
  deriving DecidableEq, Repr

/-- `customFields` is a nullable JSON column; `none` is SQL `NULL`. -/
@[ext] structure Account where
  id : String
  userId : String
  serviceName : String
  urlOrAppName : String
  category : String
  loginId : String
  encryptedPassword : String
  customFields : Option Json
  memo : Option String
  createdAt : Int
  updatedAt : Int

@[ext] structure EmailAccount where
  id : String
  userId : String
  providerType : String
  displayName : String
  encryptedAccessToken : String
  encryptedRefreshToken : String
  tokenExpiresAt : Option Int
  isActive : Bool
  connectedAt : Int
  deriving DecidableEq, Repr

@[ext] structure EmailRule where
  id : String
  emailAccountId : String
  logicalOperator : LogicalOperator
  actionType : String
  isActive : Bool
  createdAt : Int
  deriving DecidableEq, Repr

@[ext] structure EmailRuleCondition where
  id : String
  ruleId : String
  conditionType : String
  conditionValue : Json

@[ext] structure EmailCandidate where
  id : String
  ruleId : String
  emailAccountId : String
  externalMessageId : String
  sender : String
  subject : String
  receivedAt : Int
  status : CandidateStatus
  processedAt : Option Int
  deriving DecidableEq, Repr

/-! ## Unique indexes -/

/-- Rows that agree on the primary key or on one further unique index. -/
def SharesIndex {Row Index : Type} (id : Row → String) (index : Row → Index) (a b : Row) : Prop :=
  id a = id b ∨ index a = index b

instance {Row Index : Type} [DecidableEq Index] (id : Row → String) (index : Row → Index) :
    DecidableRel (SharesIndex id index) :=
  fun a b => inferInstanceAs (Decidable (id a = id b ∨ index a = index b))

/-- An entity with a string primary key and one further unique index. -/
abbrev indexedEntity {Row Index : Type} [DecidableEq Index] (id : Row → String)
    (index : Row → Index) : Entity Row String where
  key := id
  Clash := SharesIndex id index
  clash_of_key_eq := Or.inl
  clash_symm := Or.imp Eq.symm Eq.symm
  decidableClash := inferInstance

instance : Entity User String := indexedEntity User.id User.googleSubId

instance : Entity TrustedDevice String :=
  indexedEntity TrustedDevice.id TrustedDevice.webauthnCredentialId

instance : Entity Account String :=
  indexedEntity Account.id fun account =>
    (account.userId, account.urlOrAppName, account.loginId)

instance : Entity EmailAccount String := indexedEntity EmailAccount.id EmailAccount.id

instance : Entity EmailRule String := indexedEntity EmailRule.id EmailRule.id

instance : Entity EmailRuleCondition String :=
  indexedEntity EmailRuleCondition.id EmailRuleCondition.id

instance : Entity EmailCandidate String :=
  indexedEntity EmailCandidate.id fun candidate =>
    (candidate.ruleId, candidate.externalMessageId)

/-- The rows of the application in PostgreSQL. -/
@[ext] structure Database where
  users : Table User
  trustedDevices : Table TrustedDevice
  accounts : Table Account
  emailAccounts : Table EmailAccount
  emailRules : Table EmailRule
  emailRuleConditions : Table EmailRuleCondition
  emailCandidates : Table EmailCandidate

namespace Database

/-- The database after the migrations have run. -/
def empty : Database :=
  ⟨.empty, .empty, .empty, .empty, .empty, .empty, .empty⟩

end Database

end MyAccountController
