import MyAccountController.Common.Runtime
import MyAccountController.Prisma.Client

/-! # The data object of an account write

Prisma checks the data object of a write against the fields of the model. The
owner is given by the column `userId`, or in an update by a nested write of the
relation `user`; the two exclude each other, and a creation always has the column.
A name that is not a field, a missing required column or a value of another type
is a validation error. In an update a value may also be given as `{ set: value }`.
-/

namespace MyAccountController

namespace AccountInput

variable (R : Runtime)

/-- The scalar columns of `Account`. -/
def columns : List String :=
  ["id", "userId", "serviceName", "urlOrAppName", "category", "loginId", "encryptedPassword",
    "customFields", "memo", "createdAt", "updatedAt"]

def knownColumns (data : JsObject) : Except Exception Unit :=
  if ∀ name ∈ data.names, name ∈ columns then .ok () else .error .prismaValidation

/-! ## Columns of a creation -/

def requiredText (data : JsObject) (name : String) : Except Exception String :=
  match data.get name with
  | some (.str value) => .ok value
  | _ => .error .prismaValidation

def textOr (default : String) (data : JsObject) (name : String) : Except Exception String :=
  match data.get name with
  | none => .ok default
  | some (.str value) => .ok value
  | some _ => .error .prismaValidation

def nullableText (data : JsObject) (name : String) : Except Exception (Option String) :=
  match data.get name with
  | none | some .null => .ok none
  | some (.str value) => .ok (some value)
  | some _ => .error .prismaValidation

def nullableJson (data : JsObject) (name : String) : Except Exception (Option Json) :=
  match data.get name with
  | none => .ok none
  | some .null => if R.takesBareNull then .ok (some .null) else .error .prismaValidation
  | some value => .ok (some value)

def dateOr (default : Int) (data : JsObject) (name : String) :
    Except Exception Int :=
  match data.get name with
  | none => .ok default
  | some (.str text) =>
      match R.isoDate text with
      | some date => .ok date
      | none => .error .prismaValidation
  | some _ => .error .prismaValidation

/-- The row that `create` is asked for. The defaults of the schema are a fresh
id and the present time. -/
def account (now : Int) (freshId : String) (data : JsObject) :
    Except Exception Account := do
  knownColumns data
  let id ← textOr freshId data "id"
  let userId ← requiredText data "userId"
  let serviceName ← requiredText data "serviceName"
  let urlOrAppName ← requiredText data "urlOrAppName"
  let category ← requiredText data "category"
  let loginId ← requiredText data "loginId"
  let encryptedPassword ← requiredText data "encryptedPassword"
  let customFields ← nullableJson R data "customFields"
  let memo ← nullableText data "memo"
  let createdAt ← dateOr R now data "createdAt"
  let updatedAt ← dateOr R now data "updatedAt"
  pure { id, userId, serviceName, urlOrAppName, category, loginId, encryptedPassword,
         customFields, memo, createdAt, updatedAt }

/-! ## Columns of an update -/

/-- The scalar columns, or the relation `user` in place of the owner's column. -/
def knownFields (data : JsObject) : Except Exception Unit :=
  if ∀ name ∈ data.names, name ∈ columns ∨ name = "user" ∧ "userId" ∉ data.names then .ok ()
  else .error .prismaValidation

/-- `value` or `{ set: value }`. -/
def setOperand : Json → Json
  | .obj [("set", value)] => value
  | value => value

/-- The new value of a required text column, if it is named. -/
def textUpdate (data : JsObject) (name : String) : Except Exception (Option String) :=
  match (data.get name).map setOperand with
  | none => .ok none
  | some (.str value) => .ok (some value)
  | some _ => .error .prismaValidation

def nullableTextUpdate (data : JsObject) (name : String) :
    Except Exception (Option (Option String)) :=
  match (data.get name).map setOperand with
  | none => .ok none
  | some .null => .ok (some none)
  | some (.str value) => .ok (some (some value))
  | some _ => .error .prismaValidation

def dateUpdate (data : JsObject) (name : String) :
    Except Exception (Option Int) :=
  match (data.get name).map setOperand with
  | none => .ok none
  | some (.str text) =>
      match R.isoDate text with
      | some date => .ok (some date)
      | none => .error .prismaValidation
  | some _ => .error .prismaValidation

/-- The columns an update names, with their new values, and the nested write of the owner. -/
structure Changes where
  id : Option String
  userId : Option String
  serviceName : Option String
  urlOrAppName : Option String
  category : Option String
  loginId : Option String
  encryptedPassword : Option String
  customFields : Option Json
  memo : Option (Option String)
  createdAt : Option Int
  updatedAt : Option Int
  user : Option Json

def changes (data : JsObject) : Except Exception Changes := do
  knownFields data
  let id ← textUpdate data "id"
  let userId ← textUpdate data "userId"
  let serviceName ← textUpdate data "serviceName"
  let urlOrAppName ← textUpdate data "urlOrAppName"
  let category ← textUpdate data "category"
  let loginId ← textUpdate data "loginId"
  let encryptedPassword ← textUpdate data "encryptedPassword"
  let customFields ← nullableJson R data "customFields"
  let memo ← nullableTextUpdate data "memo"
  let createdAt ← dateUpdate R data "createdAt"
  let updatedAt ← dateUpdate R data "updatedAt"
  pure { id, userId, serviceName, urlOrAppName, category, loginId, encryptedPassword,
         customFields, memo, createdAt, updatedAt, user := data.get "user" }

/-- Write the named columns. `@updatedAt` sets the present time by default. -/
def Changes.apply (changes : Changes) (now : Int) (row : Account) : Account where
  id := changes.id.getD row.id
  userId := changes.userId.getD row.userId
  serviceName := changes.serviceName.getD row.serviceName
  urlOrAppName := changes.urlOrAppName.getD row.urlOrAppName
  category := changes.category.getD row.category
  loginId := changes.loginId.getD row.loginId
  encryptedPassword := changes.encryptedPassword.getD row.encryptedPassword
  customFields := changes.customFields.or row.customFields
  memo := changes.memo.getD row.memo
  createdAt := changes.createdAt.getD row.createdAt
  updatedAt := changes.updatedAt.getD now

/-- `prisma.account.update({ where: { id }, data })` of the accepted data object. -/
def Changes.update (changes : Changes) (now : Int) (id : String) : Query Account :=
  match changes.user with
  | none => Prisma.account.replace id (changes.apply now)
  | some write => fun db =>
      match R.updateWithUser write (changes.apply now) id db with
      | .ok (row, db') => (.ok row, db')
      | .error e => (.error e, db)

variable {R}

/-- Without a nested write only the row of the account is written. -/
theorem Changes.update_of_none {changes : Changes} (huser : changes.user = none) (now : Int)
    (id : String) : changes.update R now id = Prisma.account.replace id (changes.apply now) := by
  rw [Changes.update, huser]

/-- A refused update changes nothing. -/
theorem Changes.update_error {changes : Changes} {now : Int} {id : String} {e : Exception}
    {db db' : Database} (hrun : changes.update R now id db = (.error e, db')) : db' = db := by
  cases huser : changes.user with
  | none =>
      rw [update_of_none huser] at hrun
      exact Model.replace_error _ hrun
  | some write =>
      simp only [update, huser] at hrun
      split at hrun
      · exact absurd (congrArg Prod.fst hrun) (by simp)
      · exact (Prod.mk.inj hrun).2.symm

/-! ## What an accepted object says -/

theorem bind_ok_iff {α β : Type} {x : Except Exception α} {f : α → Except Exception β} {b : β} :
    (x >>= f) = .ok b ↔ ∃ a, x = .ok a ∧ f a = .ok b := by
  cases x with
  | error e => exact ⟨fun h => by contradiction, fun ⟨_, h, _⟩ => by contradiction⟩
  | ok a => exact ⟨fun h => ⟨a, rfl, h⟩, fun ⟨_, h, hf⟩ => Except.ok.inj h ▸ hf⟩

theorem requiredText_ok_iff {data : JsObject} {name value : String} :
    requiredText data name = .ok value ↔ data.get name = some (.str value) := by
  unfold requiredText
  split
  next value' heq => simp [heq]
  next hne => exact ⟨fun h => by contradiction, fun h => (hne value h).elim⟩

theorem knownColumns_ok_iff {data : JsObject} {u : Unit} :
    knownColumns data = .ok u ↔ ∀ name ∈ data.names, name ∈ columns := by
  unfold knownColumns
  split_ifs with h
  · exact ⟨fun _ => h, fun _ => rfl⟩
  · exact ⟨fun hok => by contradiction, fun h' => absurd h' h⟩

theorem knownFields_ok_iff {data : JsObject} {u : Unit} :
    knownFields data = .ok u ↔
      ∀ name ∈ data.names, name ∈ columns ∨ name = "user" ∧ "userId" ∉ data.names := by
  unfold knownFields
  split_ifs with h
  · exact ⟨fun _ => h, fun _ => rfl⟩
  · exact ⟨fun hok => by contradiction, fun h' => absurd h' h⟩

/-- The columns of an accepted row are those of the object, or their defaults. -/
theorem account_ok_iff {now : Int} {freshId : String} {data : JsObject}
    {row : Account} : account R now freshId data = .ok row ↔
      (∀ name ∈ data.names, name ∈ columns) ∧
      textOr freshId data "id" = .ok row.id ∧
      data.get "userId" = some (.str row.userId) ∧
      data.get "serviceName" = some (.str row.serviceName) ∧
      data.get "urlOrAppName" = some (.str row.urlOrAppName) ∧
      data.get "category" = some (.str row.category) ∧
      data.get "loginId" = some (.str row.loginId) ∧
      data.get "encryptedPassword" = some (.str row.encryptedPassword) ∧
      nullableJson R data "customFields" = .ok row.customFields ∧
      nullableText data "memo" = .ok row.memo ∧
      dateOr R now data "createdAt" = .ok row.createdAt ∧
      dateOr R now data "updatedAt" = .ok row.updatedAt := by
  simp only [account, bind_ok_iff, knownColumns_ok_iff, requiredText_ok_iff, pure, Except.pure,
    Except.ok.injEq, exists_const]
  constructor
  · rintro ⟨hnames, id, hid, userId, huserId, serviceName, hserviceName, urlOrAppName,
      hurlOrAppName, category, hcategory, loginId, hloginId, encryptedPassword,
      hencryptedPassword, customFields, hcustomFields, memo, hmemo, createdAt, hcreatedAt,
      updatedAt, hupdatedAt, rfl⟩
    exact ⟨hnames, hid, huserId, hserviceName, hurlOrAppName, hcategory, hloginId,
      hencryptedPassword, hcustomFields, hmemo, hcreatedAt, hupdatedAt⟩
  · rintro ⟨hnames, hid, huserId, hserviceName, hurlOrAppName, hcategory, hloginId,
      hencryptedPassword, hcustomFields, hmemo, hcreatedAt, hupdatedAt⟩
    exact ⟨hnames, _, hid, _, huserId, _, hserviceName, _, hurlOrAppName, _, hcategory, _,
      hloginId, _, hencryptedPassword, _, hcustomFields, _, hmemo, _, hcreatedAt, _, hupdatedAt,
      rfl⟩

/-- The changes of an accepted object are those it names. -/
theorem changes_ok_iff {data : JsObject} {named : Changes} :
    changes R data = .ok named ↔
      (∀ name ∈ data.names, name ∈ columns ∨ name = "user" ∧ "userId" ∉ data.names) ∧
      textUpdate data "id" = .ok named.id ∧
      textUpdate data "userId" = .ok named.userId ∧
      textUpdate data "serviceName" = .ok named.serviceName ∧
      textUpdate data "urlOrAppName" = .ok named.urlOrAppName ∧
      textUpdate data "category" = .ok named.category ∧
      textUpdate data "loginId" = .ok named.loginId ∧
      textUpdate data "encryptedPassword" = .ok named.encryptedPassword ∧
      nullableJson R data "customFields" = .ok named.customFields ∧
      nullableTextUpdate data "memo" = .ok named.memo ∧
      dateUpdate R data "createdAt" = .ok named.createdAt ∧
      dateUpdate R data "updatedAt" = .ok named.updatedAt ∧ data.get "user" = named.user := by
  simp only [changes, bind_ok_iff, knownFields_ok_iff, pure, Except.pure, Except.ok.injEq,
    exists_const]
  constructor
  · rintro ⟨hnames, id, hid, userId, huserId, serviceName, hserviceName, urlOrAppName,
      hurlOrAppName, category, hcategory, loginId, hloginId, encryptedPassword,
      hencryptedPassword, customFields, hcustomFields, memo, hmemo, createdAt, hcreatedAt,
      updatedAt, hupdatedAt, rfl⟩
    exact ⟨hnames, hid, huserId, hserviceName, hurlOrAppName, hcategory, hloginId,
      hencryptedPassword, hcustomFields, hmemo, hcreatedAt, hupdatedAt, rfl⟩
  · rintro ⟨hnames, hid, huserId, hserviceName, hurlOrAppName, hcategory, hloginId,
      hencryptedPassword, hcustomFields, hmemo, hcreatedAt, hupdatedAt, huser⟩
    refine ⟨hnames, _, hid, _, huserId, _, hserviceName, _, hurlOrAppName, _, hcategory, _,
      hloginId, _, hencryptedPassword, _, hcustomFields, _, hmemo, _, hcreatedAt, _, hupdatedAt, ?_⟩
    rw [huser]

/-- A computation whose only exception is the validation error. -/
def Validates {α : Type} (x : Except Exception α) : Prop :=
  ∀ e, x = .error e → e = .prismaValidation

theorem Validates.bind {α β : Type} {x : Except Exception α} {f : α → Except Exception β}
    (hx : Validates x) (hf : ∀ a, Validates (f a)) : Validates (x >>= f) := by
  intro e herror
  cases x with
  | error e' => exact hx e (congrArg Except.error (Except.error.inj herror))
  | ok a => exact hf a e herror

/-- A refused data object is a validation error. -/
theorem account_validates {now : Int} {freshId : String} {data : JsObject} :
    Validates (account R now freshId data) := by
  have htextOr : ∀ default name, Validates (textOr default data name) := by
    intro default name e herror
    unfold textOr at herror
    split at herror <;> simp_all
  have hrequired : ∀ name, Validates (requiredText data name) := by
    intro name e herror
    unfold requiredText at herror
    split at herror <;> simp_all
  have hdate : ∀ name, Validates (dateOr R now data name) := by
    intro name e herror
    unfold dateOr at herror
    split at herror
    · contradiction
    · split at herror <;> simp_all
    · simp_all
  have hknown : Validates (knownColumns data) := by
    intro e herror
    unfold knownColumns at herror
    split at herror <;> simp_all
  have hjson : Validates (nullableJson R data "customFields") := by
    intro e herror
    unfold nullableJson at herror
    split at herror
    · contradiction
    · split_ifs at herror
      exact (Except.error.inj herror).symm
    · contradiction
  have hmemo : Validates (nullableText data "memo") := by
    intro e herror
    unfold nullableText at herror
    split at herror <;> simp_all
  refine hknown.bind fun _ => (htextOr _ _).bind fun _ => (hrequired _).bind fun _ => ?_
  refine (hrequired _).bind fun _ => (hrequired _).bind fun _ => (hrequired _).bind fun _ => ?_
  refine (hrequired _).bind fun _ => (hrequired _).bind fun _ => hjson.bind fun _ => ?_
  refine hmemo.bind fun _ => (hdate _).bind fun _ => (hdate _).bind fun _ => ?_
  intro e herror
  contradiction

/-- A column that is not named is not changed. -/
theorem textUpdate_of_absent {data : JsObject} {name : String} (h : data.get name = none) :
    textUpdate data name = .ok none := by
  unfold textUpdate
  rw [h]
  rfl

end AccountInput

end MyAccountController
