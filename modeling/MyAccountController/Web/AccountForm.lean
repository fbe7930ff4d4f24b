import MyAccountController.Accounts.AccountsService
import MyAccountController.Common.SymbolicRuntime

/-! # The edit form of an account

The page sends every field of the form but an empty memo and an empty password,
which JSON drops, and the server leaves a column alone that it is not sent. That is
meant for the password; an emptied memo stays as it was.
-/

namespace MyAccountController

open Foundation

/-- The fields of the form, and `newPassword`. -/
structure AccountForm where
  serviceName : String
  urlOrAppName : String
  category : String
  loginId : String
  memo : String
  newPassword : String

namespace AccountForm

/-- `memo: form.get("memo") || undefined`, which JSON drops. -/
def fields (form : AccountForm) : JsObject :=
  [("serviceName", .str form.serviceName), ("urlOrAppName", .str form.urlOrAppName),
    ("category", .str form.category), ("loginId", .str form.loginId)] ++
    if form.memo = "" then [] else [("memo", .str form.memo)]

/-- The body that `handleSave` sends: `...(password ? { password } : {})` comes last. -/
def body (form : AccountForm) : JsObject :=
  form.fields.spread (if form.newPassword = "" then [] else [("password", .str form.newPassword)])

variable {R : Runtime}

/-- A memo as the form shows it: an empty field stands for no memo. -/
def ShowsMemo (field : String) (memo : Option String) : Prop :=
  if field = "" then memo = none ∨ memo = some "" else memo = some field

/-- The account reads back as the form has it, and every other one as before. -/
structure Saved (form : AccountForm) (userId id : String) (key : R.Key) (previous : String)
    (db db' : Database) : Prop where
  reads : ∃ account password, (AccountsService.findOne userId id key db').1 =
      .ok (account, password) ∧
    account.serviceName = form.serviceName ∧ account.urlOrAppName = form.urlOrAppName ∧
    account.category = form.category ∧ account.loginId = form.loginId ∧
    ShowsMemo form.memo account.memo ∧
    password = if form.newPassword = "" then previous else form.newPassword
  others : ∀ other, other ≠ id → db'.accounts.find? other = db.accounts.find? other

/-- The columns that the server writes for the form. -/
def changes (form : AccountForm) (key : R.Key) (iv : R.Iv) : AccountInput.Changes where
  id := none
  userId := none
  serviceName := some form.serviceName
  urlOrAppName := some form.urlOrAppName
  category := some form.category
  loginId := some form.loginId
  encryptedPassword :=
    if form.newPassword = "" then none else some (R.encrypt form.newPassword key iv)
  customFields := none
  memo := if form.memo = "" then none else some (some form.memo)
  createdAt := none
  updatedAt := none
  user := none

/-- The data object of the update: the fields, with the ciphertext of a new password. -/
def columns (form : AccountForm) (key : R.Key) (iv : R.Iv) : JsObject :=
  if form.newPassword = "" then form.fields
  else form.fields.spread [("encryptedPassword", .str (R.encrypt form.newPassword key iv))]

theorem without_body (form : AccountForm) : form.body.without "password" = form.fields := by
  unfold body fields
  by_cases hmemo : form.memo = ""
  · by_cases hpassword : form.newPassword = "" <;>
      simp [hmemo, hpassword, JsObject.spread, JsObject.without]
  · by_cases hpassword : form.newPassword = "" <;>
      simp [hmemo, hpassword, JsObject.spread, JsObject.without]

theorem get_password (form : AccountForm) : form.body.get "password" =
    if form.newPassword = "" then none else some (.str form.newPassword) := by
  unfold body fields
  by_cases hmemo : form.memo = ""
  · by_cases hpassword : form.newPassword = "" <;>
      simp [hmemo, hpassword, JsObject.spread, JsObject.get, List.lookup_cons]
  · by_cases hpassword : form.newPassword = "" <;>
      simp [hmemo, hpassword, JsObject.spread, JsObject.get, List.lookup_cons]

theorem updateData_body (form : AccountForm) (key : R.Key) (iv : R.Iv) :
    AccountsService.updateData form.body key iv = .ok (form.columns key iv) := by
  rw [AccountsService.updateData, without_body, get_password, columns]
  by_cases hpassword : form.newPassword = ""
  · rw [if_pos hpassword, if_pos hpassword]
    rfl
  · rw [if_neg hpassword, if_neg hpassword]
    have htruthy : (some (Json.str form.newPassword)).any Json.truthy = true :=
      decide_eq_true hpassword
    rw [if_pos htruthy]
    rfl

theorem changes_columns (form : AccountForm) (key : R.Key) (iv : R.Iv) :
    AccountInput.changes R (form.columns key iv) = .ok (form.changes key iv) := by
  unfold columns changes fields
  by_cases hmemo : form.memo = ""
  · by_cases hpassword : form.newPassword = ""
    · simp only [hmemo, hpassword, if_pos]
      rfl
    · simp only [hmemo, if_neg hpassword, if_pos]
      rfl
  · by_cases hpassword : form.newPassword = ""
    · simp only [if_neg hmemo, hpassword, if_pos]
      rfl
    · simp only [if_neg hmemo, if_neg hpassword]
      rfl

/-! ## A saved form -/

/-- The row that a saved form leaves, where the old one was. -/
theorem update_body {form : AccountForm} {userId id : String} {key : R.Key} {now : Int} {iv : R.Iv}
    {db db' : Database} {row : Account}
    (hrun : AccountsService.update userId id key now iv form.body db = (.ok row, db')) :
    ∃ before table, db.accounts.find? id = some before ∧ before.userId = userId ∧
      db.accounts.replace? id ((form.changes key iv).apply now) = some table ∧
      db' = { db with accounts := table } := by
  obtain ⟨before, columns, changes, ⟨hfind, huser⟩, hcolumns, hchanges, hreplace⟩ :=
    AccountsService.update_ok_iff.mp hrun
  rw [updateData_body] at hcolumns
  obtain rfl := Except.ok.inj hcolumns
  rw [changes_columns] at hchanges
  obtain rfl := Except.ok.inj hchanges
  rw [AccountInput.Changes.update_of_none rfl] at hreplace
  obtain ⟨_, table, -, -, -, htable, rfl⟩ := (Model.replace_ok_iff _).mp hreplace
  exact ⟨before, table, hfind, huser, htable, rfl⟩

theorem findOne_ok_iff {userId id password : String} {key : R.Key} {db : Database}
    {account : Account} :
    (AccountsService.findOne userId id key db).1 = .ok (account, password) ↔
      (db.accounts.find? id = some account ∧ account.userId = userId) ∧
        R.decrypt account.encryptedPassword key = some password := by
  rw [AccountsService.findOne]
  rcases hfind : AccountsService.findOwned userId id db with ⟨e | found, after⟩
  · rw [Handler.bind_of_error hfind]
    constructor
    · intro hok
      contradiction
    · rintro ⟨howned, -⟩
      rw [AccountsService.findOwned_ok_iff.mpr ⟨howned, rfl⟩] at hfind
      exact absurd (congrArg Prod.fst hfind) (by simp)
  · rw [Handler.bind_of_ok hfind]
    obtain ⟨howned, rfl⟩ := AccountsService.findOwned_ok_iff.mp hfind
    unfold AccountsService.decryptPassword
    cases hdecrypt : R.decrypt found.encryptedPassword key with
    | none =>
        constructor
        · intro hok
          contradiction
        · rintro ⟨⟨hfound, -⟩, hpassword⟩
          obtain rfl := Option.some.inj (howned.1.symm.trans hfound)
          rw [hdecrypt] at hpassword
          contradiction
    | some plaintext =>
        constructor
        · intro hok
          obtain ⟨rfl, rfl⟩ := Prod.mk.inj (Except.ok.inj hok)
          exact ⟨howned, hdecrypt⟩
        · rintro ⟨⟨hfound, -⟩, hpassword⟩
          obtain rfl := Option.some.inj (howned.1.symm.trans hfound)
          obtain rfl := Option.some.inj (hdecrypt.symm.trans hpassword)
          rfl

/-- What is read back after the update. -/
theorem findOne_update {form : AccountForm} {userId id : String} {key : R.Key} {now : Int}
    {iv : R.Iv} {db db' : Database} {row before : Account} {previous : String}
    (hR : R.AesGcmLaws)
    (hloaded : (AccountsService.findOne userId id key db).1 = .ok (before, previous))
    (hrun : AccountsService.update userId id key now iv form.body db = (.ok row, db')) :
    (AccountsService.findOne userId id key db').1 = .ok ((form.changes key iv).apply now before,
      if form.newPassword = "" then previous else form.newPassword) := by
  obtain ⟨⟨hfind, huser⟩, hdecrypt⟩ := findOne_ok_iff.mp hloaded
  obtain ⟨before', table, hfind', -, hreplace, rfl⟩ := update_body hrun
  obtain rfl := Option.some.inj (hfind.symm.trans hfind')
  have hid := (Table.find?_eq_some_iff.mp hfind).2
  refine findOne_ok_iff.mpr ⟨⟨Table.find?_replace hreplace hfind hid, huser⟩, ?_⟩
  show R.decrypt ((form.changes key iv).encryptedPassword.getD before.encryptedPassword) key = _
  unfold changes
  by_cases hpassword : form.newPassword = ""
  · rw [if_pos hpassword, if_pos hpassword]
    exact hdecrypt
  · rw [if_neg hpassword, if_neg hpassword]
    exact hR.decrypt_encrypt form.newPassword key iv

/-- The memo that an update leaves shows as the field does unless an old one was to be removed. -/
theorem showsMemo_iff {form : AccountForm} {key : R.Key} {now : Int} {iv : R.Iv}
    {before : Account} :
    ShowsMemo form.memo ((form.changes key iv).apply now before).memo ↔
      form.memo ≠ "" ∨ before.memo = none ∨ before.memo = some "" := by
  show ShowsMemo form.memo ((form.changes key iv).memo.getD before.memo) ↔ _
  unfold ShowsMemo changes
  by_cases hmemo : form.memo = ""
  · -- The body leaves the memo out, so the old one stays.
    rw [if_pos hmemo, if_pos hmemo]
    exact ⟨Or.inr, fun hcases => hcases.resolve_left fun hne => hne hmemo⟩
  · rw [if_neg hmemo, if_neg hmemo]
    exact ⟨fun _ => .inl hmemo, fun _ => rfl⟩

/-- A saved form reads back as it was exactly when its memo is not empty or there was no memo. -/
theorem saved_iff {form : AccountForm} {userId id : String} {key : R.Key} {now : Int} {iv : R.Iv}
    {db db' : Database} {row before : Account} {previous : String} (hR : R.AesGcmLaws)
    (hloaded : (AccountsService.findOne userId id key db).1 = .ok (before, previous))
    (hrun : AccountsService.update userId id key now iv form.body db = (.ok row, db')) :
    Saved form userId id key previous db db' ↔
      form.memo ≠ "" ∨ before.memo = none ∨ before.memo = some "" := by
  have hread := findOne_update hR hloaded hrun
  obtain ⟨before', table, -, -, hreplace, rfl⟩ := update_body hrun
  rw [← @showsMemo_iff R form key now iv before]
  constructor
  · intro hsaved
    obtain ⟨account, password, hread', -, -, -, -, hshows, -⟩ := hsaved.reads
    obtain ⟨rfl, -⟩ := Prod.mk.inj (Except.ok.inj (hread.symm.trans hread'))
    exact hshows
  · intro hshows
    refine ⟨⟨_, _, hread, rfl, rfl, rfl, rfl, hshows, rfl⟩, fun other hne => ?_⟩
    exact Table.find?_replace_of_ne hreplace (fun _ hkey => hkey) hne

/-! ## An emptied memo -/

namespace NoteRemoved

def user : User := ⟨"u", "g", "me@example.com", "hash", "salt", 15, 0⟩

def account : Account where
  id := "a"
  userId := "u"
  serviceName := "Shop"
  urlOrAppName := "shop.example"
  category := "shopping"
  loginId := "me"
  encryptedPassword := symbolicRuntime.encrypt "old" ("password", "salt") "iv"
  customFields := none
  memo := some "note"
  createdAt := 0
  updatedAt := 0

def db : Database :=
  { Database.empty with
    users := ⟨[user], by decide⟩
    accounts := ⟨[account], by decide⟩ }

/-- The form with this memo, otherwise as the account is. -/
def form (memo : String) : AccountForm := ⟨"Shop", "shop.example", "shopping", "me", memo, ""⟩

/-- The form is saved. -/
def save (memo : String) : Except Exception Account × Database :=
  @AccountsService.update symbolicRuntime "u" "a" ("password", "salt") 1 "iv2" (form memo).body db

theorem loaded : (@AccountsService.findOne symbolicRuntime "u" "a" ("password", "salt") db).1 =
    .ok (account, "old") :=
  findOne_ok_iff.mpr ⟨⟨rfl, rfl⟩, symbolicRuntime.aesGcmLaws.decrypt_encrypt _ _ _⟩

theorem save_ok (memo : String) (hmemo : memo = "" ∨ memo = "other") :
    ∃ row, save memo = (.ok row, (save memo).2) := by
  obtain rfl | rfl := hmemo <;> exact ⟨_, rfl⟩

end NoteRemoved

open NoteRemoved in
/-- The old memo is still there. -/
theorem not_saved_emptied : (save "").1.toOption.isSome = true ∧
    ¬ @Saved symbolicRuntime (form "") "u" "a" ("password", "salt") "old" db (save "").2 := by
  refine ⟨rfl, fun hsaved => ?_⟩
  obtain ⟨row, hrun⟩ := save_ok "" (.inl rfl)
  obtain ⟨read, password, hread, -, -, -, -, hshows, -⟩ := hsaved.reads
  rw [findOne_update symbolicRuntime.aesGcmLaws loaded hrun] at hread
  obtain ⟨rfl, -⟩ := Prod.mk.inj (Except.ok.inj hread)
  exact absurd (showsMemo_iff.mp hshows) (by decide)

open NoteRemoved in
theorem saved_iff_example : @Saved symbolicRuntime (form "other") "u" "a" ("password", "salt") "old"
    db (save "other").2 := by
  obtain ⟨row, hrun⟩ := save_ok "other" (.inr rfl)
  exact (saved_iff symbolicRuntime.aesGcmLaws loaded hrun).mpr (.inl (by decide))

end AccountForm

end MyAccountController
