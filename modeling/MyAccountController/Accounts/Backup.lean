import MyAccountController.Accounts.AccountsService
import MyAccountController.Common.SymbolicRuntime
import MyAccountController.Foundation.Traversal
import Mathlib.Data.List.Sort
import Mathlib.Data.List.Zip

/-! # Restoring a backup

An export writes every carried column, a null one as JSON `null`. An import
drops a null `memo` before the creation but hands a null `customFields` on. So a
backup can be restored exactly when Prisma takes a bare `null` for a JSON column,
or every account in it has custom fields.
-/

namespace MyAccountController

open Foundation

variable {R : Runtime}

/-- The custom fields of the account are a value other than `null`. -/
def Account.hasCustomFields (account : Account) : Bool :=
  match account.customFields with
  | none | some .null => false
  | some _ => true

/-- Prisma takes the custom fields of the account as a backup carries them. -/
def Account.restorable (R : Runtime) (account : Account) : Bool :=
  R.takesBareNull || account.hasCustomFields

/-- An account as its owner sees it: what a backup is meant to carry. -/
structure VaultEntry where
  serviceName : String
  urlOrAppName : String
  category : String
  loginId : String
  memo : Option String
  customFields : Option Json
  password : Option String

namespace AccountsService

/-- The accounts of a user. -/
def vault (db : Database) (userId : String) : List Account :=
  db.accounts.rows.filter (·.userId = userId)

/-- The vault of a user, read with a key. -/
def vaultEntry (encryptionKey : R.Key) (account : Account) : VaultEntry where
  serviceName := account.serviceName
  urlOrAppName := account.urlOrAppName
  category := account.category
  loginId := account.loginId
  memo := account.memo
  customFields := account.customFields
  password := R.decrypt account.encryptedPassword encryptionKey

/-- The entry as it is read: the custom fields are `null` for SQL `NULL` and for JSON `null`. -/
def readEntry (encryptionKey : R.Key) (account : Account) : VaultEntry :=
  { vaultEntry encryptionKey account with customFields := some (orNull account.customFields) }

/-- The ids drawn for an import repeat neither each other nor a stored id. -/
structure FreshIds (fresh : Nat → FreshAccount R) (db : Database) : Prop where
  injective : Function.Injective fun i => (fresh i).id
  unused : ∀ row ∈ db.accounts.rows, ∀ i, row.id ≠ (fresh i).id

/-! ## One entry -/

/-- The entry of an account in a backup. -/
def backupEntry (account : Account) (password : String) : JsObject :=
  [("serviceName", .str account.serviceName), ("urlOrAppName", .str account.urlOrAppName),
    ("category", .str account.category), ("loginId", .str account.loginId),
    ("customFields", orNull account.customFields), ("memo", orNull (account.memo.map .str)),
    ("password", .str password)]

/-- The row that an import makes of an entry. -/
def restored (userId : String) (encryptionKey : R.Key) (now : Int) (fresh : FreshAccount R)
    (account : Account) (password : String) : Account :=
  { account with
    id := fresh.id
    userId
    encryptedPassword := R.encrypt password encryptionKey fresh.iv
    customFields := some (orNull account.customFields)
    createdAt := now
    updatedAt := now }

theorem exportEntry_of_decrypt {encryptionKey : R.Key} {account : Account} {password : String}
    (hdecrypt : R.decrypt account.encryptedPassword encryptionKey = some password) :
    exportEntry encryptionKey account = .ok (.obj (backupEntry account password)) := by
  rw [exportEntry, decryptPassword, hdecrypt]
  rfl

/-- The data object that an import passes to `create` for an entry. -/
theorem entryData_backupEntry (account : Account) (password : String) :
    ∃ data, entryData (.obj (backupEntry account password)) = .ok data ∧
      data.get "password" = some (.str password) ∧ ∀ userId payload,
        let columns := createData userId data payload
        (∀ name ∈ columns.names, name ∈ AccountInput.columns) ∧
          columns.get "id" = none ∧ columns.get "userId" = some (.str userId) ∧
          columns.get "serviceName" = some (.str account.serviceName) ∧
          columns.get "urlOrAppName" = some (.str account.urlOrAppName) ∧
          columns.get "category" = some (.str account.category) ∧
          columns.get "loginId" = some (.str account.loginId) ∧
          columns.get "encryptedPassword" = some (.str payload) ∧
          columns.get "customFields" = some (orNull account.customFields) ∧
          columns.get "memo" = account.memo.map .str ∧
          columns.get "createdAt" = none ∧ columns.get "updatedAt" = none := by
  cases hmemo : account.memo with
  | none =>
      refine ⟨JsObject.without (backupEntry account password) "memo", ?_, ?_, ?_⟩
      · simp [entryData, backupEntry, hmemo, orNull, List.lookup_cons]
      · simp [backupEntry, JsObject.without, JsObject.get_cons]
      · intro userId payload
        simp [backupEntry, createData, JsObject.without, JsObject.spread, JsObject.names,
          JsObject.get_cons, AccountInput.columns]
  | some memo =>
      refine ⟨JsObject.spread (backupEntry account password) [("memo", .str memo)], ?_, ?_, ?_⟩
      · simp [entryData, backupEntry, hmemo, orNull, List.lookup_cons]
      · simp [backupEntry, JsObject.spread, JsObject.get_cons]
      · intro userId payload
        simp [backupEntry, createData, JsObject.without, JsObject.spread, JsObject.names,
          JsObject.get_cons, AccountInput.columns]

/-- A nullable column that `JSON.stringify` wrote is accepted when it is not null, or
Prisma takes a bare `null`. -/
theorem nullableJson_orNull {columns : JsObject} {account : Account} {value : Option Json}
    (hget : columns.get "customFields" = some (orNull account.customFields)) :
    AccountInput.nullableJson R columns "customFields" = .ok value ↔
      account.restorable R = true ∧ value = some (orNull account.customFields) := by
  rw [AccountInput.nullableJson, hget, orNull, Account.restorable, Account.hasCustomFields]
  cases account.customFields with
  | none => cases R.takesBareNull <;> simp [eq_comm]
  | some fields => cases fields <;> cases R.takesBareNull <;> simp [eq_comm]

theorem nullableText_memo {columns : JsObject} {memo value : Option String}
    (hget : columns.get "memo" = memo.map .str) :
    AccountInput.nullableText columns "memo" = .ok value ↔ value = memo := by
  rw [AccountInput.nullableText, hget]
  cases memo <;> simp [eq_comm]

/-- The creation of an entry is accepted exactly when its custom fields are. -/
theorem create_backupEntry {userId : String} {encryptionKey : R.Key} {now : Int}
    {fresh : FreshAccount R} {account row : Account} {password : String} {data : JsObject}
    (hdata : entryData (.obj (backupEntry account password)) = .ok data) :
    AccountInput.account R now fresh.id
        (createData userId data (R.encrypt password encryptionKey fresh.iv)) = .ok row ↔
      account.restorable R = true ∧
        row = restored userId encryptionKey now fresh account password := by
  obtain ⟨data', hdata', -, hcolumns⟩ := entryData_backupEntry account password
  obtain rfl := Except.ok.inj (hdata.symm.trans hdata')
  obtain ⟨hnames, hid, huserId, hserviceName, hurlOrAppName, hcategory, hloginId, hencrypted,
    hcustomFields, hmemo, hcreatedAt, hupdatedAt⟩ :=
    hcolumns userId (R.encrypt password encryptionKey fresh.iv)
  rw [AccountInput.account_ok_iff, AccountInput.textOr, hid, huserId, hserviceName,
    hurlOrAppName, hcategory, hloginId, hencrypted, nullableJson_orNull hcustomFields,
    nullableText_memo hmemo, AccountInput.dateOr, hcreatedAt, AccountInput.dateOr, hupdatedAt]
  simp only [Option.some.injEq, Json.str.injEq, Except.ok.injEq]
  constructor
  · rintro ⟨-, hid', huser', hservice', hurl', hcategory', hlogin', hencrypted',
      ⟨hfields, hfields'⟩, hmemo', hcreated', hupdated'⟩
    refine ⟨hfields, ?_⟩
    ext1
    case id => exact hid'.symm
    case userId => exact huser'.symm
    case serviceName => exact hservice'.symm
    case urlOrAppName => exact hurl'.symm
    case category => exact hcategory'.symm
    case loginId => exact hlogin'.symm
    case encryptedPassword => exact hencrypted'.symm
    case customFields => exact hfields'
    case memo => exact hmemo'
    case createdAt => exact hcreated'.symm
    case updatedAt => exact hupdated'.symm
  · rintro ⟨hfields, rfl⟩
    exact ⟨hnames, rfl, rfl, rfl, rfl, rfl, rfl, rfl, ⟨hfields, rfl⟩, rfl, rfl, rfl⟩

section Entry

variable {userId : String} {encryptionKey : R.Key} {now : Int} {fresh : Nat → FreshAccount R}
  {counts counts' : ImportResult} {account : Account} {password : String} {i : Nat}
  {db db' : Database}

/-- The custom fields of an entry that is imported or skipped are accepted. -/
theorem restorable_of_importEntry
    (hrun : importEntry userId encryptionKey now fresh counts
      (.obj (backupEntry account password), i) db = (.ok counts', db')) :
    account.restorable R = true := by
  obtain ⟨data, hdata, hpassword, -⟩ := entryData_backupEntry account password
  rw [importEntry, Handler.recover_ok_iff, hdata] at hrun
  simp only [Handler.ofExcept_ok_bind] at hrun
  rcases hrun with hok | ⟨e, middle, herror, hskip⟩
  · obtain ⟨row, _, hcreate, -⟩ := Handler.bind_ok_iff.mp hok
    obtain ⟨plaintext, hpassword', haccount, -⟩ := create_ok_iff.mp hcreate
    obtain rfl : password = plaintext := by
      rw [hpassword] at hpassword'
      exact Json.str.inj (Option.some.inj hpassword')
    exact ((create_backupEntry hdata).mp haccount).1
  · -- A skipped entry ended in a conflict, so its data object was accepted.
    obtain ⟨message, rfl⟩ : ∃ message, e = .conflict message := by
      cases e with
      | conflict message => exact ⟨message, rfl⟩
      | _ => exact absurd (congrArg Prod.fst hskip) (by simp)
    rcases Handler.bind_error_iff.mp herror with hcreate | ⟨_, _, -, hpure⟩
    · obtain ⟨plaintext, row, hpassword', haccount⟩ := create_conflict hcreate
      obtain rfl : password = plaintext := by
        rw [hpassword] at hpassword'
        exact Json.str.inj (Option.some.inj hpassword')
      exact ((create_backupEntry hdata).mp haccount).1
    · exact absurd (congrArg Prod.fst hpure) (by simp)

/-- An entry whose custom fields are accepted is imported when the table takes its row. -/
theorem importEntry_restored (hfields : account.restorable R = true)
    (hcreate : Prisma.account.create
        (restored userId encryptionKey now (fresh i) account password) db =
      (.ok (restored userId encryptionKey now (fresh i) account password), db')) :
    importEntry userId encryptionKey now fresh counts
        (.obj (backupEntry account password), i) db =
      (.ok { counts with imported := counts.imported + 1 }, db') := by
  obtain ⟨data, hdata, hpassword, -⟩ := entryData_backupEntry account password
  rw [importEntry, Handler.recover_ok_iff, hdata]
  refine .inl (Handler.bind_ok_iff.mpr ⟨data, db, rfl, Handler.bind_ok_iff.mpr ?_⟩)
  refine ⟨restored userId encryptionKey now (fresh i) account password, db', ?_, rfl⟩
  rw [create_ok_iff]
  exact ⟨password, hpassword, (create_backupEntry hdata).mpr ⟨hfields, rfl⟩, hcreate⟩

end Entry

/-! ## The loop over the entries -/

section Loop

variable {userId : String} {encryptionKey : R.Key} {now : Int} {fresh : Nat → FreshAccount R}
  {password : Account → String}

/-- The rows that the entries from position `start` on are restored to. -/
def restoredRows (userId : String) (encryptionKey : R.Key) (now : Int)
    (fresh : Nat → FreshAccount R) (password : Account → String) (accounts : List Account)
    (start : Nat) : List Account :=
  (accounts.zipIdx start).map fun (account, i) =>
    restored userId encryptionKey now (fresh i) account (password account)

/-- The same site and login, so that one user cannot own both accounts. -/
def SameLogin (a b : Account) : Prop :=
  a.urlOrAppName = b.urlOrAppName ∧ a.loginId = b.loginId

/-- An import that ends well has handled entries whose custom fields are accepted. -/
theorem restorable_of_import {accounts : List Account} {start : Nat}
    {counts counts' : ImportResult} {db db' : Database}
    (hrun : ((accounts.map fun account =>
        Json.obj (backupEntry account (password account))).zipIdx start).foldlM
      (importEntry userId encryptionKey now fresh) counts db = (.ok counts', db')) :
    ∀ account ∈ accounts, account.restorable R = true := by
  induction accounts generalizing start counts db with
  | nil => simp
  | cons account rest ih =>
      rw [List.map_cons, List.zipIdx_cons, List.foldlM_cons, Handler.bind_ok_iff] at hrun
      obtain ⟨middle, dbMiddle, hentry, hrest⟩ := hrun
      intro other hother
      rcases List.mem_cons.mp hother with rfl | hother
      · exact restorable_of_importEntry hentry
      · exact ih hrest other hother

/-- The loop restores every account when all custom fields are accepted, no two have
the same login, and the table holds neither their logins nor their new ids. -/
theorem import_restored (hinjective : Function.Injective fun i => (fresh i).id)
    {accounts : List Account} (hfields : ∀ account ∈ accounts, account.restorable R = true)
    (hdistinct : accounts.Pairwise fun a b => ¬ SameLogin a b) {start : Nat}
    {counts : ImportResult} {db : Database}
    (hunused : ∀ row ∈ db.accounts.rows, ∀ i, start ≤ i → row.id ≠ (fresh i).id)
    (hlogins : ∀ row ∈ db.accounts.rows, row.userId = userId → ∀ account ∈ accounts,
      ¬ SameLogin row account)
    (huser : (db.users.find? userId).isSome) :
    ∃ table, ((accounts.map fun account =>
        Json.obj (backupEntry account (password account))).zipIdx start).foldlM
        (importEntry userId encryptionKey now fresh) counts db =
      (.ok { counts with imported := counts.imported + accounts.length },
        Prisma.account.withTable db table) ∧
      table.rows = db.accounts.rows ++
        restoredRows userId encryptionKey now fresh password accounts start := by
  induction accounts generalizing start counts db with
  | nil => exact ⟨db.accounts, rfl, by simp [restoredRows]⟩
  | cons account rest ih =>
      obtain ⟨hhead, hrest⟩ := List.pairwise_cons.mp hdistinct
      -- The first row clashes neither on its id nor on its login.
      have hfree : ∀ other ∈ db.accounts.rows, ¬ Clash other
          (restored userId encryptionKey now (fresh start) account (password account)) := by
        rintro other hother (hid | hindex)
        · exact hunused other hother start le_rfl hid
        · simp only [restored, Prod.mk.injEq] at hindex
          obtain ⟨hother', hurl, hlogin⟩ := hindex
          exact hlogins other hother hother' account List.mem_cons_self ⟨hurl, hlogin⟩
      obtain ⟨table, hinsert⟩ := Option.ne_none_iff_exists'.mp
        (mt Table.insert?_eq_none_iff.mp (by simpa using hfree))
      have hrows := (Table.insert?_eq_some_iff.mp hinsert).2
      have hentry : importEntry userId encryptionKey now fresh counts
          (.obj (backupEntry account (password account)), start) db =
          (.ok { counts with imported := counts.imported + 1 },
            Prisma.account.withTable db table) :=
        importEntry_restored (hfields account List.mem_cons_self)
          ((Model.create_ok_iff _).mpr ⟨rfl, huser, table, hinsert, rfl⟩)
      have hunused' : ∀ row ∈ table.rows, ∀ i, start + 1 ≤ i → row.id ≠ (fresh i).id := by
        intro row hrow i hi
        rcases List.mem_append.mp (hrows ▸ hrow) with hold | hnew
        · exact hunused row hold i (Nat.le_of_succ_le hi)
        · rw [List.mem_singleton.mp hnew]
          exact fun hid => absurd (hinjective hid) (by omega)
      have hlogins' : ∀ row ∈ table.rows, row.userId = userId → ∀ other ∈ rest,
          ¬ SameLogin row other := by
        intro row hrow hrow' other hother
        rcases List.mem_append.mp (hrows ▸ hrow) with hold | hnew
        · exact hlogins row hold hrow' other (List.mem_cons_of_mem _ hother)
        · rw [List.mem_singleton.mp hnew]
          exact hhead other hother
      have hrestFields : ∀ other ∈ rest, other.restorable R = true :=
        fun other hother => hfields other (List.mem_cons_of_mem _ hother)
      obtain ⟨table', hloop, hrows'⟩ := @ih hrestFields hrest (start + 1)
        { counts with imported := counts.imported + 1 } (Prisma.account.withTable db table)
        hunused' hlogins' huser
      refine ⟨table', ?_, ?_⟩
      · rw [List.map_cons, List.zipIdx_cons, List.foldlM_cons, Handler.bind_of_ok hentry, hloop]
        simp only [List.length_cons, Nat.add_assoc, Nat.add_comm 1]
        rfl
      · calc table'.rows = table.rows ++ _ := hrows'
          _ = _ := by
            rw [hrows, List.append_assoc]
            rfl

end Loop

/-! ## Export and import -/

/-- The values drawn by an export. -/
structure FreshBackup (R : Runtime) where
  salt : String
  iv : R.Iv

/-- The export succeeds and the import of its file restores the vault of the
owner under the receiver, while every other export password is refused with
nothing written. -/
def BackupRestores (owner : String) (ownerKey : R.Key) (exportPassword : String)
    (exportedAt : Int) (drawn : FreshBackup R) (db : Database) (receiver : String)
    (receiverKey : R.Key) (importedAt : Int) (fresh : Nat → FreshAccount R)
    (target : Database) : Prop :=
  ∃ file, exportAccounts owner ownerKey (some exportPassword) exportedAt drawn.salt drawn.iv db =
      (.ok file, db) ∧
    (∃ target', importAccounts receiver receiverKey importedAt fresh (some exportPassword) file
        target = (.ok ⟨(vault db owner).length, 0⟩, target') ∧
      ((vault target' receiver).map (readEntry receiverKey)).Perm
        ((vault db owner).map (readEntry ownerKey))) ∧
    ∀ other, other ≠ exportPassword → ∃ message,
      importAccounts receiver receiverKey importedAt fresh (some other) file target =
        (.error (.badRequest message), target)

section Backup

variable {owner : String} {ownerKey : R.Key} {exportPassword : String} {exportedAt : Int}
  {drawn : FreshBackup R} {db : Database} {receiver : String} {receiverKey : R.Key}
  {importedAt : Int} {fresh : Nat → FreshAccount R} {target : Database}

/-- The accounts of a backup, oldest first. -/
def exportOrder (db : Database) (owner : String) : List Account :=
  (vault db owner).mergeSort fun a b => a.createdAt ≤ b.createdAt

theorem exportOrder_perm : (exportOrder db owner).Perm (vault db owner) :=
  List.mergeSort_perm ..

/-- The file of an export. -/
def backupFile (exportPassword : String) (exportedAt : Int) (drawn : FreshBackup R)
    (entries : List Json) : BackupFile where
  version := 1
  exportedAt := exportedAt
  salt := drawn.salt
  payload := R.encrypt (R.jsonStringify (.arr entries))
    (R.deriveEncryptionKey exportPassword drawn.salt) drawn.iv

theorem exportAccounts_run {password : Account → String}
    (hpassword : ∀ account ∈ vault db owner,
      R.decrypt account.encryptedPassword ownerKey = some (password account)) :
    exportAccounts owner ownerKey (some exportPassword) exportedAt drawn.salt drawn.iv db =
      (.ok (backupFile exportPassword exportedAt drawn
        ((exportOrder db owner).map fun account => .obj (backupEntry account (password account)))),
        db) := by
  have hplain : (exportOrder db owner).mapM (exportEntry ownerKey) =
      .ok ((exportOrder db owner).map fun account =>
        .obj (backupEntry account (password account))) := by
    rw [mapM_ok_iff, List.forall₂_map_right_iff, List.forall₂_same]
    intro account hmem
    exact exportEntry_of_decrypt (hpassword account (exportOrder_perm.mem_iff.mp hmem))
  rw [exportAccounts, Model.findMany_bind]
  show (Handler.ofExcept ((exportOrder db owner).mapM (exportEntry ownerKey)) >>= _) db = _
  rw [hplain]
  rfl

/-- The file opens with its own password. -/
theorem openBackup_backupFile (haes : R.AesGcmLaws) (hjson : R.JsonRoundTrip)
    (entries : List Json) :
    openBackup (R := R) (some exportPassword) (backupFile exportPassword exportedAt drawn entries) =
      .ok entries := by
  set file := backupFile exportPassword exportedAt drawn entries with hfile
  have hopens : R.decrypt file.payload (R.deriveEncryptionKey exportPassword file.salt) =
      some (R.jsonStringify (.arr entries)) := haes.decrypt_encrypt ..
  have hparse : R.jsonParse (R.jsonStringify (.arr entries)) = some (.arr entries) := hjson _
  have hversion : ¬ file.version ≠ 1 := fun hne => hne rfl
  simp only [openBackup, hversion, if_false, hopens, hparse, iterate]

/-- The file opens with no other password. -/
theorem openBackup_other (hargon2 : R.Argon2Laws) (haes : R.AesGcmLaws) (entries : List Json)
    {other : String} (hother : other ≠ exportPassword) :
    openBackup (R := R) (some other) (backupFile exportPassword exportedAt drawn entries) =
      .error (.badRequest "내보내기 비밀번호가 올바르지 않거나 파일이 손상되었습니다.") := by
  set file := backupFile exportPassword exportedAt drawn entries with hfile
  have hkey : R.deriveEncryptionKey other file.salt ≠
      R.deriveEncryptionKey exportPassword file.salt :=
    fun heq => hother (hargon2.derive_injective file.salt heq)
  have hcloses : R.decrypt file.payload (R.deriveEncryptionKey other file.salt) = none :=
    haes.decrypt_other _ _ _ _ hkey
  have hversion : ¬ file.version ≠ 1 := fun hne => hne rfl
  simp only [openBackup, hversion, if_false, hcloses]
  rfl

/-- The accounts of one user have different logins. -/
theorem vault_pairwise : (vault db owner).Pairwise fun a b => ¬ SameLogin a b := by
  have hdistinct := db.accounts.distinct.filter (fun row : Account => decide (row.userId = owner))
  refine hdistinct.imp_of_mem ?_
  intro a b ha hb hclash hsame
  have hauser : a.userId = owner := by simpa using (List.mem_filter.mp ha).2
  have hbuser : b.userId = owner := by simpa using (List.mem_filter.mp hb).2
  refine hclash (.inr ?_)
  show (a.userId, a.urlOrAppName, a.loginId) = (b.userId, b.urlOrAppName, b.loginId)
  rw [hauser, hbuser, hsame.1, hsame.2]

/-- The receiver reads the restored rows as the owner read the accounts. -/
theorem readEntry_restoredRows (haes : R.AesGcmLaws) {password : Account → String}
    {accounts : List Account} {start : Nat}
    (hpassword : ∀ account ∈ accounts,
      R.decrypt account.encryptedPassword ownerKey = some (password account)) :
    (restoredRows receiver receiverKey importedAt fresh password accounts start).map
      (readEntry receiverKey) = accounts.map (readEntry ownerKey) := by
  induction accounts generalizing start with
  | nil => rfl
  | cons account rest ih =>
      rw [restoredRows, List.zipIdx_cons, List.map_cons, List.map_cons, List.map_cons]
      congr 1
      · rw [readEntry, readEntry, vaultEntry, vaultEntry, hpassword account List.mem_cons_self]
        simp [restored, haes.decrypt_encrypt, orNull]
      · exact ih fun other hother => hpassword other (List.mem_cons_of_mem _ hother)

theorem restoredRows_owned {password : Account → String} {accounts : List Account} {start : Nat} :
    (restoredRows receiver receiverKey importedAt fresh password accounts start).filter
      (·.userId = receiver) =
        restoredRows receiver receiverKey importedAt fresh password accounts start := by
  rw [List.filter_eq_self]
  intro row hrow
  obtain ⟨⟨account, i⟩, -, rfl⟩ := List.mem_map.mp hrow
  exact decide_eq_true rfl

/-- A backup is restored only when the custom fields of every account are accepted. -/
theorem restorable_of_restores (haes : R.AesGcmLaws) (hjson : R.JsonRoundTrip)
    {password : Account → String}
    (hpassword : ∀ account ∈ vault db owner,
      R.decrypt account.encryptedPassword ownerKey = some (password account))
    (hrestores : BackupRestores owner ownerKey exportPassword exportedAt drawn db receiver
      receiverKey importedAt fresh target) :
    ∀ account ∈ vault db owner, account.restorable R = true := by
  obtain ⟨file, hexport, ⟨target', himport, -⟩, -⟩ := hrestores
  rw [exportAccounts_run hpassword] at hexport
  obtain rfl := Except.ok.inj (Prod.mk.inj hexport).1
  rw [importAccounts, openBackup_backupFile haes hjson, Handler.ofExcept_ok_bind] at himport
  intro account haccount
  exact restorable_of_import himport account (exportOrder_perm.mem_iff.mpr haccount)

end Backup

/-- A backup of a readable vault into an empty one is restored, and refused under
every other password, exactly when Prisma takes a bare `null` or no account lacks
custom fields. -/
theorem backupRestores_iff (hargon2 : R.Argon2Laws) (haes : R.AesGcmLaws) (hjson : R.JsonRoundTrip)
    (owner : String) (ownerKey : R.Key) (exportPassword : String) (exportedAt : Int)
    (drawn : FreshBackup R) (db : Database) (receiver : String) (receiverKey : R.Key)
    (importedAt : Int) (fresh : Nat → FreshAccount R) (target : Database)
    (hreadable : ∀ account ∈ vault db owner,
      (R.decrypt account.encryptedPassword ownerKey).isSome)
    (hreceiver : (target.users.find? receiver).isSome) (hempty : vault target receiver = [])
    (hfresh : FreshIds fresh target) :
    BackupRestores owner ownerKey exportPassword exportedAt drawn db receiver receiverKey
        importedAt fresh target ↔
      R.takesBareNull = true ∨ ∀ account ∈ vault db owner, account.hasCustomFields = true := by
  let password := fun account : Account =>
    (R.decrypt account.encryptedPassword ownerKey).getD ""
  have hpassword : ∀ account ∈ vault db owner,
      R.decrypt account.encryptedPassword ownerKey = some (password account) := by
    intro account haccount
    obtain ⟨plaintext, hplaintext⟩ := Option.isSome_iff_exists.mp (hreadable account haccount)
    simp [password, hplaintext]
  have hrestorable : (R.takesBareNull = true ∨
      ∀ account ∈ vault db owner, account.hasCustomFields = true) ↔
        ∀ account ∈ vault db owner, account.restorable R = true := by
    cases htakes : R.takesBareNull <;> simp [Account.restorable, htakes]
  rw [hrestorable]
  refine ⟨restorable_of_restores haes hjson hpassword, fun hfields => ?_⟩
  refine ⟨_, exportAccounts_run hpassword, ?_, ?_⟩
  · -- No two entries share a login and the vault is empty, so the import skips none of them.
    have hmem : ∀ account ∈ exportOrder db owner, account ∈ vault db owner :=
      fun account haccount => exportOrder_perm.mem_iff.mp haccount
    have hdistinct : (exportOrder db owner).Pairwise fun a b => ¬ SameLogin a b :=
      exportOrder_perm.symm.pairwise vault_pairwise fun hab hba => hab ⟨hba.1.symm, hba.2.symm⟩
    have hlogins : ∀ row ∈ target.accounts.rows, row.userId = receiver →
        ∀ account ∈ exportOrder db owner, ¬ SameLogin row account := by
      intro row hrow howned
      have : row ∈ vault target receiver := List.mem_filter.mpr ⟨hrow, decide_eq_true howned⟩
      rw [hempty] at this
      contradiction
    obtain ⟨table, hloop, hrows⟩ := @import_restored R receiver receiverKey importedAt fresh
      password hfresh.injective (exportOrder db owner)
      (fun account haccount => hfields account (hmem account haccount)) hdistinct 0 ⟨0, 0⟩ target
      (fun row hrow i _ => hfresh.unused row hrow i) hlogins hreceiver
    refine ⟨Prisma.account.withTable target table, ?_, ?_⟩
    · rw [importAccounts, openBackup_backupFile haes hjson, Handler.ofExcept_ok_bind, hloop]
      rw [exportOrder_perm.length_eq, Nat.zero_add]
    · have hvault : vault (Prisma.account.withTable target table) receiver =
          restoredRows receiver receiverKey importedAt fresh password (exportOrder db owner) 0 := by
        show table.rows.filter _ = _
        rw [hrows, List.filter_append, restoredRows_owned]
        show vault target receiver ++ _ = _
        rw [hempty, List.nil_append]
      rw [hvault, readEntry_restoredRows haes fun account haccount =>
        hpassword account (hmem account haccount)]
      exact exportOrder_perm.map _
  · -- Another password derives another key, and the file does not open.
    intro other hother
    have hopen := @openBackup_other R exportPassword exportedAt drawn hargon2 haes
      ((exportOrder db owner).map fun account => .obj (backupEntry account (password account)))
      other hother
    refine ⟨"내보내기 비밀번호가 올바르지 않거나 파일이 손상되었습니다.", ?_⟩
    rw [importAccounts, hopen]
    rfl

/-! ## A backup with a null column -/

namespace PlainBackup

def user (id : String) : User := ⟨id, id, id, "hash", "salt", 15, 0⟩

def users : Database := { Database.empty with users := ⟨[user "u", user "v"], by decide⟩ }

def ownerKey : symbolicRuntime.Key := ("owner-password", "salt")

def receiverKey : symbolicRuntime.Key := ("receiver-password", "salt")

/-- The fields of the account form. -/
def body : JsObject :=
  [("serviceName", .str "Mail"), ("urlOrAppName", .str "mail.example.com"),
    ("category", .str "mail"), ("loginId", .str "me"), ("password", .str "secret"),
    ("memo", .str "note")]

/-- The database after the owner has stored one account. -/
def stored (body : JsObject) : Database :=
  (create (R := symbolicRuntime) "u" ownerKey 1 ⟨"a", "iv"⟩ body users).2

def drawn : FreshBackup symbolicRuntime := ⟨"export-salt", "export-iv"⟩

def fresh (i : Nat) : FreshAccount symbolicRuntime := ⟨String.ofList (List.replicate i 'r'), "iv"⟩

theorem freshIds {db : Database} (hids : ∀ row ∈ db.accounts.rows, row.id = "a") :
    FreshIds fresh db where
  injective := by
    intro i j heq
    have hlength := congrArg (fun id => id.toList.length) heq
    simpa [fresh] using hlength
  unused := by
    intro row hrow i heq
    rw [hids row hrow] at heq
    have hmem : 'a' ∈ (fresh i).id.toList := by
      rw [← heq]
      decide
    simp [fresh] at hmem

end PlainBackup

open PlainBackup in
/-- An account of the account form has no custom fields, and is restored. -/
theorem backupRestores_iff_example :
    BackupRestores "u" ownerKey "export-password" 2 drawn (stored body) "v" receiverKey 3 fresh
      (stored body) := by
  refine (backupRestores_iff symbolicRuntime.argon2Laws symbolicRuntime.aesGcmLaws
    symbolicRuntime.jsonRoundTrip "u" ownerKey "export-password" 2 drawn (stored body) "v"
    receiverKey 3 fresh (stored body) ?_ ?_ ?_ ?_).mpr (.inl rfl)
  · decide +kernel
  · decide +kernel
  · exact List.isEmpty_iff.mp (by decide +kernel)
  · exact freshIds (by decide +kernel)

namespace RefusedNull

variable (R : Runtime)

/-- The runtime with a Prisma that refuses a bare `null`. -/
abbrev refusing : Runtime := { R with takesBareNull := false }

variable {R}

theorem argon2Laws (hargon2 : R.Argon2Laws) : (refusing R).Argon2Laws :=
  ⟨hargon2.verify_hash, hargon2.derive_injective⟩

theorem aesGcmLaws (haes : R.AesGcmLaws) : (refusing R).AesGcmLaws :=
  ⟨haes.decrypt_encrypt, haes.decrypt_other⟩

theorem jsonRoundTrip (hjson : R.JsonRoundTrip) : (refusing R).JsonRoundTrip := hjson

abbrev runtime : Runtime := refusing symbolicRuntime

def drawn : FreshBackup runtime := ⟨"export-salt", "export-iv"⟩

def fresh (i : Nat) : FreshAccount runtime := ⟨(PlainBackup.fresh i).id, "iv"⟩

theorem freshIds {db : Database} (hids : ∀ row ∈ db.accounts.rows, row.id = "a") :
    FreshIds fresh db :=
  ⟨(PlainBackup.freshIds hids).injective, (PlainBackup.freshIds hids).unused⟩

end RefusedNull

open PlainBackup in
/-- If Prisma refuses a bare `null`, an account of the account form is not restored: its export
carries a null `customFields`. -/
theorem backupRestores_fails :
    RefusedNull.runtime.takesBareNull = false ∧ RefusedNull.runtime.Argon2Laws ∧
      RefusedNull.runtime.AesGcmLaws ∧ RefusedNull.runtime.JsonRoundTrip ∧
      (vault (stored body) "u").length = 1 ∧
      (∀ account ∈ vault (stored body) "u",
        RefusedNull.runtime.decrypt account.encryptedPassword ownerKey = some "secret") ∧
      ((stored body).users.find? "v").isSome ∧ (vault (stored body) "v").isEmpty ∧
      FreshIds RefusedNull.fresh (stored body) ∧
      ¬ BackupRestores (R := RefusedNull.runtime) "u" ownerKey "export-password" 2
        RefusedNull.drawn (stored body) "v" receiverKey 3 RefusedNull.fresh (stored body) := by
  have hdecrypt : ∀ account ∈ vault (stored body) "u",
      RefusedNull.runtime.decrypt account.encryptedPassword ownerKey = some "secret" := by
    decide +kernel
  have haes := RefusedNull.aesGcmLaws symbolicRuntime.aesGcmLaws
  have hjson := RefusedNull.jsonRoundTrip symbolicRuntime.jsonRoundTrip
  refine ⟨rfl, RefusedNull.argon2Laws symbolicRuntime.argon2Laws, haes, hjson,
    by decide +kernel, hdecrypt, by decide +kernel, by decide +kernel,
    RefusedNull.freshIds (by decide +kernel), fun hrestores => ?_⟩
  have hfields : ∀ account ∈ vault (stored body) "u",
      account.restorable RefusedNull.runtime = true :=
    restorable_of_restores haes hjson hdecrypt hrestores
  exact absurd hfields (by decide +kernel)

end AccountsService

end MyAccountController
