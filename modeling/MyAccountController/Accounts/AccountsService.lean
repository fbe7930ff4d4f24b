import MyAccountController.Auth.Session
import MyAccountController.Prisma.AccountInput

/-! # `AccountsService`

Accounts are written through a data object built from the request body by
object spread, so a property of the body replaces the one of the same name
before it. The fresh id and nonce of a call are its arguments.
-/

namespace MyAccountController

open Foundation

variable (R : Runtime)

/-- The random values of one creation: the id of the row and the nonce of its
ciphertext. -/
structure FreshAccount where
  id : String
  iv : R.Iv

/-- `{ version, exportedAt, salt, payload }`. -/
structure BackupFile where
  version : Int
  exportedAt : Int
  salt : String
  payload : String

/-- `{ imported, skipped }`. -/
structure ImportResult where
  imported : Nat
  skipped : Nat
  deriving DecidableEq, Repr

/-- The selected columns of an account. -/
structure AccountView where
  id : String
  serviceName : String
  urlOrAppName : String
  category : String
  loginId : String
  memo : Option String
  createdAt : Int
  updatedAt : Int
  deriving DecidableEq, Repr

def Account.view (row : Account) : AccountView where
  id := row.id
  serviceName := row.serviceName
  urlOrAppName := row.urlOrAppName
  category := row.category
  loginId := row.loginId
  memo := row.memo
  createdAt := row.createdAt
  updatedAt := row.updatedAt

namespace AccountsService

variable {R}

def duplicateAccount : Exception :=
  .conflict "이미 같은 사이트에 같은 아이디로 등록된 계정이 있습니다."

def accountNotFound : Exception := .notFound "계정을 찾을 수 없습니다."

/-- The conversion of P2002 to 409 around a write. -/
def convertDuplicate {α : Type} (write : Query α) : Query α :=
  Handler.recover write fun err =>
    if err = .p2002 then Handler.raise duplicateAccount else Handler.raise err

/-- `crypto.encrypt(password, key)`, a `TypeError` unless it is given a string. -/
def encryptPassword (password : Option Json) (key : R.Key) (iv : R.Iv) :
    Except Exception String :=
  match password with
  | some (.str plaintext) => .ok (R.encrypt plaintext key iv)
  | _ => .error (.error "The data argument must be of type string")

/-- `crypto.decrypt(payload, key)`. -/
def decryptPassword (payload : String) (key : R.Key) : Except Exception String :=
  match R.decrypt payload key with
  | some plaintext => .ok plaintext
  | none => .error (.error "Unsupported state or unable to authenticate data")

/-- `findAll`, the newest account first. The filters that are empty do not restrict, and
`contains` is the comparison of the database that ignores case. -/
def findAll (contains : String → String → Bool) (userId : String) (category q : Option String) :
    Query (List AccountView) := do
  let rows ← Prisma.account.findMany fun row => row.userId = userId ∧
    (∀ name ∈ category, name ≠ "" → row.category = name) ∧
    ∀ text ∈ q, text ≠ "" →
      contains row.serviceName text = true ∨ contains row.urlOrAppName text = true
  let sorted := rows.mergeSort fun a b => b.createdAt ≤ a.createdAt
  pure (sorted.map Account.view)

/-- The account, when the user owns it. -/
def findOwned (userId id : String) : Query Account := do
  let existing ← Prisma.account.findFirst fun row => row.id = id ∧ row.userId = userId
  Handler.expect existing accountNotFound

/-- `findOne`, answering the row and its password. -/
def findOne (userId id : String) (encryptionKey : R.Key) : Query (Account × String) := do
  let account ← findOwned userId id
  let password ← Handler.ofExcept (decryptPassword account.encryptedPassword encryptionKey)
  pure (account, password)

/-- The data object of `create`: `{ userId, ...rest, encryptedPassword }`. -/
def createData (userId : String) (data : JsObject) (encryptedPassword : String) : JsObject :=
  (JsObject.spread [("userId", .str userId)] (data.without "password")).spread
    [("encryptedPassword", .str encryptedPassword)]

def create (userId : String) (encryptionKey : R.Key) (now : Int) (fresh : FreshAccount R)
    (data : JsObject) : Query Account :=
  convertDuplicate do
    let encryptedPassword ← Handler.ofExcept
      (encryptPassword (data.get "password") encryptionKey fresh.iv)
    let row ← Handler.ofExcept
      (AccountInput.account R now fresh.id (createData userId data encryptedPassword))
    Prisma.account.create row

/-- The data object of `update`: `{ ...rest, ...(password ? { encryptedPassword } : {}) }`. -/
def updateData (data : JsObject) (encryptionKey : R.Key) (iv : R.Iv) :
    Except Exception JsObject :=
  if (data.get "password").any Json.truthy then do
    let encryptedPassword ← encryptPassword (data.get "password") encryptionKey iv
    pure ((data.without "password").spread [("encryptedPassword", .str encryptedPassword)])
  else pure (data.without "password")

def update (userId id : String) (encryptionKey : R.Key) (now : Int) (iv : R.Iv)
    (data : JsObject) : Query Account := do
  let _ ← findOwned userId id
  convertDuplicate do
    let data ← Handler.ofExcept (updateData data encryptionKey iv)
    let changes ← Handler.ofExcept (AccountInput.changes R data)
    changes.update R now id

def remove (userId id : String) : Query Unit := do
  let _ ← findOwned userId id
  let _ ← Prisma.account.delete id

/-! ## Backup -/

/-- A nullable column as `JSON.stringify` writes it. -/
def orNull (value : Option Json) : Json := value.getD .null

/-- `{ ...rest, password }` without the columns that stay behind. -/
def exportEntry (encryptionKey : R.Key) (account : Account) : Except Exception Json := do
  let password ← decryptPassword account.encryptedPassword encryptionKey
  pure (.obj
    [("serviceName", .str account.serviceName), ("urlOrAppName", .str account.urlOrAppName),
      ("category", .str account.category), ("loginId", .str account.loginId),
      ("customFields", orNull account.customFields), ("memo", orNull (account.memo.map .str)),
      ("password", .str password)])

/-- `exportAccounts`, oldest account first. -/
def exportAccounts (userId : String) (encryptionKey : R.Key) (exportPassword : Option String)
    (now : Int) (salt : String) (iv : R.Iv) : Query BackupFile := do
  let accounts ← Prisma.account.findMany (·.userId = userId)
  let plain ← Handler.ofExcept
    ((accounts.mergeSort fun a b => a.createdAt ≤ b.createdAt).mapM (exportEntry encryptionKey))
  let exportPassword ← Handler.expect exportPassword (.error "password must be a string")
  let exportKey := R.deriveEncryptionKey exportPassword salt
  pure { version := 1, exportedAt := now, salt,
         payload := R.encrypt (R.jsonStringify (.arr plain)) exportKey iv }

/-- The values a `for .. of` loop visits. -/
def iterate : Json → Except Exception (List Json)
  | .arr items => .ok items
  | .str text => .ok (text.toList.map fun c => .str (String.singleton c))
  | _ => .error (.error "entries is not iterable")

/-- `{ ...entry, memo: entry.memo ?? undefined }`. Spreading a value that is not
an object gives no property named `password`. -/
def entryData : Json → Except Exception JsObject
  | .obj entry =>
      match entry.lookup "memo" with
      | none | some .null => .ok (JsObject.without entry "memo")
      | some memo => .ok (JsObject.spread entry [("memo", memo)])
  | .null => .error (.error "Cannot read properties of null (reading 'memo')")
  | _ => .ok []

/-- The body of the loop: a conflict is counted, any other exception ends it. -/
def importEntry (userId : String) (encryptionKey : R.Key) (now : Int)
    (fresh : Nat → FreshAccount R) (counts : ImportResult) (entry : Json × Nat) :
    Query ImportResult :=
  Handler.recover
    (do
      let data ← Handler.ofExcept (entryData entry.1)
      let _ ← create userId encryptionKey now (fresh entry.2) data
      pure { counts with imported := counts.imported + 1 })
    fun err =>
      match err with
      | .conflict _ => pure { counts with skipped := counts.skipped + 1 }
      | err => Handler.raise err

/-- The entries of a backup file, or the exception of opening it. -/
def openBackup (exportPassword : Option String) (file : BackupFile) :
    Except Exception (List Json) := do
  if file.version ≠ 1 then throw (.badRequest "지원하지 않는 백업 파일 버전입니다.")
  let some exportPassword := exportPassword | throw (.error "password must be a string")
  let exportKey := R.deriveEncryptionKey exportPassword file.salt
  let some json := R.decrypt file.payload exportKey
    | throw (.badRequest "내보내기 비밀번호가 올바르지 않거나 파일이 손상되었습니다.")
  let some entries := R.jsonParse json | throw (.error "Unexpected token in JSON")
  iterate entries

/-- `importAccounts`. Entry `i` of the file draws the random values `fresh i`. -/
def importAccounts (userId : String) (encryptionKey : R.Key) (now : Int)
    (fresh : Nat → FreshAccount R) (exportPassword : Option String) (file : BackupFile) :
    Query ImportResult := do
  let entries ← Handler.ofExcept (openBackup (R := R) exportPassword file)
  entries.zipIdx.foldlM (importEntry userId encryptionKey now fresh) ⟨0, 0⟩

/-! ## Outcomes -/

section Outcomes

variable {userId id : String} {encryptionKey : R.Key} {now : Int} {db db' : Database}
  {e : Exception}

theorem convertDuplicate_ok_iff {α : Type} {write : Query α} {a : α} :
    convertDuplicate write db = (.ok a, db') ↔ write db = (.ok a, db') := by
  rw [convertDuplicate, Handler.recover_ok_iff]
  constructor
  · rintro (hok | ⟨e, middle, -, hconvert⟩)
    · exact hok
    · split at hconvert <;> simp at hconvert
  · exact Or.inl

theorem convertDuplicate_error_iff {α : Type} {write : Query α} :
    convertDuplicate write db = (.error e, db') ↔
      ∃ e', write db = (.error e', db') ∧ e = if e' = .p2002 then duplicateAccount else e' := by
  rw [convertDuplicate, Handler.recover_error_iff]
  constructor
  · rintro ⟨e', middle, herror, hconvert⟩
    refine ⟨e', ?_⟩
    split at hconvert
    next h =>
      obtain ⟨he, rfl⟩ := Prod.mk.inj hconvert
      exact ⟨herror, by rw [if_pos h]; exact (Except.error.inj he).symm⟩
    next h =>
      obtain ⟨he, rfl⟩ := Prod.mk.inj hconvert
      exact ⟨herror, by rw [if_neg h]; exact (Except.error.inj he).symm⟩
  · rintro ⟨e', herror, rfl⟩
    refine ⟨e', db', herror, ?_⟩
    split <;> rfl

theorem encryptPassword_ok_iff {password : Option Json} {iv : R.Iv} {payload : String} :
    encryptPassword password encryptionKey iv = .ok payload ↔
      ∃ plaintext, password = some (.str plaintext) ∧
        payload = R.encrypt plaintext encryptionKey iv := by
  unfold encryptPassword
  split
  next plaintext => simp [eq_comm]
  next hne => exact ⟨fun h => by contradiction, fun ⟨plaintext, h, _⟩ => (hne plaintext h).elim⟩

theorem findOwned_ok_iff {row : Account} :
    findOwned userId id db = (.ok row, db') ↔
      (db.accounts.find? id = some row ∧ row.userId = userId) ∧ db' = db := by
  have hfirst : db.accounts.rows.find? (fun row => row.id = id ∧ row.userId = userId) = some row ↔
      db.accounts.find? id = some row ∧ row.userId = userId := Table.find?_where
  rw [findOwned, Handler.bind_ok_iff]
  constructor
  · rintro ⟨found, _, hquery, hexpect⟩
    obtain ⟨hfound, rfl⟩ := Prod.mk.inj hquery
    obtain ⟨rfl, rfl⟩ := Handler.expect_ok_iff.mp hexpect
    exact ⟨hfirst.mp (Except.ok.inj hfound), rfl⟩
  · rintro ⟨howned, rfl⟩
    refine ⟨_, db', rfl, ?_⟩
    exact Handler.expect_ok_iff.mpr ⟨hfirst.mpr howned, rfl⟩

theorem findOwned_error (hrun : findOwned userId id db = (.error e, db')) :
    e = accountNotFound ∧ db' = db := by
  rw [findOwned, Handler.bind_error_iff] at hrun
  rcases hrun with hquery | ⟨_, _, hquery, hexpect⟩
  · exact absurd (congrArg Prod.fst hquery) (by simp)
  · obtain ⟨-, rfl⟩ := Prod.mk.inj hquery
    obtain ⟨-, he, hstate⟩ := Handler.expect_error_iff.mp hexpect
    exact ⟨he.symm, hstate.symm⟩

theorem findOwned_of_none (userId : String) {id : String}
    (hgone : db.accounts.find? id = none) :
    findOwned userId id db = (.error accountNotFound, db) := by
  rcases hfind : findOwned userId id db with ⟨e | row, after⟩
  · obtain ⟨rfl, rfl⟩ := findOwned_error hfind
    rfl
  · obtain ⟨⟨hfound, -⟩, -⟩ := findOwned_ok_iff.mp hfind
    exact absurd (hgone.symm.trans hfound) (by simp)

/-- A creation succeeds exactly with a string password, an accepted data object
and a row that the table takes. -/
theorem create_ok_iff {fresh : FreshAccount R} {data : JsObject} {row : Account} :
    create userId encryptionKey now fresh data db = (.ok row, db') ↔
      ∃ plaintext, data.get "password" = some (.str plaintext) ∧
        AccountInput.account R now fresh.id
          (createData userId data (R.encrypt plaintext encryptionKey fresh.iv)) = .ok row ∧
        Prisma.account.create row db = (.ok row, db') := by
  rw [create, convertDuplicate_ok_iff, Handler.bind_ok_iff]
  constructor
  · rintro ⟨payload, _, hencrypt, hrun⟩
    obtain ⟨hpayload, rfl⟩ := Prod.mk.inj hencrypt
    obtain ⟨plaintext, hpassword, rfl⟩ := encryptPassword_ok_iff.mp hpayload
    obtain ⟨accepted, _, haccount, hcreate⟩ := Handler.bind_ok_iff.mp hrun
    obtain ⟨hrow, rfl⟩ := Prod.mk.inj haccount
    obtain rfl := ((Model.create_ok_iff _).mp hcreate).1
    exact ⟨plaintext, hpassword, hrow, hcreate⟩
  · rintro ⟨plaintext, hpassword, haccount, hcreate⟩
    refine ⟨R.encrypt plaintext encryptionKey fresh.iv, db, ?_, ?_⟩
    · exact Prod.ext (encryptPassword_ok_iff.mpr ⟨plaintext, hpassword, rfl⟩) rfl
    · rw [Handler.bind_ok_iff]
      exact ⟨row, db, Prod.ext haccount rfl, hcreate⟩

/-- A creation that fails changes nothing. -/
theorem create_error {fresh : FreshAccount R} {data : JsObject}
    (hrun : create userId encryptionKey now fresh data db = (.error e, db')) : db' = db := by
  obtain ⟨e', hrun, -⟩ := convertDuplicate_error_iff.mp hrun
  rw [Handler.bind_error_iff] at hrun
  rcases hrun with hencrypt | ⟨payload, _, hencrypt, hrun⟩
  · exact (Prod.mk.inj hencrypt).2.symm
  obtain ⟨-, rfl⟩ := Prod.mk.inj hencrypt
  rw [Handler.bind_error_iff] at hrun
  rcases hrun with haccount | ⟨row, _, haccount, hcreate⟩
  · exact (Prod.mk.inj haccount).2.symm
  obtain ⟨-, rfl⟩ := Prod.mk.inj haccount
  exact (Model.create_error _ hcreate).1

/-- A creation that ends in a conflict was refused by the unique index, not by
the validation of its data object. -/
theorem create_conflict {fresh : FreshAccount R} {data : JsObject} {message : String}
    (hrun : create userId encryptionKey now fresh data db = (.error (.conflict message), db')) :
    ∃ plaintext row, data.get "password" = some (.str plaintext) ∧
      AccountInput.account R now fresh.id
        (createData userId data (R.encrypt plaintext encryptionKey fresh.iv)) = .ok row := by
  obtain ⟨e', hrun, he⟩ := convertDuplicate_error_iff.mp hrun
  rw [Handler.bind_error_iff] at hrun
  rcases hrun with hencrypt | ⟨payload, _, hencrypt, hrun⟩
  · -- `encrypt` only throws a `TypeError`.
    obtain ⟨hencrypt, -⟩ := Prod.mk.inj hencrypt
    unfold encryptPassword at hencrypt
    split at hencrypt
    · contradiction
    · obtain rfl := Except.error.inj hencrypt
      rw [if_neg (by decide)] at he
      contradiction
  obtain ⟨hpayload, rfl⟩ := Prod.mk.inj hencrypt
  obtain ⟨plaintext, hpassword, rfl⟩ := encryptPassword_ok_iff.mp hpayload
  rw [Handler.bind_error_iff] at hrun
  rcases hrun with haccount | ⟨row, _, haccount, -⟩
  · obtain rfl := AccountInput.account_validates e' (Prod.mk.inj haccount).1
    rw [if_neg (by decide)] at he
    contradiction
  · exact ⟨plaintext, row, hpassword, (Prod.mk.inj haccount).1⟩

/-- An update succeeds exactly on an owned row, with an accepted data object that
Prisma writes. -/
theorem update_ok_iff {iv : R.Iv} {data : JsObject} {row : Account} :
    update userId id encryptionKey now iv data db = (.ok row, db') ↔
      ∃ before columns changes, (db.accounts.find? id = some before ∧ before.userId = userId) ∧
        updateData data encryptionKey iv = .ok columns ∧
        AccountInput.changes R columns = .ok changes ∧
        changes.update R now id db = (.ok row, db') := by
  rw [update, Handler.bind_ok_iff]
  simp only [findOwned_ok_iff, convertDuplicate_ok_iff, Handler.bind_ok_iff, Handler.ofExcept_run,
    Prod.mk.injEq]
  constructor
  · rintro ⟨before, _, ⟨howned, rfl⟩, columns, _, ⟨hcolumns, rfl⟩, changes, _, ⟨hchanges, rfl⟩,
      hreplace⟩
    exact ⟨before, columns, changes, howned, hcolumns, hchanges, hreplace⟩
  · rintro ⟨before, columns, changes, howned, hcolumns, hchanges, hreplace⟩
    exact ⟨before, db, ⟨howned, rfl⟩, columns, db, ⟨hcolumns, rfl⟩, changes, db,
      ⟨hchanges, rfl⟩, hreplace⟩

/-- An update that fails changes nothing. -/
theorem update_error {iv : R.Iv} {data : JsObject}
    (hrun : update userId id encryptionKey now iv data db = (.error e, db')) : db' = db := by
  rw [update, Handler.bind_error_iff] at hrun
  rcases hrun with hfind | ⟨_, _, hfind, hrun⟩
  · exact (findOwned_error hfind).2
  obtain ⟨-, rfl⟩ := findOwned_ok_iff.mp hfind
  obtain ⟨e', hrun, -⟩ := convertDuplicate_error_iff.mp hrun
  rw [Handler.bind_error_iff] at hrun
  rcases hrun with hcolumns | ⟨_, _, hcolumns, hrun⟩
  · exact (Prod.mk.inj hcolumns).2.symm
  obtain ⟨-, rfl⟩ := Prod.mk.inj hcolumns
  rw [Handler.bind_error_iff] at hrun
  rcases hrun with hchanges | ⟨_, _, hchanges, hreplace⟩
  · exact (Prod.mk.inj hchanges).2.symm
  obtain ⟨-, rfl⟩ := Prod.mk.inj hchanges
  exact AccountInput.Changes.update_error hreplace

/-- A removal deletes one row of the user, or nothing. -/
theorem remove_ok_iff {u : Unit} :
    remove userId id db = (.ok u, db') ↔
      (∃ row, db.accounts.find? id = some row ∧ row.userId = userId) ∧
        db' = Prisma.account.withTable db (db.accounts.delete id) := by
  simp only [remove, Handler.bind_ok_iff, findOwned_ok_iff, Model.delete_ok_iff, Handler.pure_run,
    Prod.mk.injEq, true_and]
  constructor
  · rintro ⟨row, _, ⟨howned, rfl⟩, _, _, ⟨-, rfl⟩, rfl⟩
    exact ⟨⟨row, howned⟩, rfl⟩
  · rintro ⟨⟨row, hfind, huser⟩, rfl⟩
    exact ⟨row, db, ⟨⟨hfind, huser⟩, rfl⟩, row, _, ⟨hfind, rfl⟩, rfl⟩

theorem remove_error (hrun : remove userId id db = (.error e, db')) : db' = db := by
  rw [remove, Handler.bind_error_iff] at hrun
  rcases hrun with hfind | ⟨_, _, hfind, hrun⟩
  · exact (findOwned_error hfind).2
  obtain ⟨-, rfl⟩ := findOwned_ok_iff.mp hfind
  rw [Handler.bind_error_iff] at hrun
  rcases hrun with hdelete | ⟨_, _, -, hpure⟩
  · exact ((Model.delete_error_iff _).mp hdelete).2.2
  · exact absurd (congrArg Prod.fst hpure) (by simp)

/-- Reading one account changes nothing. -/
theorem findOne_state (encryptionKey : R.Key) (db : Database) :
    (findOne userId id encryptionKey db).2 = db := by
  rw [findOne]
  rcases hfind : findOwned userId id db with ⟨e | row, after⟩
  · rw [Handler.bind_of_error hfind]
    exact (findOwned_error hfind).2
  · rw [Handler.bind_of_ok hfind]
    obtain ⟨-, rfl⟩ := findOwned_ok_iff.mp hfind
    cases decryptPassword row.encryptedPassword encryptionKey <;> rfl

/-- An export changes nothing. -/
theorem exportAccounts_state {exportPassword : Option String} {salt : String} {iv : R.Iv}
    (encryptionKey : R.Key) (db : Database) :
    (exportAccounts userId encryptionKey exportPassword now salt iv db).2 = db := by
  rw [exportAccounts, Model.findMany_bind]
  generalize List.mapM (exportEntry encryptionKey) _ = plain
  cases plain with
  | error e => rfl
  | ok plain => cases exportPassword <;> rfl

end Outcomes

end AccountsService

end MyAccountController
