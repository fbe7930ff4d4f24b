import MyAccountController.Accounts.Backup
import MyAccountController.Foundation.FirstWins

/-! # Importing over an existing vault

An import is a loop of single creations that skips a duplicate. Seen through
the unique index of the table, it collects the entries of the file and the
first entry of a login wins. So an import can be repeated, and one that was
stopped by the storage can be started again.
-/

namespace MyAccountController

open Foundation

variable {R : Runtime}

/-- An entry of a backup with the declared fields. -/
structure BackupEntry where
  serviceName : String
  urlOrAppName : String
  category : String
  loginId : String
  password : String
  memo : Option String

namespace BackupEntry

/-- The names of the declared fields. -/
def fields : List String :=
  ["serviceName", "urlOrAppName", "category", "loginId", "password", "memo"]

/-- A JSON object without other fields. -/
def Declared (entry : Json) : Prop :=
  ∃ object, entry = .obj object ∧ ∀ name ∈ JsObject.names object, name ∈ fields

/-- A field of type `string`. -/
def text (object : JsObject) (name : String) : Option String :=
  match object.get name with
  | some (.str value) => some value
  | _ => none

/-- A field of type `string | null | undefined`. -/
def optionalText (object : JsObject) (name : String) : Option (Option String) :=
  match object.get name with
  | none | some .null => some none
  | some (.str value) => some (some value)
  | some _ => none

/-- The entry, when each field has its declared type. -/
def read : Json → Option BackupEntry
  | .obj object => do
      let serviceName ← text object "serviceName"
      let urlOrAppName ← text object "urlOrAppName"
      let category ← text object "category"
      let loginId ← text object "loginId"
      let password ← text object "password"
      let memo ← optionalText object "memo"
      pure { serviceName, urlOrAppName, category, loginId, password, memo }
  | _ => none

/-- The entry as its owner sees it in the vault. -/
def content (entry : BackupEntry) : VaultEntry where
  serviceName := entry.serviceName
  urlOrAppName := entry.urlOrAppName
  category := entry.category
  loginId := entry.loginId
  memo := entry.memo
  customFields := none
  password := some entry.password

/-- `(urlOrAppName, loginId)`. -/
def login (entry : BackupEntry) : String × String := (entry.urlOrAppName, entry.loginId)

/-- The entries before the first one that cannot be read. -/
def readable : List Json → List BackupEntry
  | [] => []
  | entry :: entries =>
      match read entry with
      | some first => first :: readable entries
      | none => []

end BackupEntry

/-- `(urlOrAppName, loginId)`. -/
def VaultEntry.login (entry : VaultEntry) : String × String := (entry.urlOrAppName, entry.loginId)

/-- `(urlOrAppName, loginId)`. -/
def Account.login (account : Account) : String × String :=
  (account.urlOrAppName, account.loginId)

/-- The entry of an account in `@@unique([userId, urlOrAppName, loginId])`. -/
def Account.uniqueIndex (account : Account) : String × String × String :=
  (account.userId, account.urlOrAppName, account.loginId)

/-- A failure of the storage during a creation: its exception, which is not that
of a duplicate, and whether the row had been written by then. -/
structure StorageFailure where
  exception : Exception
  notConflict : ∀ message, exception ≠ .conflict message
  written : Bool

namespace AccountsService

/-! ## Imports on a storage that can fail -/

/-- A creation during which the storage may fail. -/
def createFailing (failure : Option StorageFailure) (userId : String) (encryptionKey : R.Key)
    (now : Int) (fresh : FreshAccount R) (data : JsObject) : Query Account :=
  match failure with
  | none => create userId encryptionKey now fresh data
  | some failure => do
      if failure.written then
        let _ ← create userId encryptionKey now fresh data
      Handler.raise failure.exception

/-- The body of the loop of `importAccounts`. -/
def importEntryFailing (failure : Nat → Option StorageFailure) (userId : String)
    (encryptionKey : R.Key) (now : Int) (fresh : Nat → FreshAccount R) (counts : ImportResult)
    (entry : Json × Nat) : Query ImportResult :=
  Handler.recover
    (do
      let data ← Handler.ofExcept (entryData entry.1)
      let _ ← createFailing (failure entry.2) userId encryptionKey now (fresh entry.2) data
      pure { counts with imported := counts.imported + 1 })
    fun err =>
      match err with
      | .conflict _ => pure { counts with skipped := counts.skipped + 1 }
      | err => Handler.raise err

/-- `importAccounts` when the storage fails at the given entries. -/
def importAccountsFailing (failure : Nat → Option StorageFailure) (userId : String)
    (encryptionKey : R.Key) (now : Int) (fresh : Nat → FreshAccount R)
    (exportPassword : Option String) (file : BackupFile) : Query ImportResult := do
  let entries ← Handler.ofExcept (openBackup (R := R) exportPassword file)
  entries.zipIdx.foldlM (importEntryFailing failure userId encryptionKey now fresh) ⟨0, 0⟩

theorem importAccountsFailing_none (userId : String) (encryptionKey : R.Key) (now : Int)
    (fresh : Nat → FreshAccount R) (exportPassword : Option String) (file : BackupFile) :
    importAccountsFailing (fun _ => none) userId encryptionKey now fresh exportPassword file =
      importAccounts userId encryptionKey now fresh exportPassword file :=
  rfl

/-! ## One entry -/

section Entry

variable {object data : JsObject} {userId : String} {encryptionKey : R.Key} {now : Int}
  {fresh : FreshAccount R} {db : Database}

/-- The row that an import makes of an entry. -/
def importedRow (userId : String) (encryptionKey : R.Key) (now : Int) (fresh : FreshAccount R)
    (entry : BackupEntry) : Account where
  id := fresh.id
  userId
  serviceName := entry.serviceName
  urlOrAppName := entry.urlOrAppName
  category := entry.category
  loginId := entry.loginId
  encryptedPassword := R.encrypt entry.password encryptionKey fresh.iv
  customFields := none
  memo := entry.memo
  createdAt := now
  updatedAt := now

theorem text_eq_some_iff {name value : String} :
    BackupEntry.text object name = some value ↔ object.get name = some (.str value) := by
  unfold BackupEntry.text
  split
  next value' hget => simp [hget]
  next hnot => exact ⟨fun h => by contradiction, fun h => (hnot value h).elim⟩

theorem entryData_obj (object : JsObject) :
    entryData (.obj object) = match object.get "memo" with
      | none | some .null => .ok (object.without "memo")
      | some memo => .ok (object.spread [("memo", memo)]) := by
  rfl

/-- The data object that an import passes on keeps the declared fields. -/
theorem entryData_declared (hdeclared : ∀ name ∈ object.names, name ∈ BackupEntry.fields) :
    ∃ data, entryData (.obj object) = .ok data ∧
      (∀ name ∈ JsObject.names data, name ∈ BackupEntry.fields) ∧
      (∀ name, name ≠ "memo" → JsObject.get data name = object.get name) ∧
      ∀ memo, AccountInput.nullableText data "memo" = .ok memo ↔
        BackupEntry.optionalText object "memo" = some memo := by
  have hwithout : ∀ name ∈ (object.without "memo").names, name ∈ BackupEntry.fields := by
    intro name hname
    obtain ⟨property, hproperty, rfl⟩ := List.mem_map.mp hname
    exact hdeclared _ (List.mem_map_of_mem (List.mem_filter.mp hproperty).1)
  rw [entryData_obj]
  unfold BackupEntry.optionalText AccountInput.nullableText
  cases hmemo : object.get "memo" with
  | none =>
      refine ⟨object.without "memo", rfl, hwithout, ?_, ?_⟩
      · exact fun name hne => JsObject.get_without_of_ne object hne
      · simp [JsObject.get_without_self, eq_comm]
  | some memo =>
      by_cases hnull : memo = .null
      · subst hnull
        refine ⟨object.without "memo", rfl, hwithout, ?_, ?_⟩
        · exact fun name hne => JsObject.get_without_of_ne object hne
        · simp [JsObject.get_without_self, eq_comm]
      · refine ⟨object.spread [("memo", memo)], ?_, ?_, ?_, ?_⟩
        · cases memo <;> first | rfl | contradiction
        · intro name hname
          rcases List.mem_cons.mp hname with rfl | hname
          · simp [BackupEntry.fields]
          · exact hdeclared name hname
        · intro name hne
          rw [JsObject.get_spread, JsObject.get_cons_of_ne hne]
          rfl
        · intro value
          rw [JsObject.get_spread, JsObject.get_cons_self]
          cases memo <;> simp_all

/-- The data object of the creation names columns of the model only. -/
theorem createData_declared {payload : String}
    (hnames : ∀ name ∈ data.names, name ∈ BackupEntry.fields) :
    (∀ name ∈ (createData userId data payload).names, name ∈ AccountInput.columns) ∧
      (createData userId data payload).get "encryptedPassword" = some (.str payload) ∧
      (createData userId data payload).get "userId" = some (.str userId) ∧
      ∀ name, name ≠ "encryptedPassword" → name ≠ "userId" → name ≠ "password" →
        (createData userId data payload).get name = data.get name := by
  refine ⟨?_, ?_, ?_, ?_⟩
  · intro name hname
    simp only [createData, JsObject.spread, JsObject.without, JsObject.names, List.map_append,
      List.map_cons, List.map_nil, List.mem_append, List.mem_singleton] at hname
    rcases hname with rfl | hname | rfl
    · simp [AccountInput.columns]
    · obtain ⟨property, hproperty, rfl⟩ := List.mem_map.mp hname
      have hfield := hnames _ (List.mem_map_of_mem (List.mem_filter.mp hproperty).1)
      have hpassword : property.1 ≠ "password" := by
        simpa using (List.mem_filter.mp hproperty).2
      simp only [BackupEntry.fields, List.mem_cons, List.not_mem_nil, or_false] at hfield
      simp only [AccountInput.columns, List.mem_cons, List.not_mem_nil, or_false]
      tauto
    · simp [AccountInput.columns]
  · rw [createData, JsObject.get_spread, JsObject.get_cons_self]
    rfl
  · have huser : data.get "userId" = none := by
      apply JsObject.get_eq_none_of_not_mem
      intro hmem
      have := hnames _ hmem
      simp [BackupEntry.fields] at this
    rw [createData, JsObject.get_spread, JsObject.get_spread,
      JsObject.get_without_of_ne data (by decide), huser]
    rfl
  · intro name hencrypted huser hpassword
    rw [createData, JsObject.get_spread, JsObject.get_spread,
      JsObject.get_cons_of_ne hencrypted, JsObject.get_without_of_ne data hpassword,
      JsObject.get_cons_of_ne huser]
    simp

theorem read_eq_some_iff {entry : BackupEntry} :
    BackupEntry.read (.obj object) = some entry ↔
      object.get "serviceName" = some (.str entry.serviceName) ∧
      object.get "urlOrAppName" = some (.str entry.urlOrAppName) ∧
      object.get "category" = some (.str entry.category) ∧
      object.get "loginId" = some (.str entry.loginId) ∧
      object.get "password" = some (.str entry.password) ∧
      BackupEntry.optionalText object "memo" = some entry.memo := by
  simp only [BackupEntry.read, Option.bind_eq_bind, Option.bind_eq_some_iff, text_eq_some_iff,
    Option.pure_def, Option.some.injEq]
  constructor
  · rintro ⟨_, hservice, _, hurl, _, hcategory, _, hlogin, _, hpassword, _, hmemo, rfl⟩
    exact ⟨hservice, hurl, hcategory, hlogin, hpassword, hmemo⟩
  · rintro ⟨hservice, hurl, hcategory, hlogin, hpassword, hmemo⟩
    exact ⟨_, hservice, _, hurl, _, hcategory, _, hlogin, _, hpassword, _, hmemo, rfl⟩

/-- The creation of a declared entry is accepted exactly when its fields have
their types, and asks for its row. -/
theorem account_declared_iff (hdeclared : ∀ name ∈ object.names, name ∈ BackupEntry.fields)
    (hdata : entryData (.obj object) = .ok data) {plaintext : String} {row : Account}
    (hpassword : data.get "password" = some (.str plaintext)) :
    AccountInput.account R now fresh.id
        (createData userId data (R.encrypt plaintext encryptionKey fresh.iv)) = .ok row ↔
      ∃ entry, BackupEntry.read (.obj object) = some entry ∧
        row = importedRow userId encryptionKey now fresh entry := by
  obtain ⟨data', hdata', hnames, hget, hmemo⟩ := entryData_declared hdeclared
  obtain rfl := Except.ok.inj (hdata.symm.trans hdata')
  obtain ⟨hcolumns, hencrypted, huser, hother⟩ :=
    @createData_declared data userId (R.encrypt plaintext encryptionKey fresh.iv) hnames
  have habsent : ∀ name, name ∉ BackupEntry.fields → data.get name = none :=
    fun name hname => JsObject.get_eq_none_of_not_mem fun hmem => hname (hnames name hmem)
  have hmemo' : ∀ memo, AccountInput.nullableText
      (createData userId data (R.encrypt plaintext encryptionKey fresh.iv)) "memo" = .ok memo ↔
        BackupEntry.optionalText object "memo" = some memo := by
    intro memo
    rw [← hmemo memo, AccountInput.nullableText, AccountInput.nullableText,
      hother "memo" (by decide) (by decide) (by decide)]
  rw [AccountInput.account_ok_iff, AccountInput.textOr, AccountInput.nullableJson, hmemo',
    AccountInput.dateOr, AccountInput.dateOr, huser, hencrypted,
    hother "id" (by decide) (by decide) (by decide), habsent "id" (by decide),
    hother "serviceName" (by decide) (by decide) (by decide), hget "serviceName" (by decide),
    hother "urlOrAppName" (by decide) (by decide) (by decide), hget "urlOrAppName" (by decide),
    hother "category" (by decide) (by decide) (by decide), hget "category" (by decide),
    hother "loginId" (by decide) (by decide) (by decide), hget "loginId" (by decide),
    hother "customFields" (by decide) (by decide) (by decide), habsent "customFields" (by decide),
    hother "createdAt" (by decide) (by decide) (by decide), habsent "createdAt" (by decide),
    hother "updatedAt" (by decide) (by decide) (by decide), habsent "updatedAt" (by decide)]
  rw [hget "password" (by decide)] at hpassword
  simp only [Option.some.injEq, Json.str.injEq, Except.ok.injEq, read_eq_some_iff]
  constructor
  · rintro ⟨-, hid, huserId, hservice, hurl, hcategory, hlogin, hpayload, hfields, hmemo, hcreated,
      hupdated⟩
    refine ⟨⟨row.serviceName, row.urlOrAppName, row.category, row.loginId, plaintext, row.memo⟩,
      ⟨hservice, hurl, hcategory, hlogin, hpassword, hmemo⟩, ?_⟩
    ext1
    case id => exact hid.symm
    case userId => exact huserId.symm
    case encryptedPassword => exact hpayload.symm
    case customFields => exact hfields.symm
    case createdAt => exact hcreated.symm
    case updatedAt => exact hupdated.symm
    all_goals rfl
  · rintro ⟨entry, ⟨hservice, hurl, hcategory, hlogin, hpassword', hmemo⟩, rfl⟩
    obtain rfl : plaintext = entry.password :=
      Json.str.inj (Option.some.inj (hpassword.symm.trans hpassword'))
    exact ⟨hcolumns, rfl, rfl, hservice, hurl, hcategory, hlogin, rfl, rfl, hmemo, rfl, rfl⟩

theorem convertDuplicate_congr {α : Type} {write write' : Query α}
    (hrun : write db = write' db) : convertDuplicate write db = convertDuplicate write' db := by
  unfold convertDuplicate Handler.recover
  rw [hrun]

/-- An entry whose fields have their types is one insertion. -/
theorem create_of_read (hdeclared : ∀ name ∈ object.names, name ∈ BackupEntry.fields)
    (hdata : entryData (.obj object) = .ok data) {entry : BackupEntry}
    (hread : BackupEntry.read (.obj object) = some entry) :
    create userId encryptionKey now fresh data db = convertDuplicate
      (Prisma.account.create (importedRow userId encryptionKey now fresh entry)) db := by
  obtain ⟨data', hdata', -, hget, -⟩ := entryData_declared hdeclared
  obtain rfl := Except.ok.inj (hdata.symm.trans hdata')
  have hpassword : data.get "password" = some (.str entry.password) := by
    rw [hget "password" (by decide)]
    exact (read_eq_some_iff.mp hread).2.2.2.2.1
  have haccount := (@account_declared_iff R object data userId encryptionKey now fresh hdeclared
    hdata entry.password _ hpassword).mpr ⟨entry, hread, rfl⟩
  apply convertDuplicate_congr
  have hencrypt : encryptPassword (data.get "password") encryptionKey fresh.iv =
      .ok (R.encrypt entry.password encryptionKey fresh.iv) :=
    encryptPassword_ok_iff.mpr ⟨entry.password, hpassword, rfl⟩
  rw [hencrypt, Handler.ofExcept_ok_bind, haccount, Handler.ofExcept_ok_bind]

/-- An entry with a field of another type ends the import and changes nothing. -/
theorem create_of_unreadable (hdeclared : ∀ name ∈ object.names, name ∈ BackupEntry.fields)
    (hdata : entryData (.obj object) = .ok data)
    (hread : BackupEntry.read (.obj object) = none) :
    ∃ e, create userId encryptionKey now fresh data db = (.error e, db) ∧
      ∀ message, e ≠ .conflict message := by
  rcases hrun : create userId encryptionKey now fresh data db with ⟨e | row, db'⟩
  · obtain rfl := create_error hrun
    refine ⟨e, rfl, ?_⟩
    rintro message rfl
    obtain ⟨plaintext, row, hpassword, haccount⟩ := create_conflict hrun
    obtain ⟨entry, hentry, -⟩ := (account_declared_iff hdeclared hdata hpassword).mp haccount
    rw [hread] at hentry
    contradiction
  · obtain ⟨plaintext, hpassword, haccount, -⟩ := create_ok_iff.mp hrun
    obtain ⟨entry, hentry, -⟩ := (account_declared_iff hdeclared hdata hpassword).mp haccount
    rw [hread] at hentry
    contradiction

/-- A duplicate is refused, and any other row is stored. -/
theorem create_importedRow (hdeclared : ∀ name ∈ object.names, name ∈ BackupEntry.fields)
    (hdata : entryData (.obj object) = .ok data) {entry : BackupEntry}
    (hread : BackupEntry.read (.obj object) = some entry)
    (hid : ∀ row ∈ db.accounts.rows, row.id ≠ fresh.id)
    (huser : (db.users.find? userId).isSome) {row : Account}
    (hrow : row = importedRow userId encryptionKey now fresh entry) :
    (row.uniqueIndex ∈ db.accounts.rows.map Account.uniqueIndex ∧
      create userId encryptionKey now fresh data db = (.error duplicateAccount, db)) ∨
    (row.uniqueIndex ∉ db.accounts.rows.map Account.uniqueIndex ∧
      ∃ table, create userId encryptionKey now fresh data db =
        (.ok row, Prisma.account.withTable db table) ∧
        table.rows = db.accounts.rows ++ [row]) := by
  rw [create_of_read hdeclared hdata hread, ← hrow]
  by_cases hmem : row.uniqueIndex ∈ db.accounts.rows.map Account.uniqueIndex
  · refine .inl ⟨hmem, ?_⟩
    obtain ⟨other, hother, hindex⟩ := List.mem_map.mp hmem
    have hnone : db.accounts.insert? row = none :=
      Table.insert?_eq_none_iff.mpr ⟨other, hother, .inr hindex⟩
    have hcreate : Prisma.account.create row db = (.error .p2002, db) := by
      unfold Model.create
      rw [show (Prisma.account.table db).insert? row = none from hnone]
    exact convertDuplicate_error_iff.mpr ⟨.p2002, hcreate, rfl⟩
  · refine .inr ⟨hmem, ?_⟩
    have hfree : ∀ other ∈ db.accounts.rows, ¬ Clash other row := by
      rintro other hother (hclash | hclash)
      · apply hid other hother
        rw [hrow] at hclash
        exact hclash
      · exact hmem (List.mem_map.mpr ⟨other, hother, hclash⟩)
    obtain ⟨table, hinsert⟩ := Option.ne_none_iff_exists'.mp
      (mt Table.insert?_eq_none_iff.mp (by simpa using hfree))
    refine ⟨table, convertDuplicate_ok_iff.mpr ((Model.create_ok_iff _).mpr ?_),
      (Table.insert?_eq_some_iff.mp hinsert).2⟩
    refine ⟨rfl, ?_, table, hinsert, rfl⟩
    rw [hrow]
    exact huser

end Entry

/-! ## The loop -/

/-- The counters account for the handled entries and the added rows. -/
structure Counted (handled : Nat) (counts counts' : ImportResult) (rows rows' : List Account) :
    Prop where
  total : counts'.imported + counts'.skipped = counts.imported + counts.skipped + handled
  added : counts'.imported + rows.length = counts.imported + rows'.length

theorem Counted.refl (counts : ImportResult) (rows : List Account) :
    Counted 0 counts counts rows rows :=
  ⟨rfl, rfl⟩

theorem Counted.cons {handled : Nat} {counts counts' counts'' : ImportResult}
    {rows rows' rows'' : List Account} (hfirst : Counted 1 counts counts' rows rows')
    (hrest : Counted handled counts' counts'' rows' rows'') :
    Counted (handled + 1) counts counts'' rows rows'' where
  total := by
    have := hfirst.total
    have := hrest.total
    omega
  added := by
    have := hfirst.added
    have := hrest.added
    omega

section Loop

variable {failure : Nat → Option StorageFailure} {userId : String} {encryptionKey : R.Key}
  {now : Int} {fresh : Nat → FreshAccount R}

/-- The rows that an import makes of entries from position `start` on. -/
def importedRows (userId : String) (encryptionKey : R.Key) (now : Int)
    (fresh : Nat → FreshAccount R) (entries : List BackupEntry) (start : Nat) : List Account :=
  (entries.zipIdx start).map fun (entry, i) =>
    importedRow userId encryptionKey now (fresh i) entry

section Body

variable {entry : Json} {data : JsObject} {counts : ImportResult} {i : Nat} {db db' : Database}

theorem importEntryFailing_of_ok {row : Account} (hdata : entryData entry = .ok data)
    (hcreate : createFailing (failure i) userId encryptionKey now (fresh i) data db =
      (.ok row, db')) :
    importEntryFailing failure userId encryptionKey now fresh counts (entry, i) db =
      (.ok { counts with imported := counts.imported + 1 }, db') := by
  rw [importEntryFailing, Handler.recover_ok_iff, hdata, Handler.ofExcept_ok_bind,
    Handler.bind_of_ok hcreate]
  exact .inl rfl

theorem importEntryFailing_of_conflict {message : String} (hdata : entryData entry = .ok data)
    (hcreate : createFailing (failure i) userId encryptionKey now (fresh i) data db =
      (.error (.conflict message), db')) :
    importEntryFailing failure userId encryptionKey now fresh counts (entry, i) db =
      (.ok { counts with skipped := counts.skipped + 1 }, db') := by
  rw [importEntryFailing, Handler.recover_ok_iff, hdata, Handler.ofExcept_ok_bind,
    Handler.bind_of_error hcreate]
  exact .inr ⟨.conflict message, db', rfl, rfl⟩

theorem importEntryFailing_of_error {e : Exception} (hdata : entryData entry = .ok data)
    (hcreate : createFailing (failure i) userId encryptionKey now (fresh i) data db =
      (.error e, db')) (hne : ∀ message, e ≠ .conflict message) :
    importEntryFailing failure userId encryptionKey now fresh counts (entry, i) db =
      (.error e, db') := by
  rw [importEntryFailing, Handler.recover_error_iff, hdata, Handler.ofExcept_ok_bind,
    Handler.bind_of_error hcreate]
  refine ⟨e, db', rfl, ?_⟩
  cases e with
  | conflict message => exact absurd rfl (hne message)
  | _ => rfl

end Body

/-- A declared entry that can be read is collected, unless the storage fails. -/
theorem importEntryFailing_of_read {entry : Json} (hdeclared : BackupEntry.Declared entry)
    {first : BackupEntry} (hread : BackupEntry.read entry = some first) {i : Nat}
    {counts : ImportResult} {db : Database} (hid : ∀ row ∈ db.accounts.rows, row.id ≠ (fresh i).id)
    (huser : (db.users.find? userId).isSome) :
    ∃ table,
      (∃ counts', importEntryFailing failure userId encryptionKey now fresh counts (entry, i) db =
          (.ok counts', Prisma.account.withTable db table) ∧
        table.rows = addNew Account.uniqueIndex db.accounts.rows
          (importedRow userId encryptionKey now (fresh i) first) ∧
        Counted 1 counts counts' db.accounts.rows table.rows) ∨
      ∃ e, importEntryFailing failure userId encryptionKey now fresh counts (entry, i) db =
          (.error e, Prisma.account.withTable db table) ∧ failure i ≠ none ∧
        (table.rows = db.accounts.rows ∨
          table.rows = addNew Account.uniqueIndex db.accounts.rows
            (importedRow userId encryptionKey now (fresh i) first)) := by
  obtain ⟨object, rfl, hnames⟩ := hdeclared
  obtain ⟨data, hdata, -⟩ := entryData_declared hnames
  have hcreate := @create_importedRow R object data userId encryptionKey now (fresh i) db hnames
    hdata first hread hid huser _ rfl
  generalize importedRow userId encryptionKey now (fresh i) first = row at hcreate ⊢
  rcases hcreate with ⟨hmem, hcreate⟩ | ⟨hnot, table, hcreate, hrows⟩
  · -- A duplicate is skipped, or the storage fails before it is seen.
    have hadd : db.accounts.rows = addNew Account.uniqueIndex db.accounts.rows row :=
      (addNew_of_mem hmem).symm
    have hskipped : createFailing (failure i) userId encryptionKey now (fresh i) data db =
        (.error duplicateAccount, db) ∨ failure i ≠ none ∧ ∃ e,
          createFailing (failure i) userId encryptionKey now (fresh i) data db =
            (.error e, db) ∧ ∀ message, e ≠ .conflict message := by
      cases failure i with
      | none => exact .inl hcreate
      | some fault =>
          cases hwritten : fault.written with
          | true =>
              left
              simp only [createFailing, hwritten, if_true]
              exact Handler.bind_of_error hcreate
          | false =>
              right
              refine ⟨by simp, fault.exception, ?_, fault.notConflict⟩
              simp only [createFailing, hwritten]
              rfl
    refine ⟨db.accounts, ?_⟩
    rcases hskipped with hskipped | ⟨hfailure, e, herror, hne⟩
    · exact .inl ⟨_, importEntryFailing_of_conflict hdata hskipped, hadd, ⟨by simp; omega, rfl⟩⟩
    · exact .inr ⟨e, importEntryFailing_of_error hdata herror hne, hfailure, .inl rfl⟩
  · have hadd : db.accounts.rows ++ [row] = addNew Account.uniqueIndex db.accounts.rows row :=
      (addNew_of_not_mem hnot).symm
    cases hfailure : failure i with
    | none =>
        have hrun : createFailing (failure i) userId encryptionKey now (fresh i) data db =
            (.ok row, Prisma.account.withTable db table) := by
          rw [hfailure]
          exact hcreate
        refine ⟨table, .inl ⟨_, importEntryFailing_of_ok hdata hrun, hrows.trans hadd, ?_, ?_⟩⟩
        · show counts.imported + 1 + counts.skipped = _
          omega
        · show counts.imported + 1 + _ = _
          rw [hrows, List.length_append, List.length_singleton]
          omega
    | some fault =>
        cases hwritten : fault.written with
        | true =>
            have hrun : createFailing (failure i) userId encryptionKey now (fresh i) data db =
                (.error fault.exception, Prisma.account.withTable db table) := by
              simp only [hfailure, createFailing, hwritten, if_true]
              exact Handler.bind_of_ok hcreate
            exact ⟨table, .inr ⟨_, importEntryFailing_of_error hdata hrun fault.notConflict,
              by simp, .inr (hrows.trans hadd)⟩⟩
        | false =>
            have hrun : createFailing (failure i) userId encryptionKey now (fresh i) data db =
                (.error fault.exception, db) := by
              simp only [hfailure, createFailing, hwritten]
              rfl
            exact ⟨db.accounts, .inr ⟨_, importEntryFailing_of_error hdata hrun fault.notConflict,
              by simp, .inl rfl⟩⟩

/-- A declared entry with a field of another type ends the loop. -/
theorem importEntryFailing_of_unreadable {entry : Json} (hdeclared : BackupEntry.Declared entry)
    (hread : BackupEntry.read entry = none) {i : Nat} {counts : ImportResult} {db : Database} :
    ∃ e, importEntryFailing failure userId encryptionKey now fresh counts (entry, i) db =
      (.error e, db) := by
  obtain ⟨object, rfl, hnames⟩ := hdeclared
  obtain ⟨data, hdata, -⟩ := entryData_declared hnames
  obtain ⟨e, hcreate, hne⟩ := @create_of_unreadable R object data userId encryptionKey now
    (fresh i) db hnames hdata hread
  have hfails : ∃ e, createFailing (failure i) userId encryptionKey now (fresh i) data db =
      (.error e, db) ∧ ∀ message, e ≠ .conflict message := by
    cases failure i with
    | none => exact ⟨e, hcreate, hne⟩
    | some fault =>
        cases hwritten : fault.written with
        | true =>
            refine ⟨e, ?_, hne⟩
            simp only [createFailing, hwritten, if_true]
            exact Handler.bind_of_error hcreate
        | false =>
            refine ⟨fault.exception, ?_, fault.notConflict⟩
            simp only [createFailing, hwritten]
            rfl
  obtain ⟨e, herror, hne⟩ := hfails
  exact ⟨e, importEntryFailing_of_error hdata herror hne⟩

theorem importedRows_cons (entry : BackupEntry) (entries : List BackupEntry) (start : Nat) :
    importedRows userId encryptionKey now fresh (entry :: entries) start =
      importedRow userId encryptionKey now (fresh start) entry ::
        importedRows userId encryptionKey now fresh entries (start + 1) := by
  rw [importedRows, List.zipIdx_cons]
  rfl

/-- The loop collects the entries it has handled. It stops at a failure of the
storage or at the first entry that cannot be read. -/
theorem import_collects (hinjective : Function.Injective fun i => (fresh i).id)
    {entries : List Json} (hdeclared : ∀ entry ∈ entries, BackupEntry.Declared entry) {start : Nat}
    {counts : ImportResult} {db : Database}
    (hunused : ∀ row ∈ db.accounts.rows, ∀ i, start ≤ i → row.id ≠ (fresh i).id)
    (huser : (db.users.find? userId).isSome) :
    ∃ result table handled, (entries.zipIdx start).foldlM
        (importEntryFailing failure userId encryptionKey now fresh) counts db =
        (result, Prisma.account.withTable db table) ∧
      handled <+: BackupEntry.readable entries ∧
      table.rows = collect Account.uniqueIndex db.accounts.rows
        (importedRows userId encryptionKey now fresh handled start) ∧
      ((∃ counts', result = .ok counts' ∧ handled.length = entries.length ∧
          Counted entries.length counts counts' db.accounts.rows table.rows) ∨
        ∃ e, result = .error e ∧ ((∀ i, failure i = none) →
          handled = BackupEntry.readable entries ∧ handled.length ≠ entries.length)) := by
  induction entries generalizing start counts db with
  | nil =>
      exact ⟨.ok counts, db.accounts, [], rfl, List.prefix_refl _, rfl,
        .inl ⟨counts, rfl, rfl, Counted.refl counts _⟩⟩
  | cons entry entries ih =>
      rw [List.zipIdx_cons, List.foldlM_cons]
      have hentry := hdeclared entry List.mem_cons_self
      cases hread : BackupEntry.read entry with
      | none =>
          -- An unreadable entry throws before its insert and ends the import.
          obtain ⟨e, herror⟩ := importEntryFailing_of_unreadable hentry hread
          refine ⟨.error e, db.accounts, [], Handler.bind_of_error herror, List.nil_prefix, rfl,
            .inr ⟨e, rfl, fun _ => ⟨?_, by simp⟩⟩⟩
          rw [BackupEntry.readable, hread]
      | some first =>
          have hreadable : BackupEntry.readable (entry :: entries) =
              first :: BackupEntry.readable entries := by
            rw [BackupEntry.readable, hread]
          obtain ⟨table, ⟨counts', hok, hrows, hcounted⟩ | ⟨e, herror, hfailure, hrows⟩⟩ :=
            @importEntryFailing_of_read R failure userId encryptionKey now fresh entry hentry first
              hread start counts db (fun row hrow => hunused row hrow start le_rfl) huser
          · have hunused' : ∀ row ∈ table.rows, ∀ i, start + 1 ≤ i → row.id ≠ (fresh i).id := by
              intro row hrow i hi
              rcases mem_of_mem_addNew (hrows ▸ hrow) with hold | rfl
              · exact hunused row hold i (Nat.le_of_succ_le hi)
              · exact fun hid => absurd (hinjective hid) (by omega)
            obtain ⟨result, table', handled, hloop, hinitial, hrows', houtcome⟩ :=
              @ih (fun other hother => hdeclared other (List.mem_cons_of_mem _ hother)) (start + 1)
                counts' (Prisma.account.withTable db table) hunused' huser
            refine ⟨result, table', first :: handled, (Handler.bind_of_ok hok).trans hloop, ?_, ?_, ?_⟩
            · rw [hreadable]
              exact List.cons_prefix_cons.mpr ⟨rfl, hinitial⟩
            · rw [hrows', importedRows_cons, collect_cons, ← hrows]
              rfl
            · rcases houtcome with ⟨counts'', hresult, hlength, hrest⟩ | ⟨e, hresult, hstop⟩
              · refine .inl ⟨counts'', hresult, ?_, hcounted.cons hrest⟩
                rw [List.length_cons, List.length_cons, hlength]
              · refine .inr ⟨e, hresult, fun hnone => ?_⟩
                obtain ⟨hhandled, hne⟩ := hstop hnone
                rw [hreadable, hhandled]
                refine ⟨rfl, ?_⟩
                rw [List.length_cons, List.length_cons, ← hhandled]
                omega
          · -- The storage failed here, before or after it wrote the row of the entry.
            have hstop : (∀ i, failure i = none) → False := fun hnone => hfailure (hnone start)
            rcases hrows with hrows | hrows
            · exact ⟨.error e, table, [], Handler.bind_of_error herror, List.nil_prefix, hrows,
                .inr ⟨e, rfl, fun hnone => (hstop hnone).elim⟩⟩
            · refine ⟨.error e, table, [first], Handler.bind_of_error herror, ?_, hrows,
                .inr ⟨e, rfl, fun hnone => (hstop hnone).elim⟩⟩
              rw [hreadable]
              exact List.cons_prefix_cons.mpr ⟨rfl, List.nil_prefix⟩

end Loop

/-! ## The vault after an import -/

section Vault

variable {userId : String} {encryptionKey : R.Key} {now : Int} {fresh : Nat → FreshAccount R}
  {db : Database} {table : Table Account} {handled : List BackupEntry} {start : Nat}

theorem mem_importedRows {row : Account}
    (hrow : row ∈ importedRows userId encryptionKey now fresh handled start) :
    row.userId = userId := by
  obtain ⟨_, -, rfl⟩ := List.mem_map.mp hrow
  rfl

/-- The index entries of the imported rows depend on the entries only. -/
theorem importedRows_index : (importedRows userId encryptionKey now fresh handled start).map
    Account.uniqueIndex = handled.map fun entry => (userId, entry.login) := by
  induction handled generalizing start with
  | nil => rfl
  | cons entry handled ih =>
      rw [importedRows_cons, List.map_cons, List.map_cons, ih]
      rfl

/-- The rows of the user after an import that has handled the entries. -/
theorem vault_collect (hrows : table.rows = collect Account.uniqueIndex db.accounts.rows
      (importedRows userId encryptionKey now fresh handled start)) :
    vault (Prisma.account.withTable db table) userId = collect Account.uniqueIndex
      (vault db userId) (importedRows userId encryptionKey now fresh handled start) := by
  have hselect : ∀ row other : Account, True → True → row.uniqueIndex = other.uniqueIndex →
      decide (row.userId = userId) = decide (other.userId = userId) := by
    intro row other _ _ hindex
    rw [show row.userId = other.userId from congrArg Prod.fst hindex]
  have howned : (importedRows userId encryptionKey now fresh handled start).filter
      (fun row => row.userId = userId) =
        importedRows userId encryptionKey now fresh handled start := by
    apply List.filter_eq_self.mpr
    intro row hrow
    exact decide_eq_true (mem_importedRows hrow)
  show table.rows.filter _ = _
  rw [hrows, filter_collect hselect (fun _ _ => trivial) (fun _ _ => trivial), howned]
  rfl

/-- The rows that an import makes read as the entries. -/
theorem vaultEntry_importedRows (haes : R.AesGcmLaws) :
    (importedRows userId encryptionKey now fresh handled start).map (vaultEntry encryptionKey) =
      handled.map BackupEntry.content := by
  induction handled generalizing start with
  | nil => rfl
  | cons entry handled ih =>
      rw [importedRows_cons, List.map_cons, List.map_cons, ih]
      congr 1
      rw [vaultEntry, importedRow, haes.decrypt_encrypt]
      rfl

/-- An import collects the contents of the entries in the vault. -/
theorem vaultEntry_collect (haes : R.AesGcmLaws)
    (hrows : table.rows = collect Account.uniqueIndex db.accounts.rows
      (importedRows userId encryptionKey now fresh handled start)) :
    (vault (Prisma.account.withTable db table) userId).map (vaultEntry encryptionKey) =
      collect VaultEntry.login ((vault db userId).map (vaultEntry encryptionKey))
        (handled.map BackupEntry.content) := by
  rw [vault_collect hrows, ← @vaultEntry_importedRows R userId encryptionKey now fresh handled
    start haes]
  have hseparates : ∀ row other : Account, row.userId = userId → other.userId = userId →
      ((vaultEntry encryptionKey row).login = (vaultEntry encryptionKey other).login ↔
        row.uniqueIndex = other.uniqueIndex) := by
    intro row other hrow hother
    simp [VaultEntry.login, vaultEntry, Account.uniqueIndex, hrow, hother]
  apply map_collect hseparates
  · intro row hrow
    simpa [vault] using (List.mem_filter.mp hrow).2
  · exact fun row hrow => mem_importedRows hrow

end Vault

/-! ## What an import leaves in the database -/

/-- No row is changed or removed: accounts are added at most. -/
structure OnlyAdds (db db' : Database) : Prop where
  elsewhere : db' = Prisma.account.withTable db db'.accounts
  kept : db.accounts.rows <+: db'.accounts.rows

theorem OnlyAdds.refl (db : Database) : OnlyAdds db db :=
  ⟨rfl, List.prefix_refl _⟩

theorem OnlyAdds.trans (a b c : Database) (hab : OnlyAdds a b) (hbc : OnlyAdds b c) :
    OnlyAdds a c where
  elsewhere := by
    rw [hbc.elsewhere, hab.elsewhere]
    rfl
  kept := hab.kept.trans hbc.kept

theorem create_onlyAdds (userId : String) (encryptionKey : R.Key) (now : Int)
    (fresh : FreshAccount R) (data : JsObject) :
    Handler.Keeps OnlyAdds (create userId encryptionKey now fresh data) := by
  intro db
  rcases hrun : create userId encryptionKey now fresh data db with ⟨e | row, db'⟩
  · rw [create_error hrun]
    exact OnlyAdds.refl db
  · obtain ⟨-, -, -, hcreate⟩ := create_ok_iff.mp hrun
    obtain ⟨-, -, table, hinsert, rfl⟩ := (Model.create_ok_iff _).mp hcreate
    refine ⟨rfl, ?_⟩
    show db.accounts.rows <+: table.rows
    rw [(Table.insert?_eq_some_iff.mp hinsert).2]
    exact List.prefix_append _ _

theorem createFailing_onlyAdds (failure : Option StorageFailure) (userId : String)
    (encryptionKey : R.Key) (now : Int) (fresh : FreshAccount R) (data : JsObject) :
    Handler.Keeps OnlyAdds (createFailing failure userId encryptionKey now fresh data) := by
  have hcreate := create_onlyAdds userId encryptionKey now fresh data
  cases failure with
  | none => exact hcreate
  | some fault =>
      cases hwritten : fault.written with
      | true =>
          simp only [createFailing, hwritten, if_true]
          apply Handler.keeps_bind OnlyAdds.trans hcreate
          exact fun _ _ s _ => OnlyAdds.refl s
      | false =>
          simp only [createFailing, hwritten]
          exact fun s => OnlyAdds.refl s

/-- An import only adds rows, whatever the file and whenever it stops. -/
theorem importAccountsFailing_onlyAdds (failure : Nat → Option StorageFailure) (userId : String)
    (encryptionKey : R.Key) (now : Int) (fresh : Nat → FreshAccount R)
    (exportPassword : Option String) (file : BackupFile) :
    Handler.Keeps OnlyAdds
      (importAccountsFailing failure userId encryptionKey now fresh exportPassword file) := by
  have hopen : Handler.Keeps OnlyAdds
      (Handler.ofExcept (σ := Database) (openBackup (R := R) exportPassword file)) :=
    fun s => OnlyAdds.refl s
  apply Handler.keeps_bind OnlyAdds.trans hopen
  intro entries _ s _
  apply Handler.keeps_foldlM OnlyAdds.refl OnlyAdds.trans
  intro counts entry _
  apply Handler.keeps_recover OnlyAdds.trans
  · apply Handler.keeps_bind OnlyAdds.trans fun s => OnlyAdds.refl s
    intro data _ s _
    apply Handler.keeps_bind OnlyAdds.trans (createFailing_onlyAdds _ _ _ _ _ _)
    exact fun _ _ s _ => OnlyAdds.refl s
  · intro e s
    cases e <;> exact OnlyAdds.refl s

section Runs

variable {userId : String} {encryptionKey : R.Key} {exportPassword : Option String}
  {file : BackupFile} {entries : List Json} {db : Database}

/-- The login has one row: the one the vault had, or else the first entry of the
file with this login. -/
def KeepsFirst (encryptionKey : R.Key) (userId : String) (entries : List BackupEntry)
    (db db' : Database) (login : String × String) : Prop :=
  ∃ row ∈ vault db' userId, row.login = login ∧
    (∀ other ∈ vault db' userId, other.login = login → other = row) ∧
    (row ∈ vault db userId ∨
      (∀ other ∈ vault db userId, other.login ≠ login) ∧
        (entries.find? fun entry => entry.login = login).map BackupEntry.content =
          some (vaultEntry encryptionKey row))

/-- The rows of a vault have different logins. -/
theorem vault_eq_of_login {row other : Account} (hrow : row ∈ vault db userId)
    (hother : other ∈ vault db userId) (hlogin : row.login = other.login) : row = other := by
  obtain ⟨hrow, huser⟩ := List.mem_filter.mp hrow
  obtain ⟨hother, huser'⟩ := List.mem_filter.mp hother
  refine db.accounts.eq_of_clash hrow hother (.inr ?_)
  show (row.userId, row.login) = (other.userId, other.login)
  rw [hlogin, of_decide_eq_true huser, of_decide_eq_true huser']

theorem keepsFirst_of_collect {db' : Database} {entries : List BackupEntry}
    (honlyAdds : OnlyAdds db db')
    (hvault : (vault db' userId).map (vaultEntry encryptionKey) = collect VaultEntry.login
      ((vault db userId).map (vaultEntry encryptionKey)) (entries.map BackupEntry.content))
    {entry : BackupEntry} (hentry : entry ∈ entries) :
    KeepsFirst encryptionKey userId entries db db' entry.login := by
  have hmem : entry.login ∈ ((vault db' userId).map (vaultEntry encryptionKey)).map
      VaultEntry.login := by
    rw [hvault, mem_map_collect]
    exact .inr (List.mem_map.mpr ⟨entry.content, List.mem_map_of_mem hentry, rfl⟩)
  rw [List.map_map] at hmem
  obtain ⟨row, hrow, hlogin⟩ := List.mem_map.mp hmem
  have hunique : ∀ other ∈ vault db' userId, other.login = entry.login → other = row :=
    fun other hother hlogin' => vault_eq_of_login hother hrow (hlogin'.trans hlogin.symm)
  refine ⟨row, hrow, hlogin, hunique, ?_⟩
  by_cases hold : row ∈ vault db userId
  · exact .inl hold
  · right
    have hnone : ∀ other ∈ vault db userId, other.login ≠ entry.login := by
      intro other hother hlogin'
      have hkept : other ∈ vault db' userId := (honlyAdds.kept.filter _).subset hother
      rw [hunique other hkept hlogin'] at hother
      exact hold hother
    refine ⟨hnone, ?_⟩
    have hfound : (vault db' userId).find? ((fun view => decide (view.login = entry.login)) ∘
        vaultEntry encryptionKey) = some row := by
      have hsome : ((vault db' userId).find? ((fun view => decide (view.login = entry.login)) ∘
          vaultEntry encryptionKey)).isSome := by
        rw [List.find?_isSome]
        exact ⟨row, hrow, decide_eq_true hlogin⟩
      obtain ⟨other, hother⟩ := Option.isSome_iff_exists.mp hsome
      have hselected := List.find?_some hother
      rw [hother, hunique other (List.mem_of_find?_eq_some hother) (of_decide_eq_true hselected)]
    have hbefore : (vault db userId).find? ((fun view => decide (view.login = entry.login)) ∘
        vaultEntry encryptionKey) = none := by
      apply List.find?_eq_none.mpr
      intro other hother hlogin'
      exact hnone other hother (of_decide_eq_true hlogin')
    have hcollect := @find?_collect VaultEntry _ _ VaultEntry.login
      ((vault db userId).map (vaultEntry encryptionKey)) (entries.map BackupEntry.content)
      entry.login
    rw [← hvault, List.find?_map, List.find?_map, List.find?_map, hfound, hbefore] at hcollect
    exact hcollect.symm

/-- An import that returned has handled every entry of the file. -/
theorem read_of_readable_length {entries : List Json}
    (hlength : (BackupEntry.readable entries).length = entries.length) :
    ∀ entry ∈ entries, ∃ first ∈ BackupEntry.readable entries,
      BackupEntry.read entry = some first := by
  induction entries with
  | nil => simp
  | cons entry entries ih =>
      cases hread : BackupEntry.read entry with
      | none => simp [BackupEntry.readable, hread] at hlength
      | some first =>
          have hreadable : BackupEntry.readable (entry :: entries) =
              first :: BackupEntry.readable entries := by
            rw [BackupEntry.readable, hread]
          rw [hreadable] at hlength ⊢
          intro other hother
          rcases List.mem_cons.mp hother with rfl | hother
          · exact ⟨first, List.mem_cons_self, hread⟩
          · obtain ⟨found, hfound, hread'⟩ := ih (Nat.succ.inj hlength) other hother
            exact ⟨found, List.mem_cons_of_mem _ hfound, hread'⟩

theorem readable_length_le (entries : List Json) :
    (BackupEntry.readable entries).length ≤ entries.length := by
  induction entries with
  | nil => simp [BackupEntry.readable]
  | cons entry entries ih =>
      rw [BackupEntry.readable]
      split
      · exact Nat.succ_le_succ ih
      · exact Nat.zero_le _

/-- What an import of the declared entries of an opened file does. -/
theorem importAccountsFailing_collects {failure : Nat → Option StorageFailure} {now : Int}
    {fresh : Nat → FreshAccount R} (hopen : openBackup (R := R) exportPassword file = .ok entries)
    (hdeclared : ∀ entry ∈ entries, BackupEntry.Declared entry)
    (huser : (db.users.find? userId).isSome) (hfresh : FreshIds fresh db) :
    ∃ result table handled,
      importAccountsFailing failure userId encryptionKey now fresh exportPassword file db =
        (result, Prisma.account.withTable db table) ∧
      handled <+: BackupEntry.readable entries ∧
      table.rows = collect Account.uniqueIndex db.accounts.rows
        (importedRows userId encryptionKey now fresh handled 0) ∧
      ((∃ counts, result = .ok counts ∧ handled = BackupEntry.readable entries ∧
          handled.length = entries.length ∧
          Counted entries.length ⟨0, 0⟩ counts db.accounts.rows table.rows) ∨
        ∃ e, result = .error e ∧ ((∀ i, failure i = none) →
          handled = BackupEntry.readable entries ∧ handled.length ≠ entries.length)) := by
  obtain ⟨result, table, handled, hloop, hinitial, hrows, houtcome⟩ :=
    @import_collects R failure userId encryptionKey now fresh hfresh.injective entries hdeclared 0
      ⟨0, 0⟩ db (fun row hrow i _ => hfresh.unused row hrow i) huser
  refine ⟨result, table, handled, ?_, hinitial, hrows, ?_⟩
  · rw [importAccountsFailing, hopen, Handler.ofExcept_ok_bind, hloop]
  · rcases houtcome with ⟨counts, hresult, hlength, hcounted⟩ | hstop
    · have hle := readable_length_le entries
      exact .inl ⟨counts, hresult, hinitial.eq_of_length_le (by omega), hlength, hcounted⟩
    · exact .inr hstop

/-- An import that returned has one row for each login of the file, and a second
one skips every entry. -/
theorem importAccounts_returned (haes : R.AesGcmLaws)
    (hopen : openBackup (R := R) exportPassword file = .ok entries)
    (hdeclared : ∀ entry ∈ entries, BackupEntry.Declared entry)
    (huser : (db.users.find? userId).isSome) {now now' : Int} {fresh fresh' : Nat → FreshAccount R}
    {counts : ImportResult} {db' : Database} (hfresh : FreshIds fresh db)
    (hrun : importAccounts userId encryptionKey now fresh exportPassword file db =
      (.ok counts, db')) :
    counts.imported + counts.skipped = entries.length ∧
    (∀ entry ∈ entries, ∃ first, BackupEntry.read entry = some first ∧
      KeepsFirst encryptionKey userId (BackupEntry.readable entries) db db' first.login) ∧
    (FreshIds fresh' db' →
      importAccounts userId encryptionKey now' fresh' exportPassword file db' =
        (.ok ⟨0, entries.length⟩, db')) := by
  have honlyAdds := importAccountsFailing_onlyAdds (fun _ => none) userId encryptionKey now fresh
    exportPassword file db
  rw [importAccountsFailing_none, hrun] at honlyAdds
  obtain ⟨result, table, handled, hcollects, -, hrows, houtcome⟩ :=
    @importAccountsFailing_collects R userId encryptionKey exportPassword file entries db
      (fun _ => none) now fresh hopen hdeclared huser hfresh
  rw [importAccountsFailing_none, hrun] at hcollects
  obtain ⟨rfl, rfl⟩ := Prod.mk.inj hcollects
  obtain ⟨counts', hresult, rfl, hlength, hcounted⟩ | ⟨e, hresult, -⟩ := houtcome
  swap
  · contradiction
  obtain rfl := Except.ok.inj hresult
  refine ⟨?_, ?_, ?_⟩
  · simpa using hcounted.total
  · intro entry hentry
    obtain ⟨first, hfirst, hread⟩ := read_of_readable_length hlength entry hentry
    exact ⟨first, hread, keepsFirst_of_collect honlyAdds (vaultEntry_collect haes hrows) hfirst⟩
  · intro hfresh'
    obtain ⟨result, table', handled', hagain, -, hrows', houtcome⟩ :=
      @importAccountsFailing_collects R userId encryptionKey exportPassword file entries
        (Prisma.account.withTable db table) (fun _ => none) now' fresh' hopen hdeclared huser hfresh'
    obtain ⟨counts', rfl, rfl, -, hcounted'⟩ | ⟨e, rfl, hstop⟩ := houtcome
    · -- Every key is present, so the table stays and every entry is skipped.
      have hsame : table'.rows = table.rows := by
        refine hrows'.trans (collect_of_mem ?_)
        intro row hrow
        show row.uniqueIndex ∈ table.rows.map Account.uniqueIndex
        rw [hrows, mem_map_collect, importedRows_index]
        right
        rw [← @importedRows_index R userId encryptionKey now' fresh' _ 0]
        exact List.mem_map_of_mem hrow
      rw [importAccountsFailing_none] at hagain
      rw [hagain]
      have himported : counts'.imported + table.rows.length = 0 + table'.rows.length :=
        hcounted'.added
      have htotal : counts'.imported + counts'.skipped = 0 + 0 + entries.length :=
        hcounted'.total
      obtain ⟨imported, skipped⟩ := counts'
      rw [hsame] at himported
      obtain rfl : imported = 0 := by simpa using himported
      obtain rfl : skipped = entries.length := by simpa using htotal
      rw [Table.ext hsame]
      rfl
    · obtain ⟨rfl, hne⟩ := hstop fun _ => rfl
      exact absurd hlength hne

/-- An import on a storage that does not fail handles the entries before the
first one that cannot be read. -/
theorem importAccounts_collects (haes : R.AesGcmLaws) {now : Int} {fresh : Nat → FreshAccount R}
    (hopen : openBackup (R := R) exportPassword file = .ok entries)
    (hdeclared : ∀ entry ∈ entries, BackupEntry.Declared entry)
    (huser : (db.users.find? userId).isSome) (hfresh : FreshIds fresh db) :
    let run := importAccounts userId encryptionKey now fresh exportPassword file db
    (vault run.2 userId).map (vaultEntry encryptionKey) = collect VaultEntry.login
        ((vault db userId).map (vaultEntry encryptionKey))
        ((BackupEntry.readable entries).map BackupEntry.content) ∧
      run.1.isOk = decide ((BackupEntry.readable entries).length = entries.length) := by
  obtain ⟨result, table, handled, hrun, -, hrows, houtcome⟩ :=
    @importAccountsFailing_collects R userId encryptionKey exportPassword file entries db
      (fun _ => none) now fresh hopen hdeclared huser hfresh
  rw [importAccountsFailing_none] at hrun
  intro run
  have hrun : run = (result, Prisma.account.withTable db table) := hrun
  rw [hrun]
  obtain ⟨counts, rfl, rfl, hlength, -⟩ | ⟨e, rfl, hstop⟩ := houtcome
  · exact ⟨vaultEntry_collect haes hrows, (decide_eq_true hlength).symm⟩
  · obtain ⟨rfl, hne⟩ := hstop fun _ => rfl
    exact ⟨vaultEntry_collect haes hrows, (decide_eq_false hne).symm⟩

/-- An import that is started again after a stop ends as one without a stop. -/
theorem importAccounts_restarted (haes : R.AesGcmLaws)
    (hopen : openBackup (R := R) exportPassword file = .ok entries)
    (hdeclared : ∀ entry ∈ entries, BackupEntry.Declared entry)
    (huser : (db.users.find? userId).isSome) {failure : Nat → Option StorageFailure}
    {now now' now'' : Int} {fresh fresh' fresh'' : Nat → FreshAccount R} {stopped : Database}
    {result : Except Exception ImportResult} (hfresh : FreshIds fresh db)
    (hrun : importAccountsFailing failure userId encryptionKey now fresh exportPassword file db =
      (result, stopped))
    (hfresh' : FreshIds fresh' stopped) (hfresh'' : FreshIds fresh'' db) :
    let again := importAccounts userId encryptionKey now' fresh' exportPassword file stopped
    let once := importAccounts userId encryptionKey now'' fresh'' exportPassword file db
    (vault again.2 userId).map (vaultEntry encryptionKey) =
        (vault once.2 userId).map (vaultEntry encryptionKey) ∧
      again.1.isOk = once.1.isOk := by
  obtain ⟨_, table, handled, hstopped, hinitial, hrows, -⟩ :=
    @importAccountsFailing_collects R userId encryptionKey exportPassword file entries db
      failure now fresh hopen hdeclared huser hfresh
  obtain ⟨-, rfl⟩ := Prod.mk.inj (hrun.symm.trans hstopped)
  obtain ⟨hagain, hagainOk⟩ := @importAccounts_collects R userId encryptionKey exportPassword file
    entries (Prisma.account.withTable db table) haes now' fresh' hopen hdeclared huser hfresh'
  obtain ⟨honce, honceOk⟩ := @importAccounts_collects R userId encryptionKey exportPassword file
    entries db haes now'' fresh'' hopen hdeclared huser hfresh''
  refine ⟨?_, hagainOk.trans honceOk.symm⟩
  calc (vault _ userId).map (vaultEntry encryptionKey)
      = collect VaultEntry.login
          ((vault (Prisma.account.withTable db table) userId).map (vaultEntry encryptionKey))
          ((BackupEntry.readable entries).map BackupEntry.content) := hagain
    _ = collect VaultEntry.login ((vault db userId).map (vaultEntry encryptionKey))
          ((BackupEntry.readable entries).map BackupEntry.content) := by
        rw [vaultEntry_collect haes hrows]
        exact collect_restart (hinitial.map BackupEntry.content)
    _ = _ := honce.symm

/-- The import of the entries of a file into the vault of a user: what it keeps,
what it has done when it returns, and what a stop leaves to be done. -/
structure ImportsSafely (userId : String) (encryptionKey : R.Key)
    (exportPassword : Option String) (file : BackupFile) (entries : List Json) (db : Database) :
    Prop where
  onlyAdds : ∀ failure now (fresh : Nat → FreshAccount R), OnlyAdds db
    (importAccountsFailing failure userId encryptionKey now fresh exportPassword file db).2
  returned : ∀ now (fresh : Nat → FreshAccount R) counts db', FreshIds fresh db →
    importAccounts userId encryptionKey now fresh exportPassword file db = (.ok counts, db') →
      counts.imported + counts.skipped = entries.length ∧
      (∀ entry ∈ entries, ∃ first, BackupEntry.read entry = some first ∧
        KeepsFirst encryptionKey userId (BackupEntry.readable entries) db db' first.login) ∧
      ∀ now' (fresh' : Nat → FreshAccount R), FreshIds fresh' db' →
        importAccounts userId encryptionKey now' fresh' exportPassword file db' =
          (.ok ⟨0, entries.length⟩, db')
  restarted : ∀ failure now (fresh : Nat → FreshAccount R) e stopped, FreshIds fresh db →
    importAccountsFailing failure userId encryptionKey now fresh exportPassword file db =
        (.error e, stopped) →
      ∀ now' now'' (fresh' fresh'' : Nat → FreshAccount R), FreshIds fresh' stopped →
        FreshIds fresh'' db →
        let again := importAccounts userId encryptionKey now' fresh' exportPassword file stopped
        let once := importAccounts userId encryptionKey now'' fresh'' exportPassword file db
        (vault again.2 userId).map (vaultEntry encryptionKey) =
            (vault once.2 userId).map (vaultEntry encryptionKey) ∧
          again.1.isOk = once.1.isOk

/-- An import can be repeated, and started again after a stop. -/
theorem importsSafely (haes : R.AesGcmLaws)
    (hopen : openBackup (R := R) exportPassword file = .ok entries)
    (hdeclared : ∀ entry ∈ entries, BackupEntry.Declared entry)
    (huser : (db.users.find? userId).isSome) :
    ImportsSafely userId encryptionKey exportPassword file entries db where
  onlyAdds failure now fresh :=
    importAccountsFailing_onlyAdds failure userId encryptionKey now fresh exportPassword file db
  returned now fresh counts db' hfresh hrun := by
    have hreturned : ∀ now' (fresh' : Nat → FreshAccount R), _ := fun now' fresh' =>
      @importAccounts_returned R userId encryptionKey exportPassword file entries db haes hopen
        hdeclared huser now now' fresh fresh' counts db' hfresh hrun
    obtain ⟨htotal, hkeeps, -⟩ := hreturned now fresh
    exact ⟨htotal, hkeeps, fun now' fresh' => (hreturned now' fresh').2.2⟩
  restarted failure now fresh e stopped hfresh hrun now' now'' fresh' fresh'' hfresh' hfresh'' :=
    importAccounts_restarted haes hopen hdeclared huser hfresh hrun hfresh' hfresh''

end Runs

namespace RepeatedImport

/-- Two entries of one login. -/
def entries : List Json :=
  [.obj PlainBackup.body, .obj (("memo", .null) :: PlainBackup.body)]

def file : BackupFile :=
  backupFile (R := symbolicRuntime) "export-password" 2 PlainBackup.drawn entries

end RepeatedImport

open RepeatedImport in
/-- A file with a repeated login, imported into an empty vault. -/
theorem importsSafely_example :
    ImportsSafely (R := symbolicRuntime) "u" PlainBackup.ownerKey (some "export-password") file
      entries PlainBackup.users := by
  apply importsSafely symbolicRuntime.aesGcmLaws
  · exact openBackup_backupFile symbolicRuntime.aesGcmLaws symbolicRuntime.jsonRoundTrip entries
  · intro entry hentry
    rcases List.mem_cons.mp hentry with rfl | hentry
    · exact ⟨_, rfl, by decide⟩
    · rw [List.mem_singleton.mp hentry]
      exact ⟨_, rfl, by decide⟩
  · decide +kernel

end AccountsService

end MyAccountController
