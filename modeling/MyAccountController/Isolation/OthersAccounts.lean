import MyAccountController.Accounts.VaultOperations
import MyAccountController.Isolation.OthersRows

/-! # Account requests and the accounts of other users

The owner of an account is a column like any other to Prisma, and the body of a
request is spread into the data object. A creation or an update leaves the rows
of other users alone if and only if it is refused, or names no other owner. An
update may also carry a nested write of the relation `user`. If this connects the
account to an owner, that must be the user too; what any other nested write
reaches is decided by Prisma.
-/

namespace MyAccountController

open Foundation Database

variable {R : Runtime}

namespace AccountsService

/-- The body names no owner but the user. -/
def NamesOwner (userId : String) (body : JsObject) : Prop :=
  ∀ value ∈ body.get "userId", value = .str userId

/-- The body sets no owner but the user, as a value or as `{ set: value }`. -/
def SetsOwner (userId : String) (body : JsObject) : Prop :=
  ∀ value ∈ body.get "userId", AccountInput.setOperand value = .str userId

/-- Prisma accepts the data object of a creation, and the table takes the row. -/
def AcceptsCreate (userId : String) (encryptionKey : R.Key) (now : Int) (fresh : FreshAccount R)
    (body : JsObject) (db : Database) : Prop :=
  ∃ plaintext row table, body.get "password" = some (.str plaintext) ∧
    AccountInput.account R now fresh.id
      (createData userId body (R.encrypt plaintext encryptionKey fresh.iv)) = .ok row ∧
    Prisma.account.references db row = true ∧ db.accounts.insert? row = some table

/-- The account is the user's, Prisma accepts the data object of an update of its columns, and the
table takes the new row. -/
def AcceptsUpdate (userId id : String) (encryptionKey : R.Key) (now : Int) (iv : R.Iv)
    (body : JsObject) (db : Database) : Prop :=
  body.get "user" = none ∧
    ∃ before columns changes table, db.accounts.find? id = some before ∧ before.userId = userId ∧
      updateData body encryptionKey iv = .ok columns ∧
      AccountInput.changes R columns = .ok changes ∧
      Prisma.account.references db (changes.apply now before) = true ∧
      db.accounts.replace? id (changes.apply now) = some table

/-- The owner that a nested write connects an account to. -/
def connectedUser : Json → Option String
  | .obj [("connect", .obj [("id", .str owner)])] => some owner
  | _ => none

/-- If the account is the user's, Prisma accepts the data object of an update with a nested write of
`user`, and its transaction succeeds, then this connects the account to the user, or is another
nested write that Prisma keeps away from the rows of other users. -/
def NestedWriteKeepsToOwn (userId id : String) (encryptionKey : R.Key) (now : Int) (iv : R.Iv)
    (body : JsObject) (db : Database) : Prop :=
  ∀ write ∈ body.get "user", ∀ before columns changes row db',
    db.accounts.find? id = some before → before.userId = userId →
      updateData body encryptionKey iv = .ok columns → AccountInput.changes R columns = .ok changes →
        R.updateWithUser write (changes.apply now) id db = .ok (row, db') →
          match connectedUser write with
          | some owner => owner = userId
          | none => SameForOthers userId db db'

section Writes

variable {userId id : String} {encryptionKey : R.Key} {now : Int} {body : JsObject}
  {db : Database}

/-- The owner of an accepted row is the one the body names, or the user. -/
theorem namesOwner_iff {fresh : FreshAccount R} {payload : String} {row : Account}
    (haccount : AccountInput.account R now fresh.id (createData userId body payload) = .ok row) :
    NamesOwner userId body ↔ row.userId = userId := by
  obtain ⟨-, -, howner, -⟩ := AccountInput.account_ok_iff.mp haccount
  rw [createData, JsObject.get_spread, JsObject.get_spread,
    JsObject.get_cons_of_ne (by decide), JsObject.get_nil, Option.none_or,
    JsObject.get_without_of_ne _ (by decide)] at howner
  unfold NamesOwner
  cases hbody : body.get "userId" with
  | none =>
      rw [hbody] at howner
      exact iff_of_true (by simp) (Json.str.inj (Option.some.inj howner)).symm
  | some value =>
      rw [hbody] at howner
      obtain rfl : value = .str row.userId := Option.some.inj howner
      simp

/-- The owner of an updated row is the one the body sets, or the one it had. -/
theorem setsOwner_iff {iv : R.Iv} {columns : JsObject} {changes : AccountInput.Changes}
    (hcolumns : updateData body encryptionKey iv = .ok columns)
    (hchanges : AccountInput.changes R columns = .ok changes) {before : Account}
    (huser : before.userId = userId) :
    SetsOwner userId body ↔ (changes.apply now before).userId = userId := by
  obtain ⟨-, -, howner, -⟩ := AccountInput.changes_ok_iff.mp hchanges
  have happly : (changes.apply now before).userId = changes.userId.getD userId := by
    rw [← huser]
    rfl
  unfold AccountInput.textUpdate at howner
  rw [updateData_get hcolumns (by decide) (by decide)] at howner
  rw [happly]
  unfold SetsOwner
  cases hbody : body.get "userId" with
  | none =>
      rw [hbody] at howner
      rw [← Except.ok.inj howner]
      simp
  | some value =>
      rw [hbody, Option.map_some] at howner
      cases hvalue : AccountInput.setOperand value with
      | str owner =>
          rw [hvalue] at howner
          rw [← Except.ok.inj howner]
          simp [hvalue]
      | _ =>
          rw [hvalue] at howner
          contradiction

theorem create_sameForOthers_iff {fresh : FreshAccount R} :
    SameForOthers userId db (create userId encryptionKey now fresh body db).2 ↔
      (AcceptsCreate userId encryptionKey now fresh body db → NamesOwner userId body) := by
  rcases hrun : create userId encryptionKey now fresh body db with ⟨e | row, db'⟩
  · obtain rfl := create_error hrun
    refine iff_of_true (.refl userId db') ?_
    rintro ⟨plaintext, row, table, hpassword, haccount, hreferences, hinsert⟩
    have hcreate : Prisma.account.create row db' = (.ok row, _) :=
      (Model.create_ok_iff _).mpr ⟨rfl, hreferences, table, hinsert, rfl⟩
    rw [create_ok_iff.mpr ⟨plaintext, hpassword, haccount, hcreate⟩] at hrun
    exact absurd (congrArg Prod.fst hrun) (by simp)
  · obtain ⟨plaintext, hpassword, haccount, hcreate⟩ := create_ok_iff.mp hrun
    obtain ⟨-, hreferences, table, hinsert, rfl⟩ := (Model.create_ok_iff _).mp hcreate
    have haccepts : AcceptsCreate userId encryptionKey now fresh body db :=
      ⟨plaintext, row, table, hpassword, haccount, hreferences, hinsert⟩
    rw [forall_prop_of_true haccepts, namesOwner_iff haccount]
    exact sameForOthers_insertAccount hinsert

/-- An update with a nested write that is accepted is the transaction of the nested write. -/
theorem update_nested_ok_iff {iv : R.Iv} {write : Json} (hnested : body.get "user" = some write)
    {row : Account} {db' : Database} :
    update userId id encryptionKey now iv body db = (.ok row, db') ↔
      ∃ before columns changes, (db.accounts.find? id = some before ∧ before.userId = userId) ∧
        updateData body encryptionKey iv = .ok columns ∧
        AccountInput.changes R columns = .ok changes ∧
        R.updateWithUser write (changes.apply now) id db = .ok (row, db') := by
  rw [update_ok_iff]
  refine exists_congr fun before => exists_congr fun columns => exists_congr fun changes => ?_
  refine and_congr_right fun _ => and_congr_right fun hcolumns => and_congr_right fun hchanges => ?_
  have huser : changes.user = some write := (changes_user hcolumns hchanges).trans hnested
  simp only [AccountInput.Changes.update, huser]
  rcases R.updateWithUser write (changes.apply now) id db with e | ⟨row', after⟩ <;> simp

/-- An update of the columns. -/
theorem update_columns_sameForOthers_iff {iv : R.Iv} (hnested : body.get "user" = none) :
    SameForOthers userId db (update userId id encryptionKey now iv body db).2 ↔
      (AcceptsUpdate userId id encryptionKey now iv body db → SetsOwner userId body) := by
  rcases hrun : update userId id encryptionKey now iv body db with ⟨e | row, db'⟩
  · obtain rfl := update_error hrun
    refine iff_of_true (.refl userId db') ?_
    rintro ⟨-, before, columns, changes, table, hfind, huser, hcolumns, hchanges, hreferences,
      hreplace⟩
    have hwrite : changes.update R now id db' =
        (.ok (changes.apply now before), Prisma.account.withTable db' table) := by
      rw [update_replaces hcolumns hchanges hnested]
      exact (Model.replace_ok_iff _).mpr ⟨before, table, hfind, rfl, hreferences, hreplace, rfl⟩
    rw [update_ok_iff.mpr ⟨before, columns, changes, ⟨hfind, huser⟩, hcolumns, hchanges,
      hwrite⟩] at hrun
    exact absurd (congrArg Prod.fst hrun) (by simp)
  · obtain ⟨before, columns, changes, ⟨hfind, huser⟩, hcolumns, hchanges, hwrite⟩ :=
      update_ok_iff.mp hrun
    rw [update_replaces hcolumns hchanges hnested] at hwrite
    obtain ⟨before', table, hfind', -, hreferences, hreplace, rfl⟩ :=
      (Model.replace_ok_iff _).mp hwrite
    obtain rfl := Option.some.inj (hfind.symm.trans hfind')
    have haccepts : AcceptsUpdate userId id encryptionKey now iv body db :=
      ⟨hnested, before, columns, changes, table, hfind, huser, hcolumns, hchanges, hreferences,
        hreplace⟩
    rw [forall_prop_of_true haccepts, setsOwner_iff hcolumns hchanges huser]
    exact sameForOthers_replaceAccount hfind huser hreplace

theorem connectedUser_eq_some {write : Json} {owner : String}
    (hconnected : connectedUser write = some owner) :
    write = .obj [("connect", .obj [("id", .str owner)])] := by
  unfold connectedUser at hconnected
  split at hconnected
  · rw [Option.some.inj hconnected]
  · contradiction

/-- A nested write that has succeeded. -/
theorem nestedWrite_sameForOthers_iff (hconnects : R.ConnectsUser) {write : Json}
    {columns : Account → Account} {before row : Account} {db' : Database}
    (hfind : db.accounts.find? id = some before) (huser : before.userId = userId)
    (hwrite : R.updateWithUser write columns id db = .ok (row, db')) :
    SameForOthers userId db db' ↔
      match connectedUser write with
      | some owner => owner = userId
      | none => SameForOthers userId db db' := by
  cases hconnected : connectedUser write with
  | none => exact Iff.rfl
  | some owner =>
      obtain rfl := connectedUser_eq_some hconnected
      obtain ⟨-, table, -, -, -, hreplace, rfl⟩ :=
        (Model.replace_ok_iff _).mp (hconnects owner columns id db row db' hwrite)
      exact sameForOthers_replaceAccount hfind huser hreplace

/-- An update with a nested write of the owner. -/
theorem update_nested_sameForOthers_iff (hconnects : R.ConnectsUser) {iv : R.Iv} {write : Json}
    (hnested : body.get "user" = some write) :
    SameForOthers userId db (update userId id encryptionKey now iv body db).2 ↔
      NestedWriteKeepsToOwn userId id encryptionKey now iv body db := by
  rcases hrun : update userId id encryptionKey now iv body db with ⟨e | row, db'⟩
  · obtain rfl := update_error hrun
    refine iff_of_true (.refl userId db') ?_
    -- A nested write that Prisma carries out would have made the update succeed.
    intro write hnested before columns changes row after hfind huser hcolumns hchanges hwrite
    rw [(update_nested_ok_iff hnested).mpr ⟨before, columns, changes, ⟨hfind, huser⟩, hcolumns,
      hchanges, hwrite⟩] at hrun
    exact absurd (congrArg Prod.fst hrun) (by simp)
  · obtain ⟨before, columns, changes, ⟨hfind, huser⟩, hcolumns, hchanges, hwrite⟩ :=
      (update_nested_ok_iff hnested).mp hrun
    rw [nestedWrite_sameForOthers_iff hconnects hfind huser hwrite]
    constructor
    · intro hkeeps write' hnested' before' columns' changes' row' after _ _ hcolumns' hchanges'
        hwrite'
      obtain rfl := Option.some.inj (hnested.symm.trans hnested')
      obtain rfl := Except.ok.inj (hcolumns.symm.trans hcolumns')
      obtain rfl := Except.ok.inj (hchanges.symm.trans hchanges')
      obtain ⟨-, rfl⟩ := Prod.mk.inj (Except.ok.inj (hwrite.symm.trans hwrite'))
      exact hkeeps
    · exact fun hkeeps =>
        hkeeps write hnested before columns changes row db' hfind huser hcolumns hchanges hwrite

theorem update_sameForOthers_iff (hconnects : R.ConnectsUser) {iv : R.Iv} :
    SameForOthers userId db (update userId id encryptionKey now iv body db).2 ↔
      (AcceptsUpdate userId id encryptionKey now iv body db → SetsOwner userId body) ∧
        NestedWriteKeepsToOwn userId id encryptionKey now iv body db := by
  cases hnested : body.get "user" with
  | none =>
      have hnone : NestedWriteKeepsToOwn userId id encryptionKey now iv body db := by
        simp [NestedWriteKeepsToOwn, hnested]
      rw [update_columns_sameForOthers_iff hnested, and_iff_left hnone]
  | some write =>
      have hcolumns : AcceptsUpdate userId id encryptionKey now iv body db →
          SetsOwner userId body :=
        fun haccepts => absurd (hnested.symm.trans haccepts.1) (by simp)
      rw [update_nested_sameForOthers_iff hconnects hnested, and_iff_right hcolumns]

theorem remove_sameForOthers : SameForOthers userId db (remove userId id db).2 := by
  rcases hrun : remove userId id db with ⟨e | u, db'⟩
  · rw [remove_error hrun]
    exact .refl userId db
  · obtain ⟨⟨row, hfind, huser⟩, rfl⟩ := remove_ok_iff.mp hrun
    exact sameForOthers_deleteAccount hfind huser

end Writes

/-! ## Imports -/

/-- Accounts are added, and nothing else is written. -/
def AppendsAccounts (db db' : Database) : Prop :=
  ∃ added, db'.accounts.rows = db.accounts.rows ++ added ∧
    db' = { db with accounts := db'.accounts }

theorem AppendsAccounts.refl (db : Database) : AppendsAccounts db db :=
  ⟨[], (List.append_nil _).symm, rfl⟩

theorem AppendsAccounts.trans (a b c : Database) (hab : AppendsAccounts a b)
    (hbc : AppendsAccounts b c) : AppendsAccounts a c := by
  obtain ⟨added, hrows, hb⟩ := hab
  obtain ⟨added', hrows', hc⟩ := hbc
  refine ⟨added ++ added', by rw [hrows', hrows, List.append_assoc], ?_⟩
  rw [hc, hb]

/-- What no one else sees of all additions, no one else sees of the first or the last. -/
theorem AppendsAccounts.between {userId : String} (a b c : Database) (hab : AppendsAccounts a b)
    (hbc : AppendsAccounts b c) (hsame : SameForOthers userId a c) :
    SameForOthers userId a b ∧ SameForOthers userId b c := by
  obtain ⟨added, hrows, hb⟩ := hab
  obtain ⟨added', hrows', -⟩ := hbc
  have hfirst : SameForOthers userId a b := by
    rw [hb]
    refine sameForOthers_accounts fun other hne => ?_
    have haccounts : (c.accounts.rows.filter fun row => row.userId = other) =
        a.accounts.rows.filter fun row => row.userId = other :=
      congrArg OwnRows.accounts (hsame other hne)
    rw [hrows', hrows, List.filter_append, List.filter_append, List.append_assoc,
      List.append_right_eq_self, List.append_eq_nil_iff] at haccounts
    rw [hrows, List.filter_append, haccounts.1, List.append_nil]
  exact ⟨hfirst, fun other hne => (hsame other hne).trans (hfirst other hne).symm⟩

section Import

variable {userId : String} {encryptionKey : R.Key} {now : Int} {fresh : Nat → FreshAccount R}
  {counts : ImportResult} {entry : Json × Nat} {db : Database}

/-- An entry leaves what its creation leaves. -/
theorem importEntry_state :
    (importEntry userId encryptionKey now fresh counts entry db).2 =
      match entryData entry.1 with
      | .ok data => (create userId encryptionKey now (fresh entry.2) data db).2
      | .error _ => db := by
  unfold importEntry Handler.recover
  cases hdata : entryData entry.1 with
  | error e => cases e <;> rfl
  | ok data =>
      rw [Handler.ofExcept_ok_bind]
      dsimp only
      rcases hrun : create userId encryptionKey now (fresh entry.2) data db with ⟨e | row, db'⟩
      · rw [Handler.bind_of_error hrun]
        cases e <;> rfl
      · rw [Handler.bind_of_ok hrun]
        rfl

theorem create_appends {fresh : FreshAccount R} {data : JsObject} :
    AppendsAccounts db (create userId encryptionKey now fresh data db).2 := by
  rcases hrun : create userId encryptionKey now fresh data db with ⟨e | row, db'⟩
  · rw [create_error hrun]
    exact .refl db
  · obtain ⟨-, -, -, hcreate⟩ := create_ok_iff.mp hrun
    obtain ⟨-, -, table, hinsert, rfl⟩ := (Model.create_ok_iff _).mp hcreate
    exact ⟨[row], (Table.insert?_eq_some_iff.mp hinsert).2, rfl⟩

theorem importEntry_appends :
    Handler.Keeps AppendsAccounts
      (importEntry userId encryptionKey now fresh counts entry) := by
  intro db
  rw [importEntry_state]
  split
  · exact create_appends
  · exact .refl db

/-- An accepted entry names no owner but the user. -/
def EntryNamesOwner (userId : String) (encryptionKey : R.Key) (now : Int)
    (fresh : Nat → FreshAccount R) (entry : Json × Nat) (db : Database) : Prop :=
  ∀ data, entryData entry.1 = .ok data →
    AcceptsCreate userId encryptionKey now (fresh entry.2) data db → NamesOwner userId data

theorem importEntry_sameForOthers_iff :
    SameForOthers userId db (importEntry userId encryptionKey now fresh counts entry db).2 ↔
      EntryNamesOwner userId encryptionKey now fresh entry db := by
  rw [importEntry_state]
  unfold EntryNamesOwner
  cases hdata : entryData entry.1 with
  | error e => exact iff_of_true (.refl userId db) (by simp)
  | ok data => simp [create_sameForOthers_iff]

/-- Every entry whose turn comes names no owner but the user, if it is accepted in the database
that the entries before it left. -/
def ImportNamesOwner (userId : String) (encryptionKey : R.Key) (now : Int)
    (fresh : Nat → FreshAccount R) (entries : List (Json × Nat)) (db : Database) : Prop :=
  ∀ before entry after, entries = before ++ entry :: after → ∀ counts db',
    before.foldlM (importEntry userId encryptionKey now fresh) ⟨0, 0⟩ db = (.ok counts, db') →
      EntryNamesOwner userId encryptionKey now fresh entry db'

theorem importAccounts_sameForOthers_iff {exportPassword : Option String} {file : BackupFile} :
    SameForOthers userId db
        (importAccounts userId encryptionKey now fresh exportPassword file db).2 ↔
      ∀ entries, openBackup (R := R) exportPassword file = .ok entries →
        ImportNamesOwner userId encryptionKey now fresh entries.zipIdx db := by
  unfold importAccounts
  cases hopen : openBackup (R := R) exportPassword file with
  | error e => exact iff_of_true (.refl userId db) (by simp)
  | ok entries =>
      rw [Handler.ofExcept_ok_bind, Handler.related_foldlM_iff (SameForOthers.refl userId)
        (SameForOthers.trans userId) AppendsAccounts.between AppendsAccounts.refl
        AppendsAccounts.trans fun _ _ => importEntry_appends]
      simp only [importEntry_sameForOthers_iff, Except.ok.injEq, forall_eq']
      rfl

end Import

end AccountsService

end MyAccountController
