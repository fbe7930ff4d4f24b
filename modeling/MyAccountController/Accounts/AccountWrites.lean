import MyAccountController.Accounts.AccountsController

/-! # What an account request writes

A request under `/accounts` whose body names neither the owner nor the
ciphertext only writes rows of its own user, and a ciphertext it writes is
under the key of its guard.
-/

namespace MyAccountController

open Foundation

variable {R : Runtime}

/-- The body names neither the owner nor the ciphertext. Bodies with only the
declared fields of the service methods are of this kind. -/
def OwnColumns (body : JsObject) : Prop :=
  body.get "userId" = none ∧ body.get "encryptedPassword" = none

instance (body : JsObject) : Decidable (OwnColumns body) :=
  inferInstanceAs (Decidable (_ ∧ _))

/-- The bodies and backup entries of the request name no hidden column, and an update
makes no nested write of the owner. -/
def AccountRequest.OwnColumns : AccountRequest R → Prop
  | .create body _ => MyAccountController.OwnColumns body
  | .update _ body _ => MyAccountController.OwnColumns body ∧ body.get "user" = none
  | .importAccounts exportPassword file _ => ∀ entries,
      AccountsService.openBackup (R := R) exportPassword file = .ok entries →
        ∀ entry, .obj entry ∈ entries → MyAccountController.OwnColumns entry
  | _ => True

/-- An update by the request makes no nested write of the owner. -/
def AccountRequest.NoNestedWrite : AccountRequest R → Prop
  | .update _ body _ => body.get "user" = none
  | _ => True

instance : ∀ request : AccountRequest R, Decidable request.NoNestedWrite
  | .update _ body _ => inferInstanceAs (Decidable (JsObject.get body "user" = none))
  | .findOne _ | .create _ _ | .remove _ | .exportAccounts _ _ _ | .importAccounts _ _ _ =>
      isTrue trivial

/-- The request encrypts a password when it is accepted. -/
def AccountRequest.writesPassword : AccountRequest R → Bool
  | .create _ _ | .importAccounts _ _ _ => true
  | .update _ body _ => (body.get "password").any Json.truthy
  | _ => false

/-- Only accounts differ, and each row is an old one, or a row of the user with
an old ciphertext of the user or a new one under an allowed key. -/
structure VaultWrite (R : Runtime) (userId : String) (allowed : R.Key → Prop)
    (db db' : Database) : Prop where
  others : db' = Prisma.account.withTable db db'.accounts
  rows : ∀ row' ∈ db'.accounts.rows, row' ∈ db.accounts.rows ∨ row'.userId = userId ∧
    ((∃ row ∈ db.accounts.rows, row.userId = userId ∧
        row'.encryptedPassword = row.encryptedPassword) ∨
      ∃ plaintext key iv, allowed key ∧ row'.encryptedPassword = R.encrypt plaintext key iv)

namespace VaultWrite

variable {userId : String} {allowed : R.Key → Prop}

theorem users {db db' : Database} (h : VaultWrite R userId allowed db db') :
    db'.users = db.users := by
  rw [h.others]
  rfl

theorem refl (db : Database) : VaultWrite R userId allowed db db :=
  ⟨rfl, fun _ hrow => .inl hrow⟩

theorem trans (a b c : Database) (hab : VaultWrite R userId allowed a b)
    (hbc : VaultWrite R userId allowed b c) : VaultWrite R userId allowed a c := by
  constructor
  case others =>
    calc c = Prisma.account.withTable b c.accounts := hbc.others
      _ = Prisma.account.withTable (Prisma.account.withTable a b.accounts) c.accounts := by
          rw [← hab.others]
      _ = Prisma.account.withTable a c.accounts := rfl
  case rows =>
    intro row'' hrow''
    rcases hbc.rows row'' hrow'' with hold | ⟨huser, ⟨row', hrow', huser', hsame⟩ | hnew⟩
    · exact hab.rows row'' hold
    · -- The ciphertext is that of a row of the middle database.
      refine .inr ⟨huser, ?_⟩
      rw [hsame]
      rcases hab.rows row' hrow' with hold | ⟨-, hciphertext⟩
      · exact .inl ⟨row', hold, huser', rfl⟩
      · exact hciphertext
    · exact .inr ⟨huser, .inr hnew⟩

theorem mono {weaker : R.Key → Prop} (hmono : ∀ key, allowed key → weaker key)
    {db db' : Database} (h : VaultWrite R userId allowed db db') :
    VaultWrite R userId weaker db db' := by
  refine ⟨h.others, fun row' hrow' => ?_⟩
  rcases h.rows row' hrow' with hold | ⟨huser, hsame | ⟨plaintext, key, iv, hkey, heq⟩⟩
  · exact .inl hold
  · exact .inr ⟨huser, .inl hsame⟩
  · exact .inr ⟨huser, .inr ⟨plaintext, key, iv, hmono key hkey, heq⟩⟩

end VaultWrite

namespace AccountsService

open Handler

variable {userId : String} {encryptionKey : R.Key} {now : Int}

/-- The owner and the ciphertext in the data object of a creation. -/
theorem createData_columns {data : JsObject} (hdata : OwnColumns data) (payload : String) :
    (createData userId data payload).get "userId" = some (.str userId) ∧
      (createData userId data payload).get "encryptedPassword" = some (.str payload) := by
  constructor
  · rw [createData, JsObject.get_spread, JsObject.get_spread,
      JsObject.get_without_of_ne _ (by decide), hdata.1]
    rfl
  · rw [createData, JsObject.get_spread, JsObject.get_cons_self, Option.some_or]

/-- A creation appends one row of the user, encrypted under the key. -/
theorem create_row {fresh : FreshAccount R} {data : JsObject} {row : Account}
    {db db' : Database} (hdata : OwnColumns data)
    (hrun : create userId encryptionKey now fresh data db = (.ok row, db')) :
    row.userId = userId ∧
      (∃ plaintext, row.encryptedPassword = R.encrypt plaintext encryptionKey fresh.iv) ∧
      ∃ accounts, db' = Prisma.account.withTable db accounts ∧
        accounts.rows = db.accounts.rows ++ [row] := by
  obtain ⟨plaintext, -, haccount, hcreate⟩ := create_ok_iff.mp hrun
  obtain ⟨-, -, huserId, -, -, -, -, hencrypted, -⟩ := AccountInput.account_ok_iff.mp haccount
  obtain ⟨-, -, accounts, hinsert, rfl⟩ := (Model.create_ok_iff _).mp hcreate
  obtain ⟨howner, hpayload⟩ := @createData_columns userId data hdata
    (R.encrypt plaintext encryptionKey fresh.iv)
  rw [howner] at huserId
  rw [hpayload] at hencrypted
  refine ⟨?_, ⟨plaintext, ?_⟩, accounts, rfl, (Table.insert?_eq_some_iff.mp hinsert).2⟩
  · exact (Json.str.inj (Option.some.inj huserId)).symm
  · exact (Json.str.inj (Option.some.inj hencrypted)).symm

theorem create_vaultWrite {fresh : FreshAccount R} {data : JsObject} (hdata : OwnColumns data) :
    Keeps (VaultWrite R userId (· = encryptionKey))
      (create userId encryptionKey now fresh data) := by
  intro db
  rcases hrun : create userId encryptionKey now fresh data db with ⟨e | row, db'⟩
  · rw [create_error hrun]
    exact VaultWrite.refl db
  · obtain ⟨huser, ⟨plaintext, hencrypted⟩, accounts, rfl, hrows⟩ := create_row hdata hrun
    refine ⟨rfl, fun row' hrow' => ?_⟩
    have hmem : row' ∈ db.accounts.rows ++ [row] := hrows ▸ hrow'
    rcases List.mem_append.mp hmem with hold | hnew
    · exact .inl hold
    · rw [List.mem_singleton.mp hnew]
      exact .inr ⟨huser, .inr ⟨plaintext, encryptionKey, fresh.iv, rfl, hencrypted⟩⟩

/-- Apart from the password an update writes what its body says. -/
theorem updateData_get {data columns : JsObject} {encryptionKey : R.Key} {iv : R.Iv}
    (hcolumns : updateData data encryptionKey iv = .ok columns) {name : String}
    (hname : name ≠ "password") (hname' : name ≠ "encryptedPassword") :
    columns.get name = data.get name := by
  unfold updateData at hcolumns
  split at hcolumns
  · obtain ⟨payload, -, hpure⟩ := AccountInput.bind_ok_iff.mp hcolumns
    obtain rfl := Except.ok.inj hpure
    rw [JsObject.get_spread, JsObject.get_cons_of_ne hname', JsObject.get_nil, Option.none_or,
      JsObject.get_without_of_ne _ hname]
  · obtain rfl := Except.ok.inj hcolumns
    exact JsObject.get_without_of_ne _ hname

/-- The nested write of an update is that of its body. -/
theorem changes_user {data columns : JsObject} {iv : R.Iv} {changes : AccountInput.Changes}
    (hcolumns : updateData data encryptionKey iv = .ok columns)
    (hchanges : AccountInput.changes R columns = .ok changes) :
    changes.user = data.get "user" := by
  obtain ⟨-, -, -, -, -, -, -, -, -, -, -, -, hnested⟩ := AccountInput.changes_ok_iff.mp hchanges
  rw [← hnested, updateData_get hcolumns (by decide) (by decide)]

/-- An update without a nested write of the owner writes one row. -/
theorem update_replaces {data columns : JsObject} {iv : R.Iv} {changes : AccountInput.Changes}
    (hcolumns : updateData data encryptionKey iv = .ok columns)
    (hchanges : AccountInput.changes R columns = .ok changes) (hnested : data.get "user" = none)
    (id : String) : changes.update R now id = Prisma.account.replace id (changes.apply now) :=
  AccountInput.Changes.update_of_none ((changes_user hcolumns hchanges).trans hnested) now id

/-- The owner and the ciphertext in the data object of an update. -/
theorem updateData_columns {data columns : JsObject} {iv : R.Iv} (hdata : OwnColumns data)
    (hcolumns : updateData data encryptionKey iv = .ok columns) :
    columns.get "userId" = none ∧ (columns.get "encryptedPassword" = none ∨
      (data.get "password").any Json.truthy = true ∧ ∃ plaintext,
        columns.get "encryptedPassword" =
          some (.str (R.encrypt plaintext encryptionKey iv))) := by
  have hrest : ∀ name, name ≠ "password" → data.get name = none →
      (data.without "password").get name = none := by
    intro name hne hnone
    rw [JsObject.get_without_of_ne _ hne, hnone]
  unfold updateData at hcolumns
  split at hcolumns
  next htruthy =>
    obtain ⟨payload, hpayload, hpure⟩ := AccountInput.bind_ok_iff.mp hcolumns
    obtain ⟨plaintext, -, rfl⟩ := encryptPassword_ok_iff.mp hpayload
    obtain rfl := Except.ok.inj hpure
    refine ⟨?_, .inr ⟨htruthy, plaintext, ?_⟩⟩
    · rw [JsObject.get_spread, hrest _ (by decide) hdata.1]
      rfl
    · rw [JsObject.get_spread, JsObject.get_cons_self, Option.some_or]
  next =>
    obtain rfl := Except.ok.inj hcolumns
    exact ⟨hrest _ (by decide) hdata.1, .inl (hrest _ (by decide) hdata.2)⟩

/-- An update keeps the owner, and keeps the ciphertext or writes a new one. -/
theorem apply_changes {data columns : JsObject} {iv : R.Iv} {changes : AccountInput.Changes}
    (hdata : OwnColumns data) (hcolumns : updateData data encryptionKey iv = .ok columns)
    (hchanges : AccountInput.changes R columns = .ok changes) (row : Account) :
    (changes.apply now row).userId = row.userId ∧
      ((changes.apply now row).encryptedPassword = row.encryptedPassword ∨
        (data.get "password").any Json.truthy = true ∧ ∃ plaintext,
          (changes.apply now row).encryptedPassword =
            R.encrypt plaintext encryptionKey iv) := by
  obtain ⟨-, -, huserId, -, -, -, -, hencrypted, -⟩ := AccountInput.changes_ok_iff.mp hchanges
  obtain ⟨howner, hpayload⟩ := updateData_columns hdata hcolumns
  have hkept : changes.userId = none :=
    (Except.ok.inj ((AccountInput.textUpdate_of_absent howner).symm.trans huserId)).symm
  refine ⟨by rw [AccountInput.Changes.apply, hkept]; rfl, ?_⟩
  rcases hpayload with habsent | ⟨htruthy, plaintext, hpayload⟩
  · have hsame : changes.encryptedPassword = none :=
      (Except.ok.inj ((AccountInput.textUpdate_of_absent habsent).symm.trans hencrypted)).symm
    exact .inl (by rw [AccountInput.Changes.apply, hsame]; rfl)
  · rw [AccountInput.textUpdate, hpayload] at hencrypted
    have hnew : changes.encryptedPassword = some (R.encrypt plaintext encryptionKey iv) :=
      (Except.ok.inj hencrypted).symm
    exact .inr ⟨htruthy, plaintext, by rw [AccountInput.Changes.apply, hnew]; rfl⟩

theorem update_vaultWrite {id : String} {iv : R.Iv} {data : JsObject} (hdata : OwnColumns data)
    (hnested : data.get "user" = none) : Keeps (VaultWrite R userId fun key =>
        (data.get "password").any Json.truthy = true ∧ key = encryptionKey)
      (update userId id encryptionKey now iv data) := by
  intro db
  rcases hrun : update userId id encryptionKey now iv data db with ⟨e | row, db'⟩
  · rw [update_error hrun]
    exact VaultWrite.refl db
  · obtain ⟨before, columns, changes, ⟨hfind, huser⟩, hcolumns, hchanges, hreplace⟩ :=
      update_ok_iff.mp hrun
    rw [update_replaces hcolumns hchanges hnested] at hreplace
    obtain ⟨-, accounts, -, -, -, htable, rfl⟩ := (Model.replace_ok_iff _).mp hreplace
    refine ⟨rfl, fun row' hrow' => ?_⟩
    have hmap : row' ∈ db.accounts.rows.map fun row =>
        if key row = id then changes.apply now row else row :=
      Table.replace?_eq_some htable ▸ hrow'
    obtain ⟨old, hold, rfl⟩ := List.mem_map.mp hmap
    split
    next hid =>
      -- The updated row is the one the user owns.
      obtain ⟨hbefore, hkey⟩ := Table.find?_eq_some_iff.mp hfind
      obtain rfl := db.accounts.eq_of_key_eq hold hbefore (hid.trans hkey.symm)
      obtain ⟨howner, hsame | ⟨htruthy, plaintext, hnew⟩⟩ :=
        @apply_changes R _ now _ _ _ _ hdata hcolumns hchanges old
      · exact .inr ⟨howner.trans huser, .inl ⟨old, hold, huser, hsame⟩⟩
      · exact .inr ⟨howner.trans huser,
          .inr ⟨plaintext, encryptionKey, iv, ⟨htruthy, rfl⟩, hnew⟩⟩
    next => exact .inl hold

theorem remove_vaultWrite (id : String) (allowed : R.Key → Prop) :
    Keeps (VaultWrite R userId allowed) (remove userId id) := by
  intro db
  rcases hrun : remove userId id db with ⟨e | u, db'⟩
  · rw [remove_error hrun]
    exact VaultWrite.refl db
  · obtain ⟨-, rfl⟩ := remove_ok_iff.mp hrun
    refine ⟨rfl, fun row' hrow' => .inl ?_⟩
    exact (List.mem_filter.mp hrow').1

/-- The data object of a backup entry has the columns of the entry. -/
theorem entryData_ownColumns {entry : Json} {data : JsObject}
    (hentry : ∀ object, entry = .obj object → OwnColumns object)
    (hdata : entryData entry = .ok data) : OwnColumns data := by
  cases entry with
  | obj object =>
      obtain ⟨howner, hencrypted⟩ := hentry object rfl
      have hget : ∀ name, name ≠ "memo" → data.get name = JsObject.get object name := by
        intro name hne
        simp only [entryData] at hdata
        split at hdata
        case h_3 =>
          obtain rfl := Except.ok.inj hdata
          rw [JsObject.get_spread, JsObject.get_cons_of_ne hne, JsObject.get_nil, Option.none_or]
        all_goals
          obtain rfl := Except.ok.inj hdata
          exact JsObject.get_without_of_ne object hne
      exact ⟨(hget _ (by decide)).trans howner, (hget _ (by decide)).trans hencrypted⟩
  | null => contradiction
  | bool _ | num _ _ | str _ | arr _ =>
      obtain rfl := Except.ok.inj hdata
      exact ⟨rfl, rfl⟩

/-- The loop of an import, one creation at a time. -/
theorem importEntry_vaultWrite {fresh : Nat → FreshAccount R} {counts : ImportResult}
    {entry : Json × Nat} (hentry : ∀ object, entry.1 = .obj object → OwnColumns object) :
    Keeps (VaultWrite R userId (· = encryptionKey))
      (importEntry userId encryptionKey now fresh counts entry) := by
  apply keeps_recover VaultWrite.trans
  · apply keeps_bind VaultWrite.trans (Keeps.of_state_eq VaultWrite.refl fun _ => rfl)
    intro data before after hrun
    obtain ⟨hok, -⟩ := Prod.mk.inj hrun
    have hdata := entryData_ownColumns hentry hok
    refine keeps_bind VaultWrite.trans (create_vaultWrite hdata) ?_ after
    exact fun _ _ db _ => VaultWrite.refl db
  · intro e
    split
    · exact keeps_pure VaultWrite.refl _
    · exact keeps_raise VaultWrite.refl _

theorem importAccounts_vaultWrite {fresh : Nat → FreshAccount R} {exportPassword : Option String}
    {file : BackupFile} (hentries : ∀ entries,
      openBackup (R := R) exportPassword file = .ok entries →
        ∀ entry, .obj entry ∈ entries → OwnColumns entry) :
    Keeps (VaultWrite R userId (· = encryptionKey))
      (importAccounts userId encryptionKey now fresh exportPassword file) := by
  apply keeps_bind VaultWrite.trans (Keeps.of_state_eq VaultWrite.refl fun _ => rfl)
  intro entries before after hrun
  obtain ⟨hopen, -⟩ := Prod.mk.inj hrun
  refine keeps_foldlM VaultWrite.refl VaultWrite.trans ?_ after
  intro counts entry hentry
  apply importEntry_vaultWrite
  intro object hobject
  refine hentries entries hopen object ?_
  rw [← hobject]
  exact List.fst_mem_of_mem_zipIdx hentry

end AccountsService

/-- Every request under `/accounts` writes within the vault of its user. -/
theorem AccountRequest.service_vaultWrite {userId : String} {encryptionKey : R.Key} {now : Int}
    (request : AccountRequest R) (hcolumns : request.OwnColumns) :
    Handler.Keeps (VaultWrite R userId fun key =>
        request.writesPassword = true ∧ key = encryptionKey)
      (request.service userId encryptionKey now) := by
  have hdrop : ∀ {α : Type} {allowed : R.Key → Prop} {query : Query α},
      Handler.Keeps (VaultWrite R userId allowed) query →
        Handler.Keeps (VaultWrite R userId allowed) (query >>= fun _ => pure ()) :=
    fun hquery => Handler.keeps_bind VaultWrite.trans hquery fun _ _ db _ => VaultWrite.refl db
  cases request with
  | findOne id =>
      exact hdrop (Handler.Keeps.of_state_eq VaultWrite.refl (AccountsService.findOne_state _))
  | create body fresh =>
      refine hdrop fun db => (AccountsService.create_vaultWrite hcolumns db).mono ?_
      exact fun key hkey => ⟨rfl, hkey⟩
  | update id body iv => exact hdrop (AccountsService.update_vaultWrite hcolumns.1 hcolumns.2)
  | remove id => exact AccountsService.remove_vaultWrite id _
  | exportAccounts exportPassword salt iv =>
      exact hdrop (Handler.Keeps.of_state_eq VaultWrite.refl (AccountsService.exportAccounts_state _))
  | importAccounts exportPassword file fresh =>
      refine hdrop fun db => (AccountsService.importAccounts_vaultWrite hcolumns db).mono ?_
      exact fun key hkey => ⟨rfl, hkey⟩

end MyAccountController
