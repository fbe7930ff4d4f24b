import MyAccountController.Accounts.AccountWrites
import MyAccountController.Foundation.Relational
import MyAccountController.Foundation.TableMap

/-! # The vault without encryption

The account service over a runtime whose ciphertexts are the plaintexts behind
a mark is a store of plain passwords. The stored vault, with every ciphertext
opened under the key of its owner, is such a store, and every method whose body
names neither an owner nor a ciphertext answers from it what it answers from the
ciphertexts.
-/

namespace MyAccountController

open Foundation Handler

/-! ## A runtime without encryption -/

/-- A plaintext behind a mark, so that no payload is empty. -/
def sealPlain (plaintext : String) : String := String.ofList ('=' :: plaintext.toList)

/-- The plaintext behind the mark, or a refusal of the empty payload. -/
def unsealPlain (payload : String) : Option String :=
  match payload.toList with
  | [] => none
  | _ :: rest => some (String.ofList rest)

@[simp] theorem unsealPlain_sealPlain (plaintext : String) :
    unsealPlain (sealPlain plaintext) = some plaintext := by
  simp [unsealPlain, sealPlain]

/-- What a ciphertext opens to, as a payload of the runtime without encryption. -/
def revealed (opened : Option String) : String := opened.elim "" sealPlain

@[simp] theorem unsealPlain_revealed (opened : Option String) :
    unsealPlain (revealed opened) = opened := by
  cases opened with
  | none => simp [revealed, unsealPlain]
  | some plaintext => exact unsealPlain_sealPlain plaintext

/-- The same runtime without encryption. Master passwords are still verified. -/
abbrev Runtime.plain (R : Runtime) : Runtime where
  Key := Unit
  Iv := Unit
  deriveEncryptionKey _ _ := ()
  hashMasterPassword := R.hashMasterPassword
  verifyMasterPassword := R.verifyMasterPassword
  encrypt plaintext _ _ := sealPlain plaintext
  decrypt payload _ := unsealPlain payload
  jsonStringify := R.jsonStringify
  jsonParse := R.jsonParse
  isoDate := R.isoDate
  takesBareNull := R.takesBareNull
  updateWithUser := R.updateWithUser

variable {R : Runtime}

/-! ## The vault, opened -/

/-- The row with its password as plaintext. -/
def Account.reveal (keyOf : Account → R.Key) (row : Account) : Account :=
  { row with encryptedPassword := revealed (R.decrypt row.encryptedPassword (keyOf row)) }

theorem Account.reveal_unindexed (keyOf : Account → R.Key) :
    Table.Unindexed (Account.reveal keyOf) :=
  ⟨fun _ => rfl, fun _ _ => Iff.rfl⟩

/-- The database with every password as plaintext. -/
def Database.reveal (keyOf : Account → R.Key) (db : Database) : Database :=
  { db with accounts := db.accounts.mapRows (Account.reveal keyOf) (Account.reveal_unindexed keyOf) }

/-- The plain database is the opened one. -/
def Reveals (keyOf : Account → R.Key) (db plain : Database) : Prop := plain = db.reveal keyOf

/-- Every row under the key of its owner. -/
def ownerKey (keyOf : String → R.Key) (row : Account) : R.Key := keyOf row.userId

/-- The account without its ciphertext. -/
def Account.hidden (row : Account) : Account := { row with encryptedPassword := "" }

namespace AccountInput

theorem get_spread_payload (payload : String) (rest : JsObject) {name : String}
    (hne : name ≠ "encryptedPassword") :
    (rest.spread [("encryptedPassword", .str payload)]).get name = rest.get name := by
  rw [JsObject.get_spread, JsObject.get_cons_of_ne hne, JsObject.get_nil, Option.none_or]

theorem get_spread_self (payload : String) (rest : JsObject) :
    (rest.spread [("encryptedPassword", .str payload)]).get "encryptedPassword" =
      some (.str payload) := by
  rw [JsObject.get_spread, JsObject.get_cons_self, Option.some_or]

/-- The ciphertext of a creation goes from the data object to the row. -/
theorem account_payload (now : Int) (freshId payload payload' : String) (rest : JsObject) :
    account R.plain now freshId (rest.spread [("encryptedPassword", .str payload')]) =
      (account R now freshId (rest.spread [("encryptedPassword", .str payload)])).map
        fun row => { row with encryptedPassword := payload' } := by
  change _ = (fun row : Account => { row with encryptedPassword := payload' }) <$> _
  simp only [account, textOr, requiredText, nullableText, nullableJson, dateOr, map_bind, map_pure,
    get_spread_self, get_spread_payload, ne_eq, String.reduceEq, not_false_eq_true]
  rfl

/-- The ciphertext of an update goes from the data object to the changes. -/
theorem changes_payload (payload payload' : String) (rest : JsObject) :
    changes R.plain (rest.spread [("encryptedPassword", .str payload')]) =
      (changes R (rest.spread [("encryptedPassword", .str payload)])).map
        fun named => { named with encryptedPassword := some payload' } := by
  change _ = (fun named : Changes => { named with encryptedPassword := some payload' }) <$> _
  simp only [changes, textUpdate, nullableTextUpdate, nullableJson, dateUpdate, map_bind, map_pure,
    get_spread_self, get_spread_payload, ne_eq, String.reduceEq, not_false_eq_true]
  rfl

end AccountInput

/-! ## Queries on the opened vault -/

section Queries

variable {keyOf : Account → R.Key}

theorem findMany_simulates {select : Account → Bool}
    (hselect : ∀ row, select (row.reveal keyOf) = select row) :
    Simulates (Reveals keyOf) (Prisma.account.findMany select) (Prisma.account.findMany select)
      fun rows rows' => rows' = rows.map (Account.reveal keyOf) ∧ ∀ row ∈ rows, select row := by
  rintro db plain rfl
  refine .ok ⟨⟨?_, fun row hrow => (List.mem_filter.mp hrow).2⟩, rfl⟩
  exact Table.filter_mapRows (Account.reveal_unindexed keyOf) db.accounts fun row _ => hselect row

theorem table_reveal (db : Database) : Prisma.account.table (db.reveal keyOf) =
    (Prisma.account.table db).mapRows (Account.reveal keyOf) (Account.reveal_unindexed keyOf) := rfl

theorem references_reveal (db : Database) (row : Account) :
    Prisma.account.references (db.reveal keyOf) (row.reveal keyOf) =
      Prisma.account.references db row := rfl

theorem create_simulates (row : Account) :
    Simulates (Reveals keyOf) (Prisma.account.create row)
      (Prisma.account.create (row.reveal keyOf)) fun created created' =>
        created' = created.reveal keyOf := by
  rintro db plain rfl
  unfold Model.create
  rw [table_reveal, Table.insert?_mapRows, references_reveal]
  cases (Prisma.account.table db).insert? row with
  | none => exact .error rfl
  | some table =>
      cases Prisma.account.references db row with
      | true => exact .ok ⟨rfl, rfl⟩
      | false => exact .error rfl

/-- An update of any columns, for functions that commute with the opening of the row. -/
theorem replace_simulates {db : Database} {id : String} {f g : Account → Account}
    (hcommutes : ∀ row ∈ (Prisma.account.table db).rows, Entity.key row = id →
      g (row.reveal keyOf) = (f row).reveal keyOf) :
    SameOutcome (fun row row' db plain => row' = row.reveal keyOf ∧ Reveals keyOf db plain)
      (Reveals keyOf) (Prisma.account.replace id f db)
      (Prisma.account.replace id g (db.reveal keyOf)) := by
  unfold Model.replace
  rw [table_reveal, Table.find?_mapRows, Table.replace?_mapRows _ _ _ hcommutes]
  cases hfind : (Prisma.account.table db).find? id with
  | none => exact .error rfl
  | some row =>
      obtain ⟨hmem, hid⟩ := Table.find?_eq_some_iff.mp hfind
      rw [Option.map_some]
      cases (Prisma.account.table db).replace? id f with
      | none => exact .error rfl
      | some table =>
          simp only [Option.map_some, hcommutes row hmem hid, references_reveal]
          cases Prisma.account.references db (f row) with
          | true => exact .ok ⟨rfl, rfl⟩
          | false => exact .error rfl

theorem delete_simulates (id : String) :
    Simulates (Reveals keyOf) (Prisma.account.delete id) (Prisma.account.delete id)
      fun deleted deleted' => deleted' = deleted.reveal keyOf := by
  rintro db plain rfl
  unfold Model.delete
  rw [table_reveal, Table.find?_mapRows, Table.delete_mapRows]
  cases (Prisma.account.table db).find? id with
  | none => exact .error rfl
  | some row => exact .ok ⟨rfl, rfl⟩

end Queries

/-! ## The account service on the opened vault -/

namespace AccountsService

section Services

variable {keyOf : String → R.Key} {userId id : String} {key : R.Key} {now : Int}

/-- Both services find the account, and it is the one the user owns. -/
theorem findOwned_agrees :
    Agrees (Reveals (ownerKey keyOf)) (findOwned userId id) (findOwned userId id)
      (fun row row' db plain => Reveals (ownerKey keyOf) db plain ∧
        row' = row.reveal (ownerKey keyOf) ∧ db.accounts.find? id = some row ∧
          row.userId = userId)
      (Reveals (ownerKey keyOf)) := by
  rintro db plain rfl
  unfold findOwned
  have hselect : ∀ row ∈ (Prisma.account.table db).rows,
      decide ((row.reveal (ownerKey keyOf)).id = id ∧ (row.reveal (ownerKey keyOf)).userId = userId) =
        decide (row.id = id ∧ row.userId = userId) := fun _ _ => rfl
  rw [Model.findFirst_bind, Model.findFirst_bind, table_reveal, Table.findRow_mapRows _ _ hselect]
  cases hfind : (Prisma.account.table db).rows.find? fun row => row.id = id ∧ row.userId = userId with
  | none => exact .error rfl
  | some row => exact .ok ⟨rfl, rfl, Table.find?_where.mp hfind⟩

/-- The opened row has the password that the ciphertext opens to. -/
theorem decryptPassword_reveal {row : Account} (hkey : key = keyOf row.userId) :
    decryptPassword (R := R.plain) (row.reveal (ownerKey keyOf)).encryptedPassword () =
      decryptPassword row.encryptedPassword key := by
  simp [decryptPassword, Account.reveal, ownerKey, hkey]

/-- The list shows no password, so it does not depend on the ciphertexts. -/
theorem findAll_simulates (contains : String → String → Bool) (category q : Option String) :
    Simulates (Reveals (ownerKey keyOf)) (findAll contains userId category q)
      (findAll contains userId category q) fun views views' => views' = views := by
  refine Simulates.bind (findMany_simulates fun row => rfl) ?_
  rintro rows _ ⟨rfl, -⟩
  refine Simulates.pure ?_
  rw [← List.map_mergeSort (f := Account.reveal (ownerKey keyOf)) fun _ _ _ _ => rfl, List.map_map]
  rfl

theorem findOne_simulates (hkey : key = keyOf userId) :
    Simulates (Reveals (ownerKey keyOf)) (findOne userId id key)
      (findOne (R := R.plain) userId id ())
      fun answer answer' => answer' = (answer.1.reveal (ownerKey keyOf), answer.2) := by
  refine Agrees.bind findOwned_agrees ?_
  rintro row _ db plain ⟨hreveals, rfl, -, huser⟩
  rw [decryptPassword_reveal (hkey.trans (congrArg keyOf huser.symm))]
  refine Simulates.bind Simulates.ofExcept_self ?_ db plain hreveals
  rintro password _ ⟨rfl, -⟩
  exact Simulates.pure rfl

/-- The payload without encryption is what the ciphertext opens to. -/
theorem encryptPassword_reveal (haes : R.AesGcmLaws) (key : R.Key) (password : Option Json)
    (iv : R.Iv) :
    encryptPassword (R := R.plain) password () () =
      (encryptPassword password key iv).map fun payload => revealed (R.decrypt payload key) := by
  unfold encryptPassword
  split
  · simp [Except.map, haes.decrypt_encrypt, revealed]
  · rfl

theorem convertDuplicate_agrees {α β : Type} {pre fail : Database → Database → Prop}
    {x : Query α} {y : Query β} {post : α → β → Database → Database → Prop}
    (h : Agrees pre x y post fail) :
    Agrees pre (convertDuplicate x) (convertDuplicate y) post fail := by
  refine Agrees.recover h fun e => ?_
  split <;> exact Agrees.raise fun _ _ hfail => hfail

theorem create_simulates (haes : R.AesGcmLaws) (hkey : key = keyOf userId)
    (fresh : FreshAccount R) {data : JsObject} (hdata : OwnColumns data) :
    Simulates (Reveals (ownerKey keyOf)) (create userId key now fresh data)
      (create (R := R.plain) userId () now ⟨fresh.id, ()⟩ data)
      fun row row' => row' = row.reveal (ownerKey keyOf) := by
  apply convertDuplicate_agrees
  rw [encryptPassword_reveal haes]
  refine Simulates.bind (Simulates.ofExcept (fun payload payload' =>
    payload' = revealed (R.decrypt payload key)) fun _ _ => rfl) ?_
  rintro payload _ rfl
  unfold createData
  rw [AccountInput.account_payload now fresh.id payload]
  refine Simulates.bind (Simulates.ofExcept (fun row row' =>
    row' = row.reveal (ownerKey keyOf)) fun row hrow => ?_) ?_
  · -- The accepted row has the payload of the data object and belongs to the user.
    obtain ⟨-, -, huserId, -, -, -, -, hencrypted, -⟩ := AccountInput.account_ok_iff.mp hrow
    obtain ⟨howner, hpayload⟩ := @createData_columns userId data hdata payload
    have huser : row.userId = userId :=
      (Json.str.inj (Option.some.inj (howner.symm.trans huserId))).symm
    have hsame : row.encryptedPassword = payload :=
      (Json.str.inj (Option.some.inj (hpayload.symm.trans hencrypted))).symm
    rw [Account.reveal, ownerKey, hsame, huser, hkey]
  · rintro row _ rfl
    exact MyAccountController.create_simulates row

/-- The changes of an update, with a new ciphertext opened. -/
def revealChanges (key : R.Key) (named : AccountInput.Changes) : AccountInput.Changes :=
  { named with
    encryptedPassword := named.encryptedPassword.map fun payload => revealed (R.decrypt payload key) }

/-- Both services read the same changes from the body of an update. -/
theorem updateData_reveal (haes : R.AesGcmLaws) {data : JsObject} (hdata : OwnColumns data)
    (key : R.Key) (iv : R.Iv) :
    (updateData (R := R.plain) data () () >>= AccountInput.changes R.plain) =
      (updateData data key iv >>= AccountInput.changes R).map (revealChanges key) := by
  unfold updateData
  split
  · rw [encryptPassword_reveal haes key (data.get "password") iv]
    cases encryptPassword (data.get "password") key iv with
    | error e => rfl
    | ok payload =>
        change AccountInput.changes R.plain (JsObject.spread _ _) =
          (AccountInput.changes R (JsObject.spread _ _)).map _
        rw [AccountInput.changes_payload payload]
        cases hchanges : AccountInput.changes R
            ((data.without "password").spread [("encryptedPassword", .str payload)]) with
        | error e => rfl
        | ok named =>
            obtain ⟨-, -, -, -, -, -, -, hpayload, -⟩ := AccountInput.changes_ok_iff.mp hchanges
            rw [AccountInput.textUpdate, AccountInput.get_spread_self] at hpayload
            have hnew : named.encryptedPassword = some payload := (Except.ok.inj hpayload).symm
            simp only [Except.map, revealChanges, hnew, Option.map_some]
  · change AccountInput.changes R (data.without "password") =
      (AccountInput.changes R (data.without "password")).map _
    cases hchanges : AccountInput.changes R (data.without "password") with
    | error e => rfl
    | ok named =>
        obtain ⟨-, -, -, -, -, -, -, hpayload, -⟩ := AccountInput.changes_ok_iff.mp hchanges
        have habsent : (data.without "password").get "encryptedPassword" = none := by
          rw [JsObject.get_without_of_ne _ (by decide), hdata.2]
        rw [AccountInput.textUpdate_of_absent habsent] at hpayload
        have hnone : named.encryptedPassword = none := (Except.ok.inj hpayload).symm
        simp only [Except.map, revealChanges, hnone, Option.map_none]
        rw [← hnone]

/-- The changes commute with the opening of a row of the user. -/
theorem apply_revealChanges {named : AccountInput.Changes} {row : Account}
    (howner : named.userId = none)
    (hkey : named.encryptedPassword ≠ none → key = keyOf row.userId) :
    (revealChanges key named).apply now (row.reveal (ownerKey keyOf)) =
      (named.apply now row).reveal (ownerKey keyOf) := by
  unfold Account.reveal AccountInput.Changes.apply revealChanges ownerKey
  simp only [howner, Option.getD_none]
  cases hpayload : named.encryptedPassword with
  | none => rfl
  | some payload => rw [hkey (by simp [hpayload])]; rfl

theorem update_simulates (haes : R.AesGcmLaws) {data : JsObject} (hdata : OwnColumns data)
    (hnested : data.get "user" = none)
    (hkey : (data.get "password").any Json.truthy = true → key = keyOf userId) (iv : R.Iv) :
    Simulates (Reveals (ownerKey keyOf)) (update userId id key now iv data)
      (update (R := R.plain) userId id () now () data)
      fun row row' => row' = row.reveal (ownerKey keyOf) := by
  refine Agrees.bind findOwned_agrees ?_
  rintro row _
  apply convertDuplicate_agrees
  rintro db plain ⟨rfl, -, hfind, huser⟩
  have hdatas := updateData_reveal haes hdata key iv
  rw [ofExcept_bind_ofExcept, ofExcept_bind_ofExcept, hdatas]
  cases hchanges : updateData data key iv >>= AccountInput.changes R with
  | error e => exact .error rfl
  | ok named =>
      obtain ⟨columns, hcolumns, hnamed⟩ := AccountInput.bind_ok_iff.mp hchanges
      obtain ⟨-, -, huserId, -, -, -, -, hpayload, -⟩ := AccountInput.changes_ok_iff.mp hnamed
      obtain ⟨howner, hencrypted⟩ := updateData_columns hdata hcolumns
      rw [AccountInput.textUpdate_of_absent howner] at huserId
      have hreplaces := @update_replaces R key now _ _ iv _ hcolumns hnamed hnested id
      have huser' : (revealChanges key named).user = none :=
        (changes_user hcolumns hnamed).trans hnested
      change SameOutcome _ _ (named.update R now id db)
        ((revealChanges key named).update R.plain now id (db.reveal _))
      rw [hreplaces, AccountInput.Changes.update_of_none huser']
      refine replace_simulates fun other hother hid => apply_revealChanges ?_ fun hnew => ?_
      · exact (Except.ok.inj huserId).symm
      · -- A new ciphertext is under the key of the user, who owns the row.
        obtain ⟨hrow, hsame⟩ := Table.find?_eq_some_iff.mp hfind
        obtain rfl := db.accounts.eq_of_key_eq hother hrow (hid.trans hsame.symm)
        rw [huser]
        rcases hencrypted with habsent | ⟨htruthy, -⟩
        · rw [AccountInput.textUpdate_of_absent habsent] at hpayload
          exact absurd (Except.ok.inj hpayload).symm hnew
        · exact hkey htruthy

theorem remove_simulates :
    Simulates (Reveals (ownerKey keyOf)) (remove userId id) (remove userId id)
      fun _ _ => True := by
  refine Agrees.bind findOwned_agrees ?_
  rintro row row' db plain ⟨hreveals, -⟩
  exact Simulates.bind (delete_simulates id) (fun _ _ _ => Simulates.pure trivial) db plain hreveals

/-! ### Backup -/

theorem exportEntry_reveal {row : Account} (hkey : key = keyOf row.userId) :
    exportEntry (R := R.plain) () (row.reveal (ownerKey keyOf)) = exportEntry key row := by
  unfold exportEntry
  rw [decryptPassword_reveal hkey]
  rfl

/-- The opened rows of the user are written to the same entries. -/
theorem exportEntries_reveal {rows : List Account} (hkey : key = keyOf userId)
    (howned : ∀ row ∈ rows, row.userId = userId) :
    (rows.map (Account.reveal (ownerKey keyOf))).mapM (exportEntry (R := R.plain) ()) =
      rows.mapM (exportEntry key) := by
  induction rows with
  | nil => rfl
  | cons row rest ih =>
      have huser : row.userId = userId := howned row List.mem_cons_self
      rw [List.map_cons, List.mapM_cons, List.mapM_cons,
        exportEntry_reveal (hkey.trans (congrArg keyOf huser.symm)),
        ih fun other hother => howned other (List.mem_cons_of_mem _ hother)]

/-- The backup file with what the export password opens as its payload. -/
def revealFile (R : Runtime) (exportPassword : Option String) (file : BackupFile) : BackupFile :=
  { file with
    payload := revealed (exportPassword.bind fun password =>
      R.decrypt file.payload (R.deriveEncryptionKey password file.salt)) }

theorem exportAccounts_simulates (haes : R.AesGcmLaws) (hkey : key = keyOf userId)
    (exportPassword : Option String) (salt : String) (iv : R.Iv) :
    Simulates (Reveals (ownerKey keyOf)) (exportAccounts userId key exportPassword now salt iv)
      (exportAccounts (R := R.plain) userId () exportPassword now salt ())
      fun file file' => file' = revealFile R exportPassword file := by
  refine Simulates.bind (findMany_simulates fun row => rfl) ?_
  rintro rows _ ⟨rfl, howned⟩
  have hsorted : (rows.map (Account.reveal (ownerKey keyOf))).mergeSort
      (fun a b => a.createdAt ≤ b.createdAt) =
        (rows.mergeSort fun a b => a.createdAt ≤ b.createdAt).map
          (Account.reveal (ownerKey keyOf)) :=
    (List.map_mergeSort (f := Account.reveal (ownerKey keyOf)) fun _ _ _ _ => rfl).symm
  rw [hsorted, exportEntries_reveal hkey fun row hrow => by
    simpa using howned row (List.mem_mergeSort.mp hrow)]
  refine Simulates.bind Simulates.ofExcept_self ?_
  rintro plain _ ⟨rfl, -⟩
  cases exportPassword with
  | none => exact Simulates.raise
  | some password =>
      refine Simulates.pure ?_
      simp [revealFile, haes.decrypt_encrypt, revealed]

theorem openBackup_reveal (exportPassword : Option String) (file : BackupFile) :
    openBackup (R := R.plain) exportPassword (revealFile R exportPassword file) =
      openBackup (R := R) exportPassword file := by
  unfold openBackup
  cases exportPassword with
  | none => rfl
  | some password => simp [revealFile]

theorem importAccounts_simulates (haes : R.AesGcmLaws) (hkey : key = keyOf userId)
    {fresh : Nat → FreshAccount R} {exportPassword : Option String} {file : BackupFile}
    (hentries : ∀ entries, openBackup (R := R) exportPassword file = .ok entries →
      ∀ entry, .obj entry ∈ entries → OwnColumns entry) :
    Simulates (Reveals (ownerKey keyOf)) (importAccounts userId key now fresh exportPassword file)
      (importAccounts (R := R.plain) userId () now (fun i => ⟨(fresh i).id, ()⟩) exportPassword
        (revealFile R exportPassword file))
      fun counts counts' => counts' = counts := by
  unfold importAccounts
  rw [openBackup_reveal]
  refine Simulates.bind Simulates.ofExcept_self ?_
  rintro _ entries ⟨rfl, hopen⟩
  have hloop : ∀ counts counts' : ImportResult, counts' = counts → ∀ entry ∈ entries.zipIdx,
      Simulates (Reveals (ownerKey keyOf)) (importEntry userId key now fresh counts entry)
        (importEntry (R := R.plain) userId () now (fun i => ⟨(fresh i).id, ()⟩) counts' entry)
        fun counts counts' => counts' = counts := by
    rintro counts _ rfl entry hentry
    refine Simulates.recover (Simulates.bind Simulates.ofExcept_self ?_) fun e => ?_
    · rintro _ data ⟨rfl, hdata⟩
      have hcolumns : OwnColumns data := entryData_ownColumns
        (fun object hobject => hentries entries hopen object
          (hobject ▸ List.fst_mem_of_mem_zipIdx hentry)) hdata
      exact Simulates.bind (create_simulates haes hkey (fresh entry.2) hcolumns)
        fun _ _ _ => Simulates.pure rfl
    · -- A conflict is counted by both, any other exception ends both.
      cases e <;> first | exact Simulates.pure rfl | exact Simulates.raise
  exact Simulates.foldlM hloop rfl

end Services

end AccountsService

/-! ## Requests and their answers -/

/-- What the browser is told, with every ciphertext left out. A backup file answers with the
text that its export password opens. -/
inductive VaultReply where
  | done
  | account (account : Account)
  | opened (account : Account) (password : String)
  | backup (file : BackupFile) (text : Option String)
  | imported (result : ImportResult)

namespace AccountRequest

/-- The service method a request calls, with its answer. -/
def reply (userId : String) (encryptionKey : R.Key) (now : Int) :
    AccountRequest R → Query VaultReply
  | .findOne id => do
      let (account, password) ← AccountsService.findOne userId id encryptionKey
      pure (.opened account.hidden password)
  | .create body fresh => do
      let account ← AccountsService.create userId encryptionKey now fresh body
      pure (.account account.hidden)
  | .update id body iv => do
      let account ← AccountsService.update userId id encryptionKey now iv body
      pure (.account account.hidden)
  | .remove id => do
      let _ ← AccountsService.remove userId id
      pure .done
  | .exportAccounts exportPassword salt iv => do
      let file ← AccountsService.exportAccounts userId encryptionKey exportPassword now salt iv
      pure (.backup { file with payload := "" } (exportPassword.bind fun password =>
        R.decrypt file.payload (R.deriveEncryptionKey password file.salt)))
  | .importAccounts exportPassword file fresh => do
      let result ← AccountsService.importAccounts userId encryptionKey now fresh exportPassword file
      pure (.imported result)

/-- The request uses the key of its guard when it is accepted. -/
def usesKey : AccountRequest R → Bool
  | .findOne _ | .exportAccounts _ _ _ => true
  | request => request.writesPassword

/-- The request to the vault without encryption. -/
def plain : AccountRequest R → AccountRequest R.plain
  | .findOne id => .findOne id
  | .create body fresh => .create body ⟨fresh.id, ()⟩
  | .update id body _ => .update id body ()
  | .remove id => .remove id
  | .exportAccounts exportPassword salt _ => .exportAccounts exportPassword salt ()
  | .importAccounts exportPassword file fresh =>
      .importAccounts exportPassword (AccountsService.revealFile R exportPassword file)
        fun i => ⟨(fresh i).id, ()⟩

variable {keyOf : String → R.Key} {userId : String} {key : R.Key} {now : Int}

/-- The answer of a request only adds to what the service does. -/
theorem service_eq_reply (request : AccountRequest R) (userId : String) (key : R.Key) (now : Int) :
    request.service userId key now = request.reply userId key now >>= fun _ => pure () := by
  have hlawful : LawfulMonad (Handler Exception Database) := lawfulMonad
  cases request <;> simp [service, reply]

/-- Both vaults answer a request alike. -/
theorem reply_simulates (haes : R.AesGcmLaws) (request : AccountRequest R)
    (hcolumns : request.OwnColumns) (hkey : request.usesKey = true → key = keyOf userId) :
    Simulates (Reveals (ownerKey keyOf)) (request.reply userId key now)
      (request.plain.reply userId () now) fun reply reply' => reply' = reply := by
  cases request with
  | findOne id =>
      refine Simulates.bind (AccountsService.findOne_simulates (hkey rfl)) ?_
      rintro ⟨row, password⟩ _ rfl
      exact Simulates.pure rfl
  | create body fresh =>
      refine Simulates.bind (AccountsService.create_simulates haes (hkey rfl) fresh hcolumns) ?_
      rintro row _ rfl
      exact Simulates.pure rfl
  | update id body iv =>
      refine Simulates.bind (AccountsService.update_simulates haes hcolumns.1 hcolumns.2 hkey iv) ?_
      rintro row _ rfl
      exact Simulates.pure rfl
  | remove id => exact Simulates.bind AccountsService.remove_simulates fun _ _ _ => Simulates.pure rfl
  | exportAccounts exportPassword salt iv =>
      refine Simulates.bind
        (AccountsService.exportAccounts_simulates haes (hkey rfl) exportPassword salt iv) ?_
      rintro file _ rfl
      refine Simulates.pure ?_
      cases exportPassword <;> simp [AccountsService.revealFile]
  | importAccounts exportPassword file fresh =>
      refine Simulates.bind (AccountsService.importAccounts_simulates haes (hkey rfl) hcolumns) ?_
      rintro counts _ rfl
      exact Simulates.pure rfl

end AccountRequest

end MyAccountController
