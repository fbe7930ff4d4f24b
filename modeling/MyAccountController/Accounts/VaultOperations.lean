import MyAccountController.Accounts.AccountWrites
import MyAccountController.Auth.ChangeMasterPassword
import MyAccountController.Foundation.Interleaving

/-! # Account writes in turns

A creation is one query. An update and a removal look the account up first and
write it with a second query, so other requests run in between. An operation
whose body names only the declared fields keeps the id and the owner of every
row, and only one that carries a password writes a ciphertext.
-/

namespace MyAccountController

open Foundation AuthService

variable {R : Runtime}

/-- The account requests that write one row. -/
inductive VaultOp (R : Runtime) where
  | create (body : JsObject) (fresh : FreshAccount R)
  | update (id : String) (body : JsObject) (iv : R.Iv)
  | remove (id : String)

/-- Which query of the operation is next. -/
inductive VaultPhase where
  | find
  | write
  deriving DecidableEq

namespace AccountsService

/-- What `update` does after it has found the account. -/
def writeUpdate (id : String) (encryptionKey : R.Key) (now : Int) (iv : R.Iv) (data : JsObject) :
    Query Account :=
  convertDuplicate do
    let data ← Handler.ofExcept (updateData data encryptionKey iv)
    let changes ← Handler.ofExcept (AccountInput.changes R data)
    changes.update R now id

theorem writeUpdate_ok_iff {id : String} {encryptionKey : R.Key} {now : Int} {iv : R.Iv}
    {data : JsObject} {row : Account} {db db' : Database} :
    writeUpdate id encryptionKey now iv data db = (.ok row, db') ↔
      ∃ columns changes, updateData data encryptionKey iv = .ok columns ∧
        AccountInput.changes R columns = .ok changes ∧
        changes.update R now id db = (.ok row, db') := by
  simp only [writeUpdate, convertDuplicate_ok_iff, Handler.bind_ok_iff, Handler.ofExcept_run,
    Prod.mk.injEq]
  constructor
  · rintro ⟨columns, _, ⟨hcolumns, rfl⟩, changes, _, ⟨hchanges, rfl⟩, hreplace⟩
    exact ⟨columns, changes, hcolumns, hchanges, hreplace⟩
  · rintro ⟨columns, changes, hcolumns, hchanges, hreplace⟩
    exact ⟨columns, db, ⟨hcolumns, rfl⟩, changes, db, ⟨hchanges, rfl⟩, hreplace⟩

/-- A write that fails changes nothing. -/
theorem writeUpdate_error {id : String} {encryptionKey : R.Key} {now : Int} {iv : R.Iv}
    {data : JsObject} {e : Exception} {db db' : Database}
    (hrun : writeUpdate id encryptionKey now iv data db = (.error e, db')) : db' = db := by
  obtain ⟨e', hrun, -⟩ := convertDuplicate_error_iff.mp hrun
  rcases Handler.bind_error_iff.mp hrun with hcolumns | ⟨_, _, hcolumns, hrun⟩
  · exact (Prod.mk.inj hcolumns).2.symm
  obtain ⟨-, rfl⟩ := Prod.mk.inj hcolumns
  rcases Handler.bind_error_iff.mp hrun with hchanges | ⟨_, _, hchanges, hreplace⟩
  · exact (Prod.mk.inj hchanges).2.symm
  obtain ⟨-, rfl⟩ := Prod.mk.inj hchanges
  exact AccountInput.Changes.update_error hreplace

end AccountsService

namespace VaultOp

def request : VaultOp R → AccountRequest R
  | create body fresh => .create body fresh
  | update id body iv => .update id body iv
  | remove id => .remove id

/-- The operation encrypts a password. -/
def writesPassword (op : VaultOp R) : Bool := op.request.writesPassword

/-- The id of the row that the operation locks. -/
def target : VaultOp R → Option String
  | create _ _ => none
  | update id _ _ | remove id => some id

/-- The fields of the request bodies of `create` and `update`. -/
def declaredFields : List String :=
  ["serviceName", "urlOrAppName", "category", "loginId", "password", "memo"]

/-- The body names declared fields only. -/
def Declared : VaultOp R → Prop
  | create body _ | update _ body _ => ∀ name ∈ body.names, name ∈ declaredFields
  | remove _ => True

instance : ∀ op : VaultOp R, Decidable op.Declared
  | create body _ | update _ body _ =>
      inferInstanceAs (Decidable (∀ name ∈ JsObject.names body, name ∈ declaredFields))
  | remove _ => isTrue trivial

def firstPhase : VaultOp R → VaultPhase
  | create _ _ => .write
  | update _ _ _ | remove _ => .find

/-- One query of the operation. -/
def turn (userId : String) (key : R.Key) (now : Int) (op : VaultOp R) :
    VaultPhase → Query (Option VaultPhase)
  | .find =>
      match op with
      | create _ _ => pure (some .write)
      | update id _ _ | remove id => do
          let _ ← AccountsService.findOwned userId id
          pure (some .write)
  | .write =>
      match op with
      | create body fresh => do
          let _ ← AccountsService.create userId key now fresh body
          pure none
      | update id body iv => do
          let _ ← AccountsService.writeUpdate id key now iv body
          pure none
      | remove id => do
          let _ ← Prisma.account.delete id
          pure none

/-- Alone, the queries are the service method. -/
theorem turn_inRow (userId : String) (key : R.Key) (now : Int) (op : VaultOp R) :
    inRow (op.turn userId key now) 2 op.firstPhase = op.request.service userId key now := by
  have : LawfulMonad (Handler Exception Database) := Handler.lawfulMonad
  cases op with
  | create body fresh =>
      simp only [firstPhase, inRow, turn, request, AccountRequest.service, bind_assoc, pure_bind]
  | update id body iv =>
      simp only [firstPhase, inRow, turn, request, AccountRequest.service, AccountsService.update,
        bind_assoc, pure_bind]
      rfl
  | remove id =>
      simp only [firstPhase, inRow, turn, request, AccountRequest.service, AccountsService.remove,
        bind_assoc, pure_bind]

section Outcomes

variable {userId : String} {key : R.Key} {now : Int} {op : VaultOp R} {db db' : Database}

theorem declared_absent {body : JsObject} (hbody : ∀ name ∈ body.names, name ∈ declaredFields)
    {name : String} (hname : name ∉ declaredFields) : body.get name = none :=
  JsObject.get_eq_none_of_not_mem fun hmem => hname (hbody name hmem)

theorem Declared.ownColumns (hop : op.Declared) : op.request.OwnColumns := by
  cases op with
  | create body fresh => exact ⟨declared_absent hop (by decide), declared_absent hop (by decide)⟩
  | update id body iv =>
      exact ⟨⟨declared_absent hop (by decide), declared_absent hop (by decide)⟩,
        declared_absent hop (by decide)⟩
  | remove id => trivial

/-- A lookup changes nothing. -/
theorem find_state (db : Database) : (op.turn userId key now .find db).2 = db := by
  have howned : ∀ id, (AccountsService.findOwned userId id db).2 = db := by
    intro id
    rcases hfind : AccountsService.findOwned userId id db with ⟨e | row, after⟩
    · exact (AccountsService.findOwned_error hfind).2
    · exact (AccountsService.findOwned_ok_iff.mp hfind).2
  cases op with
  | create body fresh => rfl
  | update id body iv => exact (Handler.bind_pure_state _ _ _).trans (howned id)
  | remove id => exact (Handler.bind_pure_state _ _ _).trans (howned id)

/-- A lookup that succeeds has found a row of the user. -/
theorem find_owned {answer : Option VaultPhase}
    (hrun : op.turn userId key now .find db = (.ok answer, db')) :
    ∀ id ∈ op.target, ∀ row, db.accounts.find? id = some row → row.userId = userId := by
  have howned : ∀ id row, (∃ found after, AccountsService.findOwned userId id db =
      (.ok found, after)) → db.accounts.find? id = some row → row.userId = userId := by
    rintro id row ⟨found, after, hfind⟩ hrow
    obtain ⟨⟨hfound, huser⟩, -⟩ := AccountsService.findOwned_ok_iff.mp hfind
    rw [hrow] at hfound
    rwa [Option.some.inj hfound]
  intro id hid row hrow
  cases op with
  | create body fresh => contradiction
  | update id' body iv =>
      obtain rfl := Option.some.inj hid
      obtain ⟨found, after, hfind, -⟩ := Handler.bind_ok_iff.mp hrun
      exact howned id' row ⟨found, after, hfind⟩ hrow
  | remove id' =>
      obtain rfl := Option.some.inj hid
      obtain ⟨found, after, hfind, -⟩ := Handler.bind_ok_iff.mp hrun
      exact howned id' row ⟨found, after, hfind⟩ hrow

/-- A write that fails changes nothing. -/
theorem write_error {e : Exception} (hrun : op.turn userId key now .write db = (.error e, db')) :
    db' = db := by
  cases op with
  | create body fresh => exact AccountsService.create_error (Handler.bind_pure_error_iff.mp hrun)
  | remove id =>
      exact ((Model.delete_error_iff _).mp (Handler.bind_pure_error_iff.mp hrun)).2.2
  | update id body iv =>
      exact AccountsService.writeUpdate_error (Handler.bind_pure_error_iff.mp hrun)

/-- A write never waits for another query. -/
theorem write_ends {answer : Option VaultPhase}
    (hrun : op.turn userId key now .write db = (.ok answer, db')) : answer = none := by
  cases op with
  | create body fresh | update id body iv | remove id =>
      obtain ⟨_, _, -, hpure⟩ := Handler.bind_ok_iff.mp hrun
      exact (Except.ok.inj (Prod.mk.inj hpure).1).symm

/-- A write that succeeds on a row that is still the user's does what the whole
service method does at that moment. -/
theorem service_of_write (hop : op.Declared) {answer : Option VaultPhase}
    (howned : ∀ id ∈ op.target, ∀ row, db.accounts.find? id = some row → row.userId = userId)
    (hrun : op.turn userId key now .write db = (.ok answer, db')) :
    op.request.service userId key now db = (.ok (), db') := by
  have hfind : ∀ id row, id ∈ op.target → db.accounts.find? id = some row →
      AccountsService.findOwned userId id db = (.ok row, db) := by
    intro id row hid hrow
    exact AccountsService.findOwned_ok_iff.mpr ⟨⟨hrow, howned id hid row hrow⟩, rfl⟩
  cases op with
  | create body fresh =>
      obtain ⟨row, after, hcreate, hpure⟩ := Handler.bind_ok_iff.mp hrun
      obtain ⟨-, rfl⟩ := Prod.mk.inj hpure
      exact Handler.bind_ok_iff.mpr ⟨row, after, hcreate, rfl⟩
  | update id body iv =>
      obtain ⟨row, after, hwrite, hpure⟩ := Handler.bind_ok_iff.mp hrun
      obtain ⟨-, rfl⟩ := Prod.mk.inj hpure
      obtain ⟨columns, changes, hcolumns, hchanges, hreplace⟩ :=
        AccountsService.writeUpdate_ok_iff.mp hwrite
      have hreplace' := hreplace
      rw [AccountsService.update_replaces hcolumns hchanges hop.ownColumns.2] at hreplace'
      obtain ⟨before, _, hbefore, -⟩ := (Model.replace_ok_iff _).mp hreplace'
      refine Handler.bind_ok_iff.mpr ⟨row, after, AccountsService.update_ok_iff.mpr ?_, rfl⟩
      exact ⟨before, columns, changes, ⟨hbefore, howned id rfl before hbefore⟩, hcolumns, hchanges,
        hreplace⟩
  | remove id =>
      obtain ⟨row, after, hdelete, hpure⟩ := Handler.bind_ok_iff.mp hrun
      obtain ⟨-, rfl⟩ := Prod.mk.inj hpure
      obtain ⟨hrow, -⟩ := (Model.delete_ok_iff _).mp hdelete
      refine Handler.bind_ok_iff.mpr ⟨row, db, hfind id row rfl hrow, ?_⟩
      exact Handler.bind_ok_iff.mpr ⟨row, after, hdelete, rfl⟩

/-- What a write that succeeds changes in the database. -/
theorem write_vaultWrite (hop : op.Declared) {answer : Option VaultPhase}
    (howned : ∀ id ∈ op.target, ∀ row, db.accounts.find? id = some row → row.userId = userId)
    (hrun : op.turn userId key now .write db = (.ok answer, db')) :
    VaultWrite R userId (fun allowed => op.writesPassword = true ∧ allowed = key) db db' := by
  have hkeeps : VaultWrite R userId (fun allowed => op.writesPassword = true ∧ allowed = key) db
      (op.request.service userId key now db).2 :=
    op.request.service_vaultWrite hop.ownColumns db
  rw [service_of_write hop howned hrun] at hkeeps
  exact hkeeps

/-- The snapshot and the rows it names after a write without a password: one row
may be gone, and everything else is as before. -/
structure OnlyRemoves (userId : String) (removed : Option String) (db db' : Database) : Prop where
  snapshot : AuthService.snapshot db' userId =
    (AuthService.snapshot db userId).filter fun secret => removed ≠ some secret.id
  present : ∀ id, (db'.accounts.find? id).isSome =
    ((db.accounts.find? id).isSome && decide (removed ≠ some id))

/-- A map of the rows that keeps ids, owners and ciphertexts. -/
theorem onlyRemoves_map {g : Account → Account}
    (hg : ∀ row, (g row).id = row.id ∧ (g row).userId = row.userId ∧
      (g row).encryptedPassword = row.encryptedPassword)
    (hrows : db'.accounts.rows = db.accounts.rows.map g) : OnlyRemoves userId none db db' where
  snapshot := by
    have hselect : (fun row : Account => decide (row.userId = userId)) ∘ g =
        fun row => decide (row.userId = userId) := by
      funext row
      simp [(hg row).2.1]
    have hsecret : AccountSecret.ofAccount ∘ g = AccountSecret.ofAccount := by
      funext row
      simp [AccountSecret.ofAccount, (hg row).1, (hg row).2.2]
    rw [snapshot, hrows, List.filter_map, List.map_map, hselect, hsecret]
    simp [snapshot]
  present := by
    intro id
    rw [Table.find?, hrows, List.find?_map, Option.isSome_map]
    have hpred : (fun row : Account => decide (key row = id)) ∘ g =
        fun row => decide (key row = id) := by
      funext row
      show decide ((g row).id = id) = decide (row.id = id)
      rw [(hg row).1]
    rw [hpred]
    simp [Table.find?]

theorem onlyRemoves_delete (id : String) :
    OnlyRemoves userId (some id) db
      (Prisma.account.withTable db (db.accounts.delete id)) where
  snapshot := by
    show (((db.accounts.rows.filter _).filter _).map _) = _
    rw [snapshot, List.filter_map, List.filter_filter, List.filter_filter]
    congr 1
    apply List.filter_congr
    intro row _
    show (decide (row.userId = userId) && !decide (row.id = id)) =
      (decide (some id ≠ some row.id) && decide (row.userId = userId))
    simp only [ne_eq, Option.some.injEq, decide_not, Bool.and_comm, eq_comm (a := id)]
  present := by
    intro other
    show ((db.accounts.delete id).find? other).isSome = _
    cases hfind : db.accounts.find? other with
    | none =>
        have : (db.accounts.delete id).find? other = none := by
          rw [Option.eq_none_iff_forall_ne_some]
          intro row hrow
          rw [Table.delete, Table.find?_deleteWhere, hfind] at hrow
          exact absurd hrow.1 (by simp)
        rw [this]
        rfl
    | some row =>
        have hkey := (Table.find?_eq_some_iff.mp hfind).2
        by_cases heq : id = other
        · subst heq
          have : (db.accounts.delete id).find? id = none := by
            rw [Option.eq_none_iff_forall_ne_some]
            intro other hother
            rw [Table.delete, Table.find?_deleteWhere] at hother
            obtain ⟨hother, hkept⟩ := hother
            simp [(Table.find?_eq_some_iff.mp hother).2] at hkept
          rw [this]
          simp
        · have : (db.accounts.delete id).find? other = some row := by
            rw [Table.delete, Table.find?_deleteWhere]
            refine ⟨hfind, ?_⟩
            rw [hkey]
            simpa using Ne.symm heq
          rw [this]
          simp [heq]

/-- A write without a password keeps every ciphertext with its row. -/
theorem write_onlyRemoves (hop : op.Declared) (hquiet : op.writesPassword = false)
    {answer : Option VaultPhase}
    (hrun : op.turn userId key now .write db = (.ok answer, db')) :
    OnlyRemoves userId none db db' ∨
      ∃ id, op.target = some id ∧ OnlyRemoves userId (some id) db db' := by
  cases op with
  | create body fresh => contradiction
  | update id body iv =>
      obtain ⟨row, after, hwrite, hpure⟩ := Handler.bind_ok_iff.mp hrun
      obtain ⟨-, rfl⟩ := Prod.mk.inj hpure
      obtain ⟨columns, changes, hcolumns, hchanges, hreplace⟩ :=
        AccountsService.writeUpdate_ok_iff.mp hwrite
      rw [AccountsService.update_replaces hcolumns hchanges hop.ownColumns.2] at hreplace
      obtain ⟨-, accounts, -, -, -, htable, rfl⟩ := (Model.replace_ok_iff _).mp hreplace
      have habsent : columns.get "id" = none :=
        (AccountsService.updateData_get hcolumns (by decide) (by decide)).trans
          (declared_absent hop (by decide))
      have hid : ∀ row, (changes.apply now row).id = row.id := by
        intro row
        have hnamed := (AccountInput.changes_ok_iff.mp hchanges).2.1
        have hkept : changes.id = none :=
          (Except.ok.inj ((AccountInput.textUpdate_of_absent habsent).symm.trans hnamed)).symm
        rw [AccountInput.Changes.apply, hkept]
        rfl
      have hrow : ∀ row, (changes.apply now row).userId = row.userId ∧ _ :=
        AccountsService.apply_changes hop.ownColumns.1 hcolumns hchanges
      refine .inl (onlyRemoves_map ?_ (Table.replace?_eq_some htable))
      intro row
      split
      · refine ⟨hid row, (hrow row).1, ?_⟩
        rcases (hrow row).2 with hsame | ⟨htruthy, -⟩
        · exact hsame
        · exact absurd (hquiet.symm.trans htruthy) (by decide)
      · exact ⟨rfl, rfl, rfl⟩
  | remove id =>
      obtain ⟨row, after, hdelete, hpure⟩ := Handler.bind_ok_iff.mp hrun
      obtain ⟨-, rfl⟩ := Prod.mk.inj hpure
      obtain ⟨-, rfl⟩ := (Model.delete_ok_iff _).mp hdelete
      exact .inr ⟨id, rfl, onlyRemoves_delete id⟩

end Outcomes

end VaultOp

end MyAccountController
