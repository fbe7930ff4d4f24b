import MyAccountController.Application.Requests

/-! # References between the rows

Rows are only deleted together with the rows that refer to them, and users are
never deleted. So in every state reached without a nested write every foreign key
names a row and every session names a stored user, and no request ends with an
error because a row that it relies on is missing.
-/

namespace MyAccountController

open Foundation Handler Database

variable {R : Runtime}

/-! ## Foreign keys -/

/-- The foreign keys of every row of the model name rows. -/
def Model.Closed {Row : Type} [Entity Row String] (model : Model Row) (db : Database) : Prop :=
  ∀ row ∈ (model.table db).rows, model.references db row = true

namespace Database

/-- Every foreign key of the database names a row. -/
structure Referential (db : Database) : Prop where
  trustedDevices : Prisma.trustedDevice.Closed db
  accounts : Prisma.account.Closed db
  emailAccounts : Prisma.emailAccount.Closed db
  emailRules : Prisma.emailRule.Closed db
  emailRuleConditions : Prisma.emailRuleCondition.Closed db
  emailCandidates : Prisma.emailCandidate.Closed db

theorem referential_empty : Referential .empty := by
  constructor <;> exact fun row hrow => absurd hrow List.not_mem_nil

/-- The rows that foreign keys name are still there. -/
structure KeepsTargets (db db' : Database) : Prop where
  users : ∀ id, (db.users.find? id).isSome = true → (db'.users.find? id).isSome = true
  emailAccounts : ∀ id,
    (db.emailAccounts.find? id).isSome = true → (db'.emailAccounts.find? id).isSome = true
  emailRules : ∀ id,
    (db.emailRules.find? id).isSome = true → (db'.emailRules.find? id).isSome = true

/-- A write that deletes no row with references to it, and whose new rows refer to rows that are
there. -/
theorem Referential.of_write (db : Database) {db' : Database} (htargets : KeepsTargets db db')
    (hdevices : ∀ row ∈ db'.trustedDevices.rows, Prisma.trustedDevice.references db row = true)
    (haccounts : ∀ row ∈ db'.accounts.rows, Prisma.account.references db row = true)
    (hmailboxes : ∀ row ∈ db'.emailAccounts.rows, Prisma.emailAccount.references db row = true)
    (hrules : ∀ row ∈ db'.emailRules.rows, Prisma.emailRule.references db row = true)
    (hconditions : ∀ row ∈ db'.emailRuleConditions.rows,
      Prisma.emailRuleCondition.references db row = true)
    (hcandidates : ∀ row ∈ db'.emailCandidates.rows,
      Prisma.emailCandidate.references db row = true) : Referential db' where
  trustedDevices row hrow := htargets.users _ (hdevices row hrow)
  accounts row hrow := htargets.users _ (haccounts row hrow)
  emailAccounts row hrow := htargets.users _ (hmailboxes row hrow)
  emailRules row hrow := htargets.emailAccounts _ (hrules row hrow)
  emailRuleConditions row hrow := htargets.emailRules _ (hconditions row hrow)
  emailCandidates row hrow := by
    have hboth := hcandidates row hrow
    unfold Prisma.emailCandidate at hboth ⊢
    rw [Bool.and_eq_true] at hboth ⊢
    exact ⟨htargets.emailRules _ hboth.1, htargets.emailAccounts _ hboth.2⟩

section Rows

variable {Row : Type} [Entity Row String] {table table' : Table Row} {p : Row → Prop}

theorem forall_inserted {row : Row} (hinsert : table.insert? row = some table')
    (hold : ∀ other ∈ table.rows, p other) (hnew : p row) : ∀ other ∈ table'.rows, p other := by
  rw [(Table.insert?_eq_some_iff.mp hinsert).2]
  simpa [or_imp, forall_and] using ⟨hold, hnew⟩

theorem forall_modified {id : String} {f : Row → Row} (hf : Table.Unindexed f)
    (hold : ∀ row ∈ table.rows, p row) (hkept : ∀ row, p row → p (f row)) :
    ∀ row ∈ (table.modify id f hf).rows, p row := by
  intro row hrow
  rw [Table.rows_modify] at hrow
  obtain ⟨before, hbefore, rfl⟩ := List.mem_map.mp hrow
  split
  · exact hkept before (hold before hbefore)
  · exact hold before hbefore

/-- A row is found after an update, with what the update keeps. -/
theorem exists_modified {id other : String} {f : Row → Row} (hf : Table.Unindexed f)
    (hkept : ∀ row, p row → p (f row)) {row : Row} (hfind : table.find? other = some row)
    (hrow : p row) : ∃ row', (table.modify id f hf).find? other = some row' ∧ p row' := by
  by_cases hid : other = id
  · subst hid
    exact ⟨f row, Table.find?_modify hf hfind, hkept row hrow⟩
  · exact ⟨row, (Table.find?_modify_of_ne hf hid).trans hfind, hrow⟩

theorem forall_kept {drop : Row → Bool} (hold : ∀ row ∈ table.rows, p row) :
    ∀ row ∈ (table.deleteWhere drop).rows, p row :=
  fun row hrow => hold row (List.mem_of_mem_filter hrow)

end Rows

/-- A write to the accounts keeps the references. -/
theorem AccountWrite.referential {db db' : Database} (hwrite : AccountWrite db db')
    (hdb : db.Referential) : db'.Referential := by
  have hothers : ∀ accounts : Table Account,
      (∀ row ∈ accounts.rows, Prisma.account.references db row = true) →
        Referential { db with accounts } := fun accounts haccounts =>
    .of_write db ⟨fun _ h => h, fun _ h => h, fun _ h => h⟩ hdb.trustedDevices haccounts
      hdb.emailAccounts hdb.emailRules hdb.emailRuleConditions hdb.emailCandidates
  cases hwrite with
  | created row accounts hreferences hinsert =>
      exact hothers accounts (forall_inserted hinsert hdb.accounts hreferences)
  | replaced id f before accounts hfind hreferences hreplace =>
      refine hothers accounts fun row hrow => ?_
      rw [Table.replace?_eq_some hreplace] at hrow
      obtain ⟨other, hother, rfl⟩ := List.mem_map.mp hrow
      split
      next hid =>
        obtain ⟨hbefore, hkey⟩ := Table.find?_eq_some_iff.mp hfind
        rw [db.accounts.eq_of_key_eq hother hbefore (hid.trans hkey.symm)]
        exact hreferences
      next => exact hdb.accounts other hother
  | removed id => exact hothers _ (forall_kept hdb.accounts)

theorem isSome_of_insert {Row : Type} [Entity Row String] {table table' : Table Row} {row : Row}
    (hinsert : table.insert? row = some table') (id : String)
    (hsome : (table.find? id).isSome = true) : (table'.find? id).isSome = true := by
  obtain ⟨found, hfound⟩ := Option.isSome_iff_exists.mp hsome
  rw [Table.find?_of_insert hinsert hfound]
  rfl

/-- A write of a login or a master password keeps the references. -/
theorem IdentityWrite.referential {db db' : Database} (hwrite : IdentityWrite db db')
    (hdb : db.Referential) : db'.Referential := by
  cases hwrite with
  | userCreated row users hinsert =>
      exact .of_write db ⟨isSome_of_insert hinsert, fun _ h => h, fun _ h => h⟩ hdb.trustedDevices
        hdb.accounts hdb.emailAccounts hdb.emailRules hdb.emailRuleConditions hdb.emailCandidates
  | userChanged id f hf hprofile =>
      refine .of_write db ⟨fun other hsome => ?_, fun _ h => h, fun _ h => h⟩
        hdb.trustedDevices hdb.accounts hdb.emailAccounts hdb.emailRules hdb.emailRuleConditions
        hdb.emailCandidates
      rwa [Table.find?_modify_isSome]
  | reencrypted id payload now =>
      refine .of_write db ⟨fun _ h => h, fun _ h => h, fun _ h => h⟩
        hdb.trustedDevices ?_ hdb.emailAccounts hdb.emailRules hdb.emailRuleConditions
        hdb.emailCandidates
      have hf := AuthService.setEncryptedPassword_unindexed payload now
      exact forall_modified hf hdb.accounts fun _ hrow => hrow
  | deviceUsed id counter now =>
      refine .of_write db ⟨fun _ h => h, fun _ h => h, fun _ h => h⟩
        ?_ hdb.accounts hdb.emailAccounts hdb.emailRules hdb.emailRuleConditions
        hdb.emailCandidates
      have hf := WebAuthnService.setCounter_unindexed counter now
      exact forall_modified hf hdb.trustedDevices fun _ hrow => hrow
  | devicesRemoved drop =>
      exact .of_write db ⟨fun _ h => h, fun _ h => h, fun _ h => h⟩ (forall_kept hdb.trustedDevices)
        hdb.accounts hdb.emailAccounts hdb.emailRules hdb.emailRuleConditions hdb.emailCandidates

theorem DeviceRegistration.referential {db db' : Database} (hwrite : DeviceRegistration db db')
    (hdb : db.Referential) : db'.Referential := by
  obtain ⟨row, table, hreferences, hinsert⟩ := hwrite
  exact .of_write db ⟨fun _ h => h, fun _ h => h, fun _ h => h⟩
    (forall_inserted hinsert hdb.trustedDevices hreferences) hdb.accounts hdb.emailAccounts
    hdb.emailRules hdb.emailRuleConditions hdb.emailCandidates

theorem isSome_of_deleteWhere {Row : Type} [Entity Row String] {table : Table Row}
    {drop : Row → Bool} {id : String}
    (hkept : ∀ row, table.find? id = some row → drop row = false)
    (hsome : (table.find? id).isSome = true) :
    ((table.deleteWhere drop).find? id).isSome = true := by
  obtain ⟨row, hrow⟩ := Option.isSome_iff_exists.mp hsome
  rw [Table.find?_deleteWhere.mpr ⟨hrow, hkept row hrow⟩]
  rfl

/-- What a rule that is deleted leaves refers to other rules. -/
theorem referential_deleteRule {db : Database} (hdb : db.Referential) (id : String) :
    (db.deleteRule id).Referential := by
  have hrules : ∀ ruleId, ruleId ≠ id → (db.emailRules.find? ruleId).isSome = true →
      ((db.deleteRule id).emailRules.find? ruleId).isSome = true := by
    intro ruleId hne
    refine isSome_of_deleteWhere fun row hrow => decide_eq_false ?_
    rwa [(Table.find?_eq_some_iff.mp hrow).2]
  constructor
  case trustedDevices => exact hdb.trustedDevices
  case accounts => exact hdb.accounts
  case emailAccounts => exact hdb.emailAccounts
  case emailRules => exact forall_kept hdb.emailRules
  case emailRuleConditions =>
    intro row hrow
    obtain ⟨hrow, hkept⟩ := List.mem_filter.mp hrow
    exact hrules row.ruleId (by simpa using hkept) (hdb.emailRuleConditions row hrow)
  case emailCandidates =>
    intro row hrow
    obtain ⟨hrow, hkept⟩ := mem_deleteRule_candidates.mp hrow
    have hboth := hdb.emailCandidates row hrow
    unfold Prisma.emailCandidate at hboth ⊢
    rw [Bool.and_eq_true] at hboth ⊢
    exact ⟨hrules row.ruleId hkept hboth.1, hboth.2⟩

/-- What an email account that is deleted leaves refers to other accounts and their rules. -/
theorem referential_deleteEmailAccount {db : Database} (hdb : db.Referential) (id : String) :
    (db.deleteEmailAccount id).Referential := by
  have haccounts : ∀ accountId, accountId ≠ id →
      (db.emailAccounts.find? accountId).isSome = true →
        ((db.deleteEmailAccount id).emailAccounts.find? accountId).isSome = true := by
    intro accountId hne
    refine isSome_of_deleteWhere fun row hrow => decide_eq_false ?_
    rwa [(Table.find?_eq_some_iff.mp hrow).2]
  have hrules : ∀ ruleId, db.isRuleOf id ruleId = false →
      (db.emailRules.find? ruleId).isSome = true →
        ((db.deleteEmailAccount id).emailRules.find? ruleId).isSome = true := by
    intro ruleId hother
    refine isSome_of_deleteWhere fun row hrow => ?_
    rwa [isRuleOf, hrow] at hother
  constructor
  case trustedDevices => exact hdb.trustedDevices
  case accounts => exact hdb.accounts
  case emailAccounts => exact forall_kept hdb.emailAccounts
  case emailRules =>
    intro row hrow
    obtain ⟨hrow, hkept⟩ := mem_deleteEmailAccount_rules.mp hrow
    exact haccounts _ hkept (hdb.emailRules row hrow)
  case emailRuleConditions =>
    intro row hrow
    obtain ⟨hrow, hkept⟩ := List.mem_filter.mp hrow
    exact hrules row.ruleId (by simpa using hkept) (hdb.emailRuleConditions row hrow)
  case emailCandidates =>
    intro row hrow
    obtain ⟨hrow, hkept, hother⟩ := mem_deleteEmailAccount_candidates.mp hrow
    have hboth := hdb.emailCandidates row hrow
    unfold Prisma.emailCandidate at hboth ⊢
    rw [Bool.and_eq_true] at hboth ⊢
    exact ⟨hrules row.ruleId hother hboth.1, haccounts _ hkept hboth.2⟩

theorem MailWrite.referential {db db' : Database} (hwrite : MailWrite db db')
    (hdb : db.Referential) : db'.Referential := by
  cases hwrite with
  | connected row table hreferences hinsert =>
      exact .of_write db ⟨fun _ h => h, isSome_of_insert hinsert, fun _ h => h⟩ hdb.trustedDevices
        hdb.accounts (forall_inserted hinsert hdb.emailAccounts hreferences) hdb.emailRules
        hdb.emailRuleConditions hdb.emailCandidates
  | tokenRefreshed id token expires =>
      have hf := EmailAccount.setAccessToken_unindexed token expires
      refine .of_write db ⟨fun _ h => h, fun other hsome => ?_, fun _ h => h⟩
        hdb.trustedDevices hdb.accounts ?_ hdb.emailRules hdb.emailRuleConditions
        hdb.emailCandidates
      · exact (Table.find?_modify_isSome _ _ _ hf).trans hsome
      · exact forall_modified hf hdb.emailAccounts fun _ hrow => hrow
  | disconnected id => exact referential_deleteEmailAccount hdb id
  | ruleCreated row table hreferences hinsert =>
      exact .of_write db ⟨fun _ h => h, fun _ h => h, isSome_of_insert hinsert⟩ hdb.trustedDevices
        hdb.accounts hdb.emailAccounts (forall_inserted hinsert hdb.emailRules hreferences)
        hdb.emailRuleConditions hdb.emailCandidates
  | ruleChanged id changes =>
      have hf := changes.apply_unindexed
      refine .of_write db ⟨fun _ h => h, fun _ h => h, fun other hsome => ?_⟩
        hdb.trustedDevices hdb.accounts hdb.emailAccounts ?_ hdb.emailRuleConditions
        hdb.emailCandidates
      · exact (Table.find?_modify_isSome _ _ _ hf).trans hsome
      · exact forall_modified hf hdb.emailRules fun _ hrow => hrow
  | ruleRemoved id => exact referential_deleteRule hdb id
  | conditionCreated row table hreferences hinsert =>
      exact .of_write db ⟨fun _ h => h, fun _ h => h, fun _ h => h⟩ hdb.trustedDevices hdb.accounts
        hdb.emailAccounts hdb.emailRules
        (forall_inserted hinsert hdb.emailRuleConditions hreferences) hdb.emailCandidates
  | conditionsRemoved drop =>
      exact .of_write db ⟨fun _ h => h, fun _ h => h, fun _ h => h⟩ hdb.trustedDevices hdb.accounts
        hdb.emailAccounts hdb.emailRules (forall_kept hdb.emailRuleConditions) hdb.emailCandidates
  | candidateCreated row table hreferences hrule hinsert =>
      exact .of_write db ⟨fun _ h => h, fun _ h => h, fun _ h => h⟩ hdb.trustedDevices hdb.accounts
        hdb.emailAccounts hdb.emailRules hdb.emailRuleConditions
        (forall_inserted hinsert hdb.emailCandidates hreferences)
  | candidateDecided id status now =>
      have hf := CandidatesService.setStatus_unindexed status now
      exact .of_write db ⟨fun _ h => h, fun _ h => h, fun _ h => h⟩
        hdb.trustedDevices hdb.accounts hdb.emailAccounts hdb.emailRules hdb.emailRuleConditions
        (forall_modified hf hdb.emailCandidates fun _ hrow => hrow)

theorem Write.referential {db db' : Database} (hwrite : Write db db') (hdb : db.Referential) :
    db'.Referential := by
  cases hwrite with
  | account hwrite => exact hwrite.referential hdb
  | identity hwrite => exact hwrite.referential hdb
  | registration hwrite => exact hwrite.referential hdb
  | mail hwrite => exact hwrite.referential hdb

/-! ## Users -/

/-- Every user is still there, with the same profile. -/
def KeepsUsers (db db' : Database) : Prop :=
  ∀ id user, db.users.find? id = some user →
    ∃ user', db'.users.find? id = some user' ∧ user'.googleSubId = user.googleSubId

namespace KeepsUsers

theorem refl (db : Database) : KeepsUsers db db := fun _ user hfind => ⟨user, hfind, rfl⟩

theorem trans (a b c : Database) (hab : KeepsUsers a b) (hbc : KeepsUsers b c) :
    KeepsUsers a c := by
  intro id user hfind
  obtain ⟨middle, hmiddle, hsub⟩ := hab id user hfind
  obtain ⟨last, hlast, hsub'⟩ := hbc id middle hmiddle
  exact ⟨last, hlast, hsub'.trans hsub⟩

/-- A write that leaves the users alone. -/
theorem of_users_eq {db db' : Database} (husers : db'.users = db.users) : KeepsUsers db db' := by
  intro id user hfind
  exact ⟨user, by rwa [husers], rfl⟩

end KeepsUsers

theorem IdentityWrite.keepsUsers {db db' : Database} (hwrite : IdentityWrite db db') :
    KeepsUsers db db' := by
  cases hwrite with
  | userCreated row users hinsert =>
      exact fun id user hfind => ⟨user, Table.find?_of_insert hinsert hfind, rfl⟩
  | userChanged changed f hf hprofile =>
      exact fun id user hfind => exists_modified hf (fun _ h => (hprofile _).trans h) hfind rfl
  | reencrypted | deviceUsed | devicesRemoved => exact .of_users_eq rfl

theorem Write.keepsUsers {db db' : Database} (hwrite : Write db db') : KeepsUsers db db' := by
  cases hwrite with
  | account hwrite => cases hwrite <;> exact .of_users_eq rfl
  | identity hwrite => exact hwrite.keepsUsers
  | registration hwrite => cases hwrite; exact .of_users_eq rfl
  | mail hwrite => cases hwrite <;> exact .of_users_eq rfl

end Database

/-! ## Runs -/

/-- After events without a nested write, every foreign key names a row. -/
theorem referential_reached (unicode : UnicodeData) {events : List (AppEvent R)}
    (hnested : ∀ event ∈ events, event.NoNestedWrite) :
    (Server.reached unicode events).db.Referential := by
  let stays : Database → Database → Prop := fun db db' => db.Referential → db'.Referential
  have hkept : stays (Server.initial R).db (Server.reached unicode events).db :=
    related_of_appRun (fun _ => id) (fun _ _ _ hab hbc hdb => hbc (hab hdb))
      (fun _ _ hwrite => hwrite.referential) unicode (Server.initial R) hnested
  exact hkept referential_empty

/-- The users of a server are still there after further events. -/
theorem keepsUsers_run (unicode : UnicodeData) (server : Server R) {events : List (AppEvent R)}
    (hnested : ∀ event ∈ events, event.NoNestedWrite) :
    KeepsUsers server.db (run (Server.appStep unicode) server events).db :=
  related_of_appRun KeepsUsers.refl KeepsUsers.trans (fun _ _ hwrite => hwrite.keepsUsers) unicode
    server hnested

end MyAccountController
