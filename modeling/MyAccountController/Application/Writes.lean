import Mathlib.Logic.Relation
import MyAccountController.Accounts.AccountWrites
import MyAccountController.Auth.AuthController
import MyAccountController.EmailAccounts.EmailAccountsService
import MyAccountController.Mail.RulesService

/-! # The writes of the application

Whatever a service method does to the database is a sequence of a few writes,
each one query of the Prisma client, unless an account update carries a nested
write of the owner. What every write keeps is therefore kept by every method, and
a method of one service never writes the tables of another.
-/

namespace MyAccountController

open Foundation

namespace Database

/-! ## Single writes -/

/-- A write to the accounts of the vault. -/
inductive AccountWrite : Database → Database → Prop where
  | created (db : Database) (row : Account) (accounts : Table Account)
      (hreferences : Prisma.account.references db row = true)
      (hinsert : db.accounts.insert? row = some accounts) : AccountWrite db { db with accounts }
  | replaced (db : Database) (id : String) (f : Account → Account) (before : Account)
      (accounts : Table Account) (hfind : db.accounts.find? id = some before)
      (hreferences : Prisma.account.references db (f before) = true)
      (hreplace : db.accounts.replace? id f = some accounts) : AccountWrite db { db with accounts }
  | removed (db : Database) (id : String) :
      AccountWrite db { db with accounts := db.accounts.delete id }

/-- A write of a login, of a master password, of a setting, or of a device that is there. -/
inductive IdentityWrite : Database → Database → Prop where
  | userCreated (db : Database) (row : User) (users : Table User)
      (hinsert : db.users.insert? row = some users) : IdentityWrite db { db with users }
  | userChanged (db : Database) (id : String) (f : User → User) (hf : Table.Unindexed f)
      (hprofile : ∀ user, (f user).googleSubId = user.googleSubId) :
      IdentityWrite db { db with users := db.users.modify id f hf }
  | reencrypted (db : Database) (id payload : String) (now : Int) :
      IdentityWrite db (Prisma.account.withTable db (db.accounts.modify id
        (AuthService.setEncryptedPassword payload now)
        (AuthService.setEncryptedPassword_unindexed payload now)))
  | deviceUsed (db : Database) (id : String) (counter now : Int) :
      IdentityWrite db (Prisma.trustedDevice.withTable db (db.trustedDevices.modify id
        (WebAuthnService.setCounter counter now)
        (WebAuthnService.setCounter_unindexed counter now)))
  | devicesRemoved (db : Database) (drop : TrustedDevice → Bool) :
      IdentityWrite db { db with trustedDevices := db.trustedDevices.deleteWhere drop }

/-- A device is registered. -/
inductive DeviceRegistration : Database → Database → Prop where
  | registered (db : Database) (row : TrustedDevice) (trustedDevices : Table TrustedDevice)
      (hreferences : Prisma.trustedDevice.references db row = true)
      (hinsert : db.trustedDevices.insert? row = some trustedDevices) :
      DeviceRegistration db { db with trustedDevices }

/-- A write to the mailboxes, their rules and candidates. -/
inductive MailWrite : Database → Database → Prop where
  | connected (db : Database) (row : EmailAccount) (emailAccounts : Table EmailAccount)
      (hreferences : Prisma.emailAccount.references db row = true)
      (hinsert : db.emailAccounts.insert? row = some emailAccounts) :
      MailWrite db { db with emailAccounts }
  | tokenRefreshed (db : Database) (id token : String) (expires : Option Int) :
      MailWrite db (Prisma.emailAccount.withTable db (db.emailAccounts.modify id
        (EmailAccount.setAccessToken token expires)
        (EmailAccount.setAccessToken_unindexed token expires)))
  | disconnected (db : Database) (id : String) : MailWrite db (db.deleteEmailAccount id)
  | ruleCreated (db : Database) (row : EmailRule) (emailRules : Table EmailRule)
      (hreferences : Prisma.emailRule.references db row = true)
      (hinsert : db.emailRules.insert? row = some emailRules) : MailWrite db { db with emailRules }
  | ruleChanged (db : Database) (id : String) (changes : RuleChanges) :
      MailWrite db (Prisma.emailRule.withTable db
        (db.emailRules.modify id changes.apply changes.apply_unindexed))
  | ruleRemoved (db : Database) (id : String) : MailWrite db (db.deleteRule id)
  | conditionCreated (db : Database) (row : EmailRuleCondition)
      (emailRuleConditions : Table EmailRuleCondition)
      (hreferences : Prisma.emailRuleCondition.references db row = true)
      (hinsert : db.emailRuleConditions.insert? row = some emailRuleConditions) :
      MailWrite db { db with emailRuleConditions }
  | conditionsRemoved (db : Database) (drop : EmailRuleCondition → Bool) :
      MailWrite db { db with emailRuleConditions := db.emailRuleConditions.deleteWhere drop }
  | candidateCreated (db : Database) (row : EmailCandidate)
      (emailCandidates : Table EmailCandidate)
      (hreferences : Prisma.emailCandidate.references db row = true)
      (hrule : db.isRuleOf row.emailAccountId row.ruleId = true)
      (hinsert : db.emailCandidates.insert? row = some emailCandidates) :
      MailWrite db { db with emailCandidates }
  | candidateDecided (db : Database) (id : String) (status : CandidateStatus) (now : Int) :
      MailWrite db (Prisma.emailCandidate.withTable db (db.emailCandidates.modify id
        (CandidatesService.setStatus status now)
        (CandidatesService.setStatus_unindexed status now)))

/-- One write of the application. -/
inductive Write (db db' : Database) : Prop where
  | account (hwrite : AccountWrite db db')
  | identity (hwrite : IdentityWrite db db')
  | registration (hwrite : DeviceRegistration db db')
  | mail (hwrite : MailWrite db db')

/-- Any number of writes, one after the other. -/
abbrev Writes : (Database → Database → Prop) → Database → Database → Prop :=
  Relation.ReflTransGen

namespace Writes

variable {write : Database → Database → Prop}

theorem refl (db : Database) : Writes write db db := Relation.ReflTransGen.refl

theorem trans (a b c : Database) (hab : Writes write a b) (hbc : Writes write b c) :
    Writes write a c :=
  Relation.ReflTransGen.trans hab hbc

theorem single {db db' : Database} (hwrite : write db db') : Writes write db db' :=
  Relation.ReflTransGen.single hwrite

/-- A relation that is reflexive and transitive and holds of every write holds of a sequence. -/
theorem related {related : Database → Database → Prop} (hrefl : ∀ db, related db db)
    (htrans : ∀ a b c, related a b → related b c → related a c)
    (hwrite : ∀ a b, write a b → related a b) {db db' : Database} (hwrites : Writes write db db') :
    related db db' := by
  induction hwrites with
  | refl => exact hrefl db
  | tail _ hlast ih => exact htrans _ _ _ ih (hwrite _ _ hlast)

end Writes

end Database

/-! ## Queries -/

open Handler

namespace Model

variable {Row : Type} [Entity Row String] (model : Model Row)
  {related : Database → Database → Prop}

theorem keeps_create (hrefl : ∀ db, related db db) {row : Row}
    (hcreate : ∀ db table, model.references db row = true →
      (model.table db).insert? row = some table → related db (model.withTable db table)) :
    Keeps related (model.create row) := by
  intro db
  rcases hrun : model.create row db with ⟨e | created, db'⟩
  · obtain ⟨rfl, -⟩ := model.create_error hrun
    exact hrefl db'
  · obtain ⟨-, hreferences, table, hinsert, rfl⟩ := model.create_ok_iff.mp hrun
    exact hcreate db table hreferences hinsert

theorem keeps_update (hrefl : ∀ db, related db db) {id : String} {f : Row → Row}
    (hf : Table.Unindexed f)
    (hupdate : ∀ db, related db (model.withTable db ((model.table db).modify id f hf))) :
    Keeps related (model.update id f hf) := by
  intro db
  rcases hrun : model.update id f hf db with ⟨e | row, db'⟩
  · obtain ⟨-, -, rfl⟩ := model.update_error_iff.mp hrun
    exact hrefl db'
  · obtain ⟨-, rfl⟩ := model.update_ok_iff.mp hrun
    exact hupdate db

theorem keeps_replace (hrefl : ∀ db, related db db) {id : String} {f : Row → Row}
    (hreplace : ∀ db before table, (model.table db).find? id = some before →
      model.references db (f before) = true → (model.table db).replace? id f = some table →
        related db (model.withTable db table)) : Keeps related (model.replace id f) := by
  intro db
  rcases hrun : model.replace id f db with ⟨e | row, db'⟩
  · rw [model.replace_error hrun]
    exact hrefl db
  · obtain ⟨before, table, hfind, -, hreferences, htable, rfl⟩ := model.replace_ok_iff.mp hrun
    exact hreplace db before table hfind hreferences htable

theorem keeps_delete (hrefl : ∀ db, related db db) {id : String}
    (hdelete : ∀ db, related db (model.withTable db ((model.table db).delete id))) :
    Keeps related (model.delete id) := by
  intro db
  rcases hrun : model.delete id db with ⟨e | row, db'⟩
  · obtain ⟨-, -, rfl⟩ := model.delete_error_iff.mp hrun
    exact hrefl db'
  · obtain ⟨-, rfl⟩ := model.delete_ok_iff.mp hrun
    exact hdelete db

end Model

namespace Database.Writes

variable {write : Database → Database → Prop} {α β : Type}

theorem bind {x : Query α} {f : α → Query β} (hx : Keeps (Writes write) x)
    (hf : ∀ a, Keeps (Writes write) (f a)) : Keeps (Writes write) (x >>= f) :=
  keeps_bind trans hx fun a _ db _ => hf a db

/-- A query that only reads. -/
theorem read {x : Query α} (hx : ∀ db, (x db).2 = db) : Keeps (Writes write) x :=
  Keeps.of_state_eq refl hx

theorem pure (a : α) : Keeps (Writes write) (Pure.pure a : Query α) := keeps_pure refl a

theorem ofExcept (result : Except Exception α) :
    Keeps (Writes write) (Handler.ofExcept result : Query α) :=
  read fun _ => rfl

theorem expect (value : Option α) (e : Exception) :
    Keeps (Writes write) (Handler.expect value e : Query α) := by
  cases value <;> exact read fun _ => rfl

theorem ensure (condition : Prop) [Decidable condition] (e : Exception) :
    Keeps (Writes write) (Handler.ensure condition e : Query Unit) := by
  unfold Handler.ensure
  split <;> exact read fun _ => rfl

theorem discard {x : Query α} (hx : Keeps (Writes write) x) :
    Keeps (Writes write) (x >>= fun _ => Pure.pure ()) :=
  bind hx fun _ => pure ()

end Database.Writes

open Database

/-! ## The vault -/

namespace AccountsService

variable {R : Runtime} {userId id : String} {key : R.Key} {now : Int}

theorem convertDuplicate_writes {write : Database → Database → Prop} {α : Type} {query : Query α}
    (hquery : Keeps (Writes write) query) : Keeps (Writes write) (convertDuplicate query) := by
  apply keeps_recover Writes.trans hquery
  intro err
  split <;> exact Writes.read fun _ => rfl

theorem findOwned_writes {write : Database → Database → Prop} :
    Keeps (Writes write) (findOwned userId id) :=
  Writes.bind (Writes.read fun _ => rfl) fun _ => Writes.expect _ _

theorem create_writes {fresh : FreshAccount R} {data : JsObject} :
    Keeps (Writes AccountWrite) (create userId key now fresh data) := by
  apply convertDuplicate_writes
  refine Writes.bind (Writes.ofExcept _) fun encryptedPassword => ?_
  refine Writes.bind (Writes.ofExcept _) fun row => ?_
  apply Model.keeps_create _ Writes.refl
  exact fun db table hreferences hinsert => .single (.created db row table hreferences hinsert)

theorem update_writes {iv : R.Iv} {data : JsObject} (hnested : data.get "user" = none) :
    Keeps (Writes AccountWrite) (update userId id key now iv data) := by
  refine Writes.bind findOwned_writes fun _ => convertDuplicate_writes ?_
  cases hcolumns : updateData data key iv with
  | error e => exact Writes.read fun _ => rfl
  | ok columns =>
      show Keeps _ (Handler.ofExcept (AccountInput.changes R columns) >>= _)
      cases hchanges : AccountInput.changes R columns with
      | error e => exact Writes.read fun _ => rfl
      | ok changes =>
          show Keeps _ (changes.update R now id)
          rw [update_replaces hcolumns hchanges hnested]
          apply Model.keeps_replace _ Writes.refl
          exact fun db before table hfind hreferences hreplace =>
            .single (.replaced db id _ before table hfind hreferences hreplace)

theorem remove_writes : Keeps (Writes AccountWrite) (remove userId id) := by
  refine Writes.bind findOwned_writes fun _ => Writes.discard ?_
  exact Model.keeps_delete _ Writes.refl fun db => .single (.removed db id)

theorem importEntry_writes {fresh : Nat → FreshAccount R} {counts : ImportResult}
    {entry : Json × Nat} :
    Keeps (Writes AccountWrite) (importEntry userId key now fresh counts entry) := by
  apply keeps_recover Writes.trans
  · refine Writes.bind (Writes.ofExcept _) fun data => ?_
    exact Writes.bind create_writes fun _ => Writes.pure _
  · intro err
    cases err <;> exact Writes.read fun _ => rfl

theorem importAccounts_writes {fresh : Nat → FreshAccount R} {exportPassword : Option String}
    {file : BackupFile} :
    Keeps (Writes AccountWrite) (importAccounts userId key now fresh exportPassword file) := by
  refine Writes.bind (Writes.ofExcept _) fun entries => ?_
  exact keeps_foldlM Writes.refl Writes.trans fun counts entry _ => importEntry_writes

end AccountsService

theorem AccountRequest.service_writes {R : Runtime} (request : AccountRequest R)
    (hnested : request.NoNestedWrite) (userId : String) (key : R.Key) (now : Int) :
    Keeps (Writes AccountWrite) (request.service userId key now) := by
  cases request with
  | findOne id => exact Writes.discard (Writes.read (AccountsService.findOne_state key))
  | create body fresh => exact Writes.discard AccountsService.create_writes
  | update id body iv => exact Writes.discard (AccountsService.update_writes hnested)
  | remove id => exact AccountsService.remove_writes
  | exportAccounts exportPassword salt iv =>
      exact Writes.discard (Writes.read (AccountsService.exportAccounts_state key))
  | importAccounts exportPassword file fresh =>
      exact Writes.discard AccountsService.importAccounts_writes

/-! ## Logins and devices -/

namespace AuthService

variable {R : Runtime}

theorem rotateKeys_writes {userId : String} {accounts : List AccountSecret} {oldKey newKey : R.Key}
    {newHash : String} {fresh : FreshSecrets R} {now : Int} :
    Keeps (Writes IdentityWrite)
      (rotateKeys userId accounts oldKey newKey newHash fresh now) := by
  refine Writes.bind (keeps_forM Writes.refl Writes.trans fun secret _ => ?_) fun _ => ?_
  · refine Writes.bind (Writes.expect _ _) fun plaintext => Writes.bind ?_ fun _ => Writes.pure _
    exact Model.keeps_update _ Writes.refl _ fun db => .single (.reencrypted db _ _ now)
  refine Writes.bind ?_ fun _ => ?_
  · exact Model.keeps_update _ Writes.refl _ fun db =>
      .single (.userChanged db userId _ _ fun _ => rfl)
  · exact fun db => .single (.devicesRemoved db _)

end AuthService

namespace WebAuthnService

variable {userId : String} {now : Int}

theorem verification_writes {write : Database → Database → Prop} {α : Type}
    {answer : Except String (Option α)} {failed : String → String} {unverified : String} :
    Keeps (Writes write) (verification answer failed unverified) := by
  unfold verification
  split <;> exact Writes.read fun _ => rfl

theorem verifyRegistration_writes {freshId : String} {deviceLabel : Option String}
    {expectedChallenge : String} {response : RegistrationResponse} :
    Keeps (Writes DeviceRegistration)
      (verifyRegistration now freshId userId deviceLabel expectedChallenge response) := by
  refine Writes.bind verification_writes fun info => ?_
  refine Writes.bind (Writes.expect _ _) fun label => keeps_recover Writes.trans ?_ fun err => ?_
  · refine Writes.bind (Writes.ensure _ _) fun _ => ?_
    apply Model.keeps_create _ Writes.refl
    exact fun db table hreferences hinsert => .single (.registered db _ table hreferences hinsert)
  · split <;> exact Writes.read fun _ => rfl

theorem verifyAuthentication_writes {expectedChallenge : String}
    {response : AuthenticationResponse} :
    Keeps (Writes IdentityWrite) (verifyAuthentication now expectedChallenge response) := by
  intro db
  rcases hrun : verifyAuthentication now expectedChallenge response db with ⟨e | device, db'⟩
  · rw [verifyAuthentication_error hrun]
  · obtain ⟨-, counter, -, rfl⟩ := verifyAuthentication_ok hrun
    exact .single (.deviceUsed db device.id counter now)

theorem removeDevice_writes {deviceId : String} :
    Keeps (Writes IdentityWrite) (removeDevice userId deviceId) := by
  refine Writes.bind (Writes.read fun _ => rfl) fun _ => Writes.bind (Writes.expect _ _) fun _ => ?_
  exact Writes.discard (Model.keeps_delete _ Writes.refl fun db => .single (.devicesRemoved db _))

end WebAuthnService

/-! ## Mail -/

namespace EmailAccountsService

variable {R : Runtime} {userId id : String}

theorem createFromGmail_writes {tokenKey : R.Key} {now : Int} {fresh : FreshEmailAccount R}
    {tokens : GmailTokens} :
    Keeps (Writes MailWrite) (createFromGmail tokenKey now fresh userId tokens) := by
  apply Model.keeps_create _ Writes.refl
  exact fun db table hreferences hinsert => .single (.connected db _ table hreferences hinsert)

theorem remove_writes : Keeps (Writes MailWrite) (remove userId id) := by
  refine Writes.bind (Writes.read fun _ => rfl) fun _ => ?_
  refine Writes.bind (Writes.expect _ _) fun _ => Writes.discard fun db => ?_
  rcases hrun : Prisma.deleteEmailAccount id db with ⟨e | row, db'⟩
  · obtain rfl := Prisma.deleteEmailAccount_error hrun
    exact Writes.refl db'
  · obtain ⟨-, rfl⟩ := Prisma.deleteEmailAccount_ok_iff.mp hrun
    exact .single (.disconnected db id)

end EmailAccountsService

namespace RulesService

variable {userId id : String}

theorem findOwned_writes {write : Database → Database → Prop} :
    Keeps (Writes write) (findOwned userId id) :=
  Writes.bind (Writes.read fun _ => rfl) fun _ => Writes.bind (Writes.read fun _ => rfl)
    fun _ => Writes.expect _ _

theorem createConditions_writes {conditionId : Nat → String} {ruleId : String}
    {inputs : List ConditionInput} :
    Keeps (Writes MailWrite) (createConditions conditionId ruleId inputs) := by
  apply keeps_forM Writes.refl Writes.trans
  intro item _
  refine Writes.bind ?_ fun _ => Writes.pure _
  apply Model.keeps_create _ Writes.refl
  exact fun db table hreferences hinsert =>
    .single (.conditionCreated db _ table hreferences hinsert)

theorem create_writes {fresh : FreshRule} {now : Int} {data : JsObject} :
    Keeps (Writes MailWrite) (create userId fresh now data) := by
  have hfind : Keeps (Writes MailWrite) (findEmailAccount userId (data.get "emailAccountId")) := by
    unfold findEmailAccount
    split <;> exact Writes.read fun _ => rfl
  refine Writes.bind hfind fun _ => Writes.bind (Writes.expect _ _) fun _ => ?_
  refine Writes.bind (Writes.ofExcept _) fun input => keeps_transaction Writes.refl ?_
  refine Writes.bind ?_ fun rule => ?_
  · apply Model.keeps_create _ Writes.refl
    exact fun db table hreferences hinsert => .single (.ruleCreated db _ table hreferences hinsert)
  · exact Writes.bind createConditions_writes fun _ => Writes.read fun _ => rfl

theorem update_writes {conditionId : Nat → String} {data : JsObject} :
    Keeps (Writes MailWrite) (update userId id conditionId data) := by
  refine Writes.bind findOwned_writes fun _ => keeps_transaction Writes.refl ?_
  refine Writes.bind ?_ fun _ => Writes.bind (Writes.ofExcept _) fun changes => ?_
  · unfold dropConditions
    split
    · exact Writes.bind (fun db => .single (.conditionsRemoved db _)) fun _ => Writes.pure _
    · exact Writes.pure _
  refine Writes.bind ?_ fun rule => ?_
  · exact Model.keeps_update _ Writes.refl _ fun db => .single (.ruleChanged db id changes)
  · exact Writes.bind createConditions_writes fun _ => Writes.read fun _ => rfl

theorem remove_writes : Keeps (Writes MailWrite) (remove userId id) := by
  refine Writes.bind findOwned_writes fun _ => Writes.discard fun db => ?_
  rcases hrun : Prisma.deleteEmailRule id db with ⟨e | row, db'⟩
  · obtain rfl := Prisma.deleteEmailRule_error hrun
    exact Writes.refl db'
  · obtain ⟨-, rfl⟩ := Prisma.deleteEmailRule_ok_iff.mp hrun
    exact .single (.ruleRemoved db id)

end RulesService

/-- A refresh of a token is a write or none. -/
theorem RefreshesToken.writes {emailAccountId : String} {db db' : Database}
    (hrefreshes : RefreshesToken emailAccountId db db') : Writes MailWrite db db' := by
  rcases hrefreshes with rfl | ⟨token, expires, rfl⟩
  · exact Writes.refl db'
  · exact .single (.tokenRefreshed db emailAccountId token expires)

namespace CandidatesService

variable {userId id : String} {now : Int}

theorem findOwned_state (db : Database) : (findOwned userId id db).2 = db := by
  rcases hrun : findOwned userId id db with ⟨e | owned, db'⟩
  · exact findOwned_error hrun
  · exact (findOwned_ok_iff.mp hrun).2

theorem updateStatus_writes {status : CandidateStatus} :
    Keeps (Writes MailWrite) (updateStatus id status now) :=
  Model.keeps_update _ Writes.refl _ fun db => .single (.candidateDecided db id status now)

theorem exclude_writes : Keeps (Writes MailWrite) (exclude now userId id) :=
  Writes.bind (Writes.read findOwned_state) fun _ => updateStatus_writes

/-- The relation holds between the databases of two states of a scan. -/
def OnScan (related : Database → Database → Prop) (state state' : ScanState) : Prop :=
  related state.server.db state'.server.db

/-- The relation holds between the databases of two servers. -/
def OnMail (related : Database → Database → Prop) (server server' : MailServer) : Prop :=
  related server.db server'.db

section Loops

variable {related : Database → Database → Prop} {unicode : UnicodeData}
  {providers : MailProviderRegistry} {faults : ScanFaults}
  {freshId : Nat → Nat → Nat → String}

theorem OnScan.trans (htrans : ∀ a b c, related a b → related b c → related a c)
    (a b c : ScanState) (hab : OnScan related a b) (hbc : OnScan related b c) :
    OnScan related a c :=
  htrans _ _ _ hab hbc

theorem OnMail.trans (htrans : ∀ a b c, related a b → related b c → related a c)
    (a b c : MailServer) (hab : OnMail related a b) (hbc : OnMail related b c) :
    OnMail related a c :=
  htrans _ _ _ hab hbc

theorem listMessages_keeps (hrefl : ∀ db, related db db)
    (htrans : ∀ a b c, related a b → related b c → related a c) {provider : MailProvider}
    (hlists : ∀ emailAccountId, Keeps related (provider.listCandidateMessages emailAccountId))
    {emailAccountId : String} :
    Keeps (OnMail related) (MailServer.listCandidateMessages provider emailAccountId) := by
  apply keeps_bind (OnMail.trans htrans)
  · exact fun server => hlists emailAccountId server.db
  · exact fun _ _ server _ => hrefl server.db

theorem propose_keeps (hrefl : ∀ db, related db db)
    (htrans : ∀ a b c, related a b → related b c → related a c)
    {fault : Option Exception} {id emailAccountId : String} {message : RawMailMessage}
    {rule : RuleWithConditions}
    (hcreates : Keeps related (createCandidate fault id rule.rule.id emailAccountId message)) :
    Keeps (OnScan related) (propose unicode fault id emailAccountId message rule) := by
  have hinserts : Keeps (OnScan related) (recover
      (do
        let _ ← ScanState.onServer (MailServer.query
          (createCandidate fault id rule.rule.id emailAccountId message))
        ScanState.count fun counts =>
          { counts with createdCandidates := counts.createdCandidates + 1 })
      fun err => if err ≠ .p2002 then raise err else pure ()) := by
    apply keeps_recover (OnScan.trans htrans)
    · apply keeps_bind (OnScan.trans htrans)
      · exact fun state => hcreates state.server.db
      · exact fun _ _ state _ => hrefl state.server.db
    · intro err state
      split <;> exact hrefl state.server.db
  unfold propose
  apply keeps_bind (OnScan.trans htrans)
  · exact fun state => hrefl state.server.db
  · intro accepted before state _
    split
    · exact hinserts state
    · exact hrefl state.server.db

theorem proposeAll_keeps (hrefl : ∀ db, related db db)
    (htrans : ∀ a b c, related a b → related b c → related a c)
    {i : Nat} {emailAccountId : String} {messages : List RawMailMessage}
    {rules : List RuleWithConditions}
    (hcreates : ∀ rule ∈ rules, ∀ fault id message,
      Keeps related (createCandidate fault id rule.rule.id emailAccountId message)) :
    Keeps (OnScan related)
      (proposeAll unicode faults freshId i emailAccountId messages rules) := by
  have hquiet : ∀ state, OnScan related state state := fun state => hrefl state.server.db
  apply keeps_forM hquiet (OnScan.trans htrans)
  intro message _
  apply keeps_forM hquiet (OnScan.trans htrans)
  intro rule hrule
  exact propose_keeps hrefl htrans (hcreates rule.1 (List.fst_mem_of_mem_zipIdx hrule) _ _ _)

/-- The scan of an account creates candidates for the active rules that it has found. -/
theorem scanAccount_related (hrefl : ∀ db, related db db)
    (htrans : ∀ a b c, related a b → related b c → related a c) {account : EmailAccount} {i : Nat}
    {state : ScanState}
    (hlists : ∀ provider ∈ providers, ∀ emailAccountId,
      Keeps related (provider.listCandidateMessages emailAccountId))
    (hcreates : ∀ rule ∈ state.server.db.activeRules account.id, ∀ fault id message,
      Keeps related (createCandidate fault id rule.rule.id account.id message)) :
    OnScan related state (scanAccount unicode providers faults freshId account i state).2 := by
  have hquiet : ∀ state, OnScan related state state := fun state => hrefl state.server.db
  unfold scanAccount
  cases hget : providers.get account.providerType with
  | error e => exact hquiet state
  | ok provider =>
      have hprovider : provider ∈ providers :=
        List.mem_of_find?_eq_some (MailProviderRegistry.get_ok_iff.mp hget)
      rw [ofExcept_ok_bind]
      cases hfault : faults.ruleQuery i with
      | some err => exact hquiet state
      | none =>
          have hrules : ScanState.onServer (MailServer.query (findActiveRules none account.id))
              state = (.ok (state.server.db.activeRules account.id), state) := rfl
          rw [bind_of_ok hrules]
          split
          · exact hquiet state
          refine keeps_bind (OnScan.trans htrans) ?_ (fun messages _ state _ => ?_) state
          · exact fun state => listMessages_keeps hrefl htrans (hlists provider hprovider) state.server
          · refine keeps_bind (OnScan.trans htrans) (fun state => hquiet state) ?_ state
            exact fun _ _ state _ => proposeAll_keeps hrefl htrans hcreates state

/-- A scan keeps a relation that the scan of each account keeps. -/
theorem scanAccounts_keeps (hrefl : ∀ db, related db db)
    (htrans : ∀ a b c, related a b → related b c → related a c)
    (hscans : ∀ account i,
      Keeps (OnScan related) (scanAccount unicode providers faults freshId account i))
    {accounts : List EmailAccount} :
    Keeps (OnMail related) (scanAccounts unicode providers faults freshId accounts) := by
  intro server
  unfold scanAccounts
  dsimp only
  split
  all_goals
    next hrun =>
      refine Keeps.of_run (keeps_forM (fun state => hrefl state.server.db) (OnScan.trans htrans)
        fun account _ => ?_) hrun
      apply keeps_recover (OnScan.trans htrans)
      · exact hscans account.1 account.2
      · exact fun _ state => hrefl state.server.db

theorem scan_keeps (hrefl : ∀ db, related db db)
    (htrans : ∀ a b c, related a b → related b c → related a c)
    (hscans : ∀ account i,
      Keeps (OnScan related) (scanAccount unicode providers faults freshId account i)) :
    (∀ userId, Keeps (OnMail related) (scan unicode providers faults freshId userId)) ∧
      Keeps (OnMail related) (scanAll unicode providers faults freshId) := by
  have hscan : ∀ accounts, Keeps (OnMail related)
      (scanAccounts unicode providers faults freshId accounts) :=
    fun accounts => scanAccounts_keeps hrefl htrans hscans
  constructor
  · intro userId
    refine keeps_bind (OnMail.trans htrans) (fun server => hrefl server.db) ?_
    exact fun accounts _ server _ => hscan accounts server
  · refine keeps_bind (OnMail.trans htrans) (fun server => hrefl server.db) ?_
    exact fun accounts _ server _ => hscan accounts server

/-- An approval keeps a relation that the action in the mailbox and the new status keep. -/
theorem approve_keeps (hrefl : ∀ db, related db db)
    (htrans : ∀ a b c, related a b → related b c → related a c)
    (hacts : ∀ provider ∈ providers, ∀ emailAccountId externalMessageId action,
      Keeps related (provider.applyAction emailAccountId externalMessageId action))
    {userId id : String} {now : Int} (hupdates : Keeps related (updateStatus id .APPROVED now)) :
    Keeps (OnMail related) (approve providers now userId id) := by
  have hquiet : ∀ server, OnMail related server server := fun server => hrefl server.db
  refine keeps_bind (OnMail.trans htrans) ?_ fun owned _ server _ => ?_
  · intro server
    show related server.db (findOwned userId id server.db).2
    rw [findOwned_state]
    exact hrefl server.db
  have happlies : Keeps (OnMail related) (applyMailAction providers owned) := by
    unfold applyMailAction
    split
    next action _ =>
      refine keeps_bind (OnMail.trans htrans) (fun server => hquiet server) ?_
      intro provider _ server hget
      have hprovider : provider ∈ providers :=
        List.mem_of_find?_eq_some (MailProviderRegistry.get_ok_iff.mp (Prod.mk.inj hget).1)
      exact hacts provider hprovider _ _ _ server.db
    next => exact fun server => hquiet server
  have hstatus : Keeps (OnMail related) (MailServer.query (updateStatus id .APPROVED now)) :=
    fun server => hupdates server.db
  exact keeps_bind (OnMail.trans htrans) happlies (fun _ _ server _ => hstatus server) server

end Loops

/-- Some writes that leave the rules of a database with these rules alone. -/
def WritesUnder (rules : Table EmailRule) (db db' : Database) : Prop :=
  db.emailRules = rules → Writes MailWrite db db' ∧ db'.emailRules = rules

theorem WritesUnder.refl {rules : Table EmailRule} (db : Database) : WritesUnder rules db db :=
  fun hrules => ⟨Writes.refl db, hrules⟩

theorem WritesUnder.trans {rules : Table EmailRule} (a b c : Database)
    (hab : WritesUnder rules a b) (hbc : WritesUnder rules b c) : WritesUnder rules a c := by
  intro hrules
  obtain ⟨hwrites, hrules⟩ := hab hrules
  obtain ⟨hwrites', hrules⟩ := hbc hrules
  exact ⟨Writes.trans a b c hwrites hwrites', hrules⟩

/-- A candidate is created for a rule of its email account. -/
theorem createCandidate_writes {rules : Table EmailRule} {rule : EmailRule}
    (hrule : rule ∈ rules.rows) {fault : Option Exception} {id : String}
    {message : RawMailMessage} :
    Keeps (WritesUnder rules)
      (createCandidate fault id rule.id rule.emailAccountId message) := by
  intro db hdb
  unfold createCandidate
  cases fault with
  | some err => exact ⟨Writes.refl db, hdb⟩
  | none =>
      unfold candidateInput
      cases message.receivedAt with
      | none => exact ⟨Writes.refl db, hdb⟩
      | some receivedAt =>
          refine Model.keeps_create Prisma.emailCandidate WritesUnder.refl ?_ db hdb
          intro db table hreferences hinsert hdb
          rw [← hdb] at hrule
          have hof : db.isRuleOf rule.emailAccountId rule.id = true :=
            isRuleOf_iff.mpr ⟨rule, hrule, rfl, rfl⟩
          exact ⟨.single (.candidateCreated db _ table hreferences hof hinsert), hdb⟩

variable {providers : MailProviderRegistry}

theorem scan_writes {unicode : UnicodeData} (hlawful : providers.Lawful) {faults : ScanFaults}
    {freshId : Nat → Nat → Nat → String} :
    (∀ userId, Keeps (OnMail (Writes MailWrite)) (scan unicode providers faults freshId userId)) ∧
      Keeps (OnMail (Writes MailWrite)) (scanAll unicode providers faults freshId) := by
  refine scan_keeps Writes.refl Writes.trans fun account i state => ?_
  have hscan : OnScan (WritesUnder state.server.db.emailRules) state
      (scanAccount unicode providers faults freshId account i state).2 := by
    apply scanAccount_related WritesUnder.refl WritesUnder.trans
    · intro provider hprovider emailAccountId db hdb
      have hrefreshes := (hlawful provider hprovider).listCandidateMessages emailAccountId db
      exact ⟨hrefreshes.writes, hrefreshes.emailRules.trans hdb⟩
    · intro rule hrule fault id message
      obtain ⟨row, hrow, rfl⟩ := List.mem_map.mp hrule
      obtain ⟨hmem, hselected⟩ := List.mem_filter.mp hrow
      have haccount : row.emailAccountId = account.id := (of_decide_eq_true hselected).1
      rw [← haccount]
      exact createCandidate_writes hmem
  exact (hscan rfl).1

theorem approve_writes (hlawful : providers.Lawful) :
    Keeps (OnMail (Writes MailWrite)) (approve providers now userId id) := by
  refine approve_keeps Writes.refl Writes.trans ?_ updateStatus_writes
  intro provider hprovider emailAccountId externalMessageId action
  exact ((hlawful provider hprovider).applyAction emailAccountId externalMessageId action).mono
    fun _ _ => RefreshesToken.writes

end CandidatesService

end MyAccountController
