import MyAccountController.Auth.Server
import MyAccountController.Auth.SessionTokens
import MyAccountController.Isolation.OthersAccounts
import MyAccountController.Isolation.ReadRequests
import MyAccountController.Mail.MailRequests

/-! # What a user can change

A request of a user whose session is unlocked leaves the rows of every other user
as they were, unless the body of an account names another owner, in a column or in
a nested write, or a candidate of another user hangs on a rule that is deleted.
-/

namespace MyAccountController

open Foundation Database

variable {R : Runtime}

/-! ## The routes -/

/-- A method of the mail services, from the database. -/
def onMailServer {α : Type} (x : Handler Exception MailServer α) : Query α := fun db =>
  let (result, server) := x ⟨db, [], []⟩
  (result, server.db)

/-- A request about the user's own data. The random draws are its arguments, and so is what
Google, the mail providers and the WebAuthn library answer. -/
inductive UserRequest (R : Runtime) where
  | account (request : AccountRequest R)
  | read (request : ReadRequest R)
  | createRule (data : JsObject) (fresh : FreshRule)
  | updateRule (id : String) (data : JsObject) (conditionId : Nat → String)
  | removeRule (id : String)
  | scan (providers : LawfulRegistry) (faults : ScanFaults)
      (freshId : Nat → Nat → Nat → String)
  | approve (id : String) (providers : LawfulRegistry)
  | exclude (id : String)
  | oauthStart (generatedState : String)
  | oauthCallback (oauthState : Option String) (tokens : Except Exception GmailTokens)
      (tokenKey : R.Key) (fresh : FreshEmailAccount R)
  | disconnect (id : String)
  | registerOptions (challenge : String)
  | register (freshId : String) (deviceLabel : Option String) (response : RegistrationResponse)
  | removeDevice (deviceId : String)

namespace UserRequest

/-- The handler of the route. The response is dropped. -/
def route (unicode : UnicodeData) (sessionId : String) (now : Int) :
    UserRequest R → Route R Unit
  | account request => request.route sessionId now
  | read request => do
      let _ ← request.route sessionId now
  | createRule data fresh => behindUnlockedGuard sessionId now fun userId _ => do
      let _ ← RulesService.create userId fresh now data
  | updateRule id data conditionId => behindUnlockedGuard sessionId now fun userId _ => do
      let _ ← RulesService.update userId id conditionId data
  | removeRule id => behindUnlockedGuard sessionId now fun userId _ =>
      RulesService.remove userId id
  | scan providers faults freshId => behindUnlockedGuard sessionId now fun userId _ => do
      let _ ← onMailServer (CandidatesService.scan unicode providers.val faults freshId userId)
  | approve id providers => behindUnlockedGuard sessionId now fun userId _ => do
      let _ ← onMailServer (CandidatesService.approve providers.val now userId id)
  | exclude id => behindUnlockedGuard sessionId now fun userId _ => do
      let _ ← CandidatesService.exclude now userId id
  | oauthStart generatedState => do
      let _ ← onSession (EmailAccountsController.oauthStart generatedState)
  | oauthCallback oauthState tokens tokenKey fresh =>
      Handler.recover
        (do
          let userId ← onSession (EmailAccountsController.takeState oauthState)
          let tokens ← Handler.ofExcept tokens
          let _ ← onDatabase
            (EmailAccountsService.createFromGmail tokenKey now fresh userId tokens))
        fun _ => pure ()
  | disconnect id => behindLoggedInGuard fun userId => EmailAccountsService.remove userId id
  | registerOptions challenge => do
      let _ ← AuthController.webauthnRegisterOptions sessionId now challenge
  | register freshId deviceLabel response => do
      let _ ← AuthController.webauthnRegister sessionId now freshId deviceLabel response
  | removeDevice deviceId => AuthController.webauthnRemove sessionId now deviceId

/-- An account that is written names no other owner, its nested write keeps to the user's own rows,
and no candidate of another user hangs on a rule that is deleted. -/
def KeepsToOwn (userId : String) (key : R.Key) (now : Int) (db : Database) :
    UserRequest R → Prop
  | account (.create body fresh) =>
      AccountsService.AcceptsCreate userId key now fresh body db →
        AccountsService.NamesOwner userId body
  | account (.update id body iv) =>
      (AccountsService.AcceptsUpdate userId id key now iv body db →
          AccountsService.SetsOwner userId body) ∧
        AccountsService.NestedWriteKeepsToOwn userId id key now iv body db
  | account (.importAccounts exportPassword file fresh) => ∀ entries,
      AccountsService.openBackup (R := R) exportPassword file = .ok entries →
        AccountsService.ImportNamesOwner userId key now fresh entries.zipIdx db
  | removeRule id =>
      db.ownsRule userId id = true → db.NoneHangsOn userId fun ruleId => ruleId = id
  | disconnect id =>
      db.ownsEmailAccount userId id = true → db.NoneHangsOn userId (db.isRuleOf id)
  | account (.findOne _) | account (.remove _) | account (.exportAccounts _ _ _) | read _
  | createRule _ _ | updateRule _ _ _ | scan _ _ _ | approve _ _ | exclude _ | oauthStart _
  | oauthCallback _ _ _ _ | registerOptions _ | register _ _ _ | removeDevice _ => True

end UserRequest

/-! ## Behind the guards -/

section Guards

variable {α : Type} {server : Server R} {sessionId userId : String} {now : Int} {key : R.Key}

/-- An admitted request goes on with the user and the key, in the same database. -/
theorem unlockedGuard_serve (hadmits : Admits server sessionId now userId key)
    (rest : String × R.Key → Route R α) :
    ∃ ctx : Context R, ctx.db = server.db ∧
      server.serve sessionId (unlockedGuard sessionId now >>= rest) =
        ((rest (userId, key) ctx).1, server.save sessionId (rest (userId, key) ctx).2) := by
  obtain ⟨ctx, hguard⟩ := hadmits
  refine ⟨ctx, ?_, ?_⟩
  · have hdb := unlockedGuard_db sessionId now (server.context sessionId)
    rwa [hguard] at hdb
  · unfold Server.serve
    rw [Handler.bind_of_ok hguard]

theorem behindUnlockedGuard_db (hadmits : Admits server sessionId now userId key)
    (query : String → R.Key → Query α) :
    (server.serve sessionId (behindUnlockedGuard sessionId now query)).2.db =
      (query userId key server.db).2 := by
  obtain ⟨ctx, hdb, hserve⟩ := unlockedGuard_serve hadmits fun admitted =>
    onDatabase (query admitted.1 admitted.2)
  rw [← hdb]
  exact congrArg (fun out => out.2.db) hserve

theorem behindLoggedInGuard_db (hadmits : Admits server sessionId now userId key)
    (query : String → Query α) :
    (server.serve sessionId (behindLoggedInGuard query)).2.db = (query userId server.db).2 := by
  have hguard : loggedInGuard (server.context sessionId) = (.ok userId, _) :=
    loggedInGuard_ok_iff.mpr ⟨(admits_iff.mp hadmits).1, rfl⟩
  unfold Server.serve behindLoggedInGuard
  rw [Handler.bind_of_ok hguard]
  rfl

end Guards

/-! ## Reading -/

/-- A route that reads writes nothing. -/
theorem ReadRequest.route_db (request : ReadRequest R) (sessionId : String) (now : Int)
    (ctx : Context R) : (request.route sessionId now ctx).2.db = ctx.db := by
  have hunlocked : ∀ {α : Type} {query : String → R.Key → Query α},
      (∀ userId key db, (query userId key db).2 = db) →
        (behindUnlockedGuard sessionId now query ctx).2.db = ctx.db := by
    intro α query hquery
    have hdb := unlockedGuard_db sessionId now ctx
    unfold behindUnlockedGuard
    rcases hguard : unlockedGuard sessionId now ctx with ⟨e | ⟨userId, key⟩, after⟩
    · rw [hguard] at hdb
      rwa [Handler.bind_of_error hguard]
    · rw [hguard] at hdb
      rw [Handler.bind_of_ok hguard]
      exact (hquery userId key after.db).trans hdb
  have hlogged : ∀ {α : Type} {query : String → Query α},
      (∀ userId db, (query userId db).2 = db) →
        (behindLoggedInGuard query ctx).2.db = ctx.db := by
    intro α query hquery
    have hstate := loggedInGuard_state ctx
    unfold behindLoggedInGuard
    rcases hguard : loggedInGuard ctx with ⟨e | userId, after⟩
    · rw [hguard] at hstate
      rw [Handler.bind_of_error hguard, ← hstate]
    · rw [hguard] at hstate
      rw [Handler.bind_of_ok hguard, ← hstate]
      exact hquery userId after.db
  cases request with
  | account id => exact hunlocked fun _ key db => AccountsService.findOne_state key db
  | exportAccounts exportPassword salt iv =>
      exact hunlocked fun _ key db => AccountsService.exportAccounts_state key db
  | accounts contains category q => exact hunlocked fun _ _ _ => rfl
  | emailRules emailAccountId => exact hunlocked fun _ _ _ => rfl
  | emailCandidates => exact hunlocked fun _ _ _ => rfl
  | importantSummary => exact hunlocked fun _ _ _ => rfl
  | webauthnDevices =>
      exact @hunlocked _ (fun userId _ => WebAuthnService.listDevices userId) fun _ _ _ => rfl
  | emailAccounts => exact hlogged fun _ _ => rfl
  | notificationsSummary => rfl
  | settings =>
      refine @hlogged _ AuthService.getSettings fun userId db => ?_
      unfold AuthService.getSettings
      rw [Model.findUnique_bind]
      cases (Prisma.user.table db).find? userId <;> rfl

/-! ## Writing -/

section Writes

variable {userId id : String} {now : Int} {db : Database}

theorem account_sameForOthers_iff (hconnects : R.ConnectsUser) (request : AccountRequest R)
    (key : R.Key) :
    SameForOthers userId db (request.service userId key now db).2 ↔
      (UserRequest.account request).KeepsToOwn userId key now db := by
  cases request with
  | findOne id =>
      refine iff_of_true ?_ trivial
      show SameForOthers userId db ((do
        let _ ← AccountsService.findOne userId id key : Query Unit) db).2
      rw [Handler.bind_pure_state, AccountsService.findOne_state]
      exact .refl userId db
  | create body fresh =>
      show SameForOthers userId db ((do
        let _ ← AccountsService.create userId key now fresh body : Query Unit) db).2 ↔ _
      rw [Handler.bind_pure_state]
      exact AccountsService.create_sameForOthers_iff
  | update id body iv =>
      show SameForOthers userId db ((do
        let _ ← AccountsService.update userId id key now iv body : Query Unit) db).2 ↔ _
      rw [Handler.bind_pure_state]
      exact AccountsService.update_sameForOthers_iff hconnects
  | remove id => exact iff_of_true AccountsService.remove_sameForOthers trivial
  | exportAccounts exportPassword salt iv =>
      refine iff_of_true ?_ trivial
      show SameForOthers userId db ((do
        let _ ← AccountsService.exportAccounts userId key exportPassword now salt iv :
          Query Unit) db).2
      rw [Handler.bind_pure_state, AccountsService.exportAccounts_state]
      exact .refl userId db
  | importAccounts exportPassword file fresh =>
      show SameForOthers userId db ((do
        let _ ← AccountsService.importAccounts userId key now fresh exportPassword file :
          Query Unit) db).2 ↔ _
      rw [Handler.bind_pure_state]
      exact AccountsService.importAccounts_sameForOthers_iff

theorem createRule_sameForOthers {data : JsObject} {fresh : FreshRule} :
    SameForOthers userId db (RulesService.create userId fresh now data db).2 := by
  rcases hrun : RulesService.create userId fresh now data db with ⟨e | created, db'⟩
  · rw [RulesService.create_error hrun]
    exact .refl userId db
  · exact sameForOthers_createRule (RulesService.create_ok hrun)

theorem updateRule_sameForOthers {data : JsObject} {conditionId : Nat → String} :
    SameForOthers userId db (RulesService.update userId id conditionId data db).2 := by
  rcases hrun : RulesService.update userId id conditionId data db with ⟨e | updated, db'⟩
  · rw [RulesService.update_error hrun]
    exact .refl userId db
  · exact sameForOthers_updateRule (RulesService.update_ok hrun)

theorem removeRule_sameForOthers_iff :
    SameForOthers userId db (RulesService.remove userId id db).2 ↔
      (db.ownsRule userId id = true → db.NoneHangsOn userId fun ruleId => ruleId = id) := by
  rcases hrun : RulesService.remove userId id db with ⟨e | u, db'⟩
  · obtain rfl := RulesService.remove_error hrun
    refine iff_of_true (.refl userId db') fun howns => ?_
    obtain ⟨rule, hfind, howner⟩ := (Option.any_eq_true _ _).mp howns
    have hremoved : RulesService.remove userId id db' = (.ok (), db'.deleteRule id) := by
      unfold RulesService.remove
      rw [Handler.bind_of_ok (RulesService.findOwned_ok_iff.mpr ⟨hfind, howner, rfl⟩),
        Handler.bind_of_ok (Prisma.deleteEmailRule_ok_iff.mpr ⟨hfind, rfl⟩)]
      rfl
    rw [hremoved] at hrun
    exact absurd (congrArg Prod.fst hrun) (by simp)
  · obtain ⟨⟨rule, hfind, howns⟩, rfl⟩ := RulesService.remove_ok hrun
    rw [forall_prop_of_true ((ownsRule_of_find hfind).trans howns)]
    exact sameForOthers_deleteRule hfind howns

theorem disconnect_sameForOthers_iff :
    SameForOthers userId db (EmailAccountsService.remove userId id db).2 ↔
      (db.ownsEmailAccount userId id = true → db.NoneHangsOn userId (db.isRuleOf id)) := by
  rcases hrun : EmailAccountsService.remove userId id db with ⟨e | u, db'⟩
  · obtain rfl := EmailAccountsService.remove_error hrun
    refine iff_of_true (.refl userId db') fun howns => ?_
    obtain ⟨account, hfind, huser⟩ := RulesService.ownsEmailAccount_iff.mp howns
    have hfirst : (Prisma.emailAccount.table db').rows.find?
        (fun row => row.id = id ∧ row.userId = userId) = some account :=
      Table.find?_where.mpr ⟨hfind, huser⟩
    have hremoved : EmailAccountsService.remove userId id db' =
        (.ok (), db'.deleteEmailAccount id) := by
      unfold EmailAccountsService.remove
      rw [Model.findFirst_bind, hfirst, Handler.expect_some_bind,
        Handler.bind_of_ok (Prisma.deleteEmailAccount_ok_iff.mpr ⟨hfind, rfl⟩)]
      rfl
    rw [hremoved] at hrun
    exact absurd (congrArg Prod.fst hrun) (by simp)
  · obtain ⟨⟨account, hfind, huser⟩, rfl⟩ := EmailAccountsService.remove_ok hrun
    rw [forall_prop_of_true (RulesService.ownsEmailAccount_iff.mpr ⟨account, hfind, huser⟩)]
    exact sameForOthers_deleteEmailAccount hfind huser

theorem scan_onMailServer_sameForOthers {unicode : UnicodeData} (providers : LawfulRegistry)
    {faults : ScanFaults} {freshId : Nat → Nat → Nat → String} :
    SameForOthers userId db (onMailServer
      (CandidatesService.scan unicode providers.val faults freshId userId) db).2 :=
  CandidatesService.scan_sameForOthers providers.property ⟨db, [], []⟩

theorem approve_sameForOthers (providers : LawfulRegistry) :
    SameForOthers userId db
      (onMailServer (CandidatesService.approve providers.val now userId id) db).2 := by
  have happroval := @CandidatesService.approve_run userId id now providers.val providers.property
    ⟨db, [], []⟩
  show SameForOthers userId db
    (CandidatesService.approve providers.val now userId id ⟨db, [], []⟩).2.db
  rcases hrun : CandidatesService.approve providers.val now userId id ⟨db, [], []⟩
    with ⟨result, after⟩
  rw [hrun] at happroval
  cases happroval with
  | refused e => exact .refl userId db
  | failed e owned action db' howned haction hrefreshes =>
      exact sameForOthers_refreshesToken hrefreshes howned.owner
  | approved owned db' howned hrefreshes =>
      have hrefreshed := sameForOthers_refreshesToken hrefreshes howned.owner
      have hcandidate : db'.emailCandidates.find? id = some owned.candidate := by
        rw [hrefreshes.emailCandidates]
        exact howned.candidate
      have howner : db'.ownsEmailAccount userId owned.candidate.emailAccountId = true := by
        rw [refreshesToken_owns hrefreshes]
        exact howned.owner
      exact .trans userId _ _ _ hrefreshed (sameForOthers_withStatus hcandidate howner)

theorem exclude_sameForOthers :
    SameForOthers userId db (CandidatesService.exclude now userId id db).2 := by
  rcases hrun : CandidatesService.exclude now userId id db with ⟨e | row, db'⟩
  · rw [CandidatesService.exclude_error hrun]
    exact .refl userId db
  · obtain ⟨owned, howned, -, rfl⟩ := CandidatesService.exclude_ok hrun
    exact sameForOthers_withStatus howned.candidate howned.owner

theorem createFromGmail_sameForOthers {tokenKey : R.Key} {fresh : FreshEmailAccount R}
    {tokens : GmailTokens} : SameForOthers userId db
      (EmailAccountsService.createFromGmail tokenKey now fresh userId tokens db).2 := by
  rcases hrun : EmailAccountsService.createFromGmail tokenKey now fresh userId tokens db
    with ⟨e | row, db'⟩
  · rw [EmailAccountsService.createFromGmail_error hrun]
    exact .refl userId db
  · obtain ⟨huser, hrows, hdb⟩ := EmailAccountsService.createFromGmail_ok hrun
    rw [hdb]
    exact sameForOthers_addEmailAccount hrows huser

theorem verifyRegistration_sameForOthers {freshId : String} {deviceLabel : Option String}
    {expectedChallenge : String} {response : RegistrationResponse} :
    Handler.Keeps (SameForOthers userId) (WebAuthnService.verifyRegistration now freshId userId
      deviceLabel expectedChallenge response) := by
  have hrefl := SameForOthers.refl userId
  have htrans := SameForOthers.trans userId
  refine Handler.keeps_bind htrans ?_ fun (credentialId, publicKey, counter) _ db _ => ?_
  · refine Handler.Keeps.of_state_eq hrefl fun db => ?_
    rcases hverify : WebAuthnService.verification (response.verify expectedChallenge) _ _ db
      with ⟨e | info, db'⟩
    · exact WebAuthnService.verification_error hverify
    · exact (WebAuthnService.verification_ok_iff.mp hverify).2.symm
  refine Handler.keeps_bind htrans ?_ (fun label _ db _ => ?_) db
  · refine Handler.Keeps.of_state_eq hrefl fun db => ?_
    cases deviceLabel <;> rfl
  refine Handler.keeps_recover htrans (Handler.keeps_bind htrans ?_ fun _ _ db _ => ?_)
    (fun e => ?_) db
  · unfold Handler.ensure
    split <;> exact fun db => hrefl db
  · rcases hcreate : Prisma.trustedDevice.create _ db with ⟨e | device, db'⟩
    · rw [(Model.create_error _ hcreate).1]
      exact hrefl db
    · obtain ⟨hdevice, -, table, hinsert, rfl⟩ := (Model.create_ok_iff _).mp hcreate
      exact sameForOthers_insertDevice hinsert rfl
  · split <;> exact fun db => hrefl db

theorem removeDevice_sameForOthers :
    Handler.Keeps (SameForOthers userId) (WebAuthnService.removeDevice userId id) := by
  intro db
  unfold WebAuthnService.removeDevice
  rw [Model.findFirst_bind]
  cases hfound : (Prisma.trustedDevice.table db).rows.find? fun device =>
      device.id = id ∧ device.userId = userId with
  | none => exact .refl userId db
  | some device =>
      obtain ⟨hfind, huser⟩ := Table.find?_where.mp hfound
      rw [Handler.expect_some_bind, Handler.bind_pure_state]
      rcases hdelete : Prisma.trustedDevice.delete id db with ⟨e | row, db'⟩
      · rw [((Model.delete_error_iff _).mp hdelete).2.2]
        exact .refl userId db
      · rw [((Model.delete_ok_iff _).mp hdelete).2]
        exact sameForOthers_deleteDevice hfind huser

end Writes

/-! ## Which requests keep to the user's own rows -/

section Requests

variable {server : Server R} {sessionId userId : String} {now : Int} {key : R.Key}

/-- The response does not matter to the database. -/
theorem serve_bind_pure_db {α : Type} (route : Route R α) :
    (server.serve sessionId (do let _ ← route)).2.db = (server.serve sessionId route).2.db :=
  congrArg Context.db (Handler.bind_pure_state route _ _)

/-- What runs behind the guard runs as the user. -/
theorem guarded_sameForOthers {α : Type} (hadmits : Admits server sessionId now userId key)
    {rest : String × R.Key → Route R α}
    (hrest : Handler.Keeps (fun a b : Context R => SameForOthers userId a.db b.db)
      (rest (userId, key))) :
    SameForOthers userId server.db
      (server.serve sessionId (unlockedGuard sessionId now >>= rest)).2.db := by
  obtain ⟨ctx, hdb, hserve⟩ := unlockedGuard_serve hadmits rest
  rw [hserve, ← hdb]
  exact hrest ctx

/-- The user of an accepted callback is the user of the session. -/
theorem takeState_user {oauthState : Option String} {session session' : SessionData}
    {taken : String}
    (hrun : EmailAccountsController.takeState oauthState session = (.ok taken, session')) :
    session.loggedInAs = some taken := by
  unfold EmailAccountsController.takeState at hrun
  rw [Handler.state_bind, Handler.bind_ok_iff] at hrun
  obtain ⟨_, _, hensure, hrun⟩ := hrun
  rw [Handler.modify_bind] at hrun
  exact (Handler.expect_ok_iff.mp hrun).1

/-- A callback connects an account of the user of the session. -/
theorem oauthCallback_sameForOthers (unicode : UnicodeData)
    (hlogged : (server.sessions sessionId).loggedInAs = some userId) {oauthState : Option String}
    {tokens : Except Exception GmailTokens} {tokenKey : R.Key} {fresh : FreshEmailAccount R} :
    SameForOthers userId server.db (server.serve sessionId ((UserRequest.oauthCallback oauthState
      tokens tokenKey fresh).route unicode sessionId now)).2.db := by
  have hrecover : ∀ {x : Route R Unit} (ctx : Context R),
      (Handler.recover x (fun _ => pure ()) ctx).2 = (x ctx).2 := by
    intro x ctx
    unfold Handler.recover
    rcases x ctx with ⟨e | u, after⟩ <;> rfl
  show SameForOthers userId server.db
    (Handler.recover _ (fun _ => pure ()) (server.context sessionId)).2.db
  rw [hrecover]
  rcases htake : EmailAccountsController.takeState oauthState (server.sessions sessionId)
    with ⟨e | taken, session⟩
  · have hsession : onSession (EmailAccountsController.takeState oauthState)
        (server.context sessionId) = (.error e, { server.context sessionId with session }) := by
      unfold onSession
      rw [Handler.zoom_run, Server.context_session, htake]
    rw [Handler.bind_of_error hsession]
    exact .refl userId server.db
  · obtain rfl := Option.some.inj (hlogged.symm.trans (takeState_user htake))
    have hsession : onSession (EmailAccountsController.takeState oauthState)
        (server.context sessionId) = (.ok userId, { server.context sessionId with session }) := by
      unfold onSession
      rw [Handler.zoom_run, Server.context_session, htake]
    rw [Handler.bind_of_ok hsession]
    cases tokens with
    | error e => exact .refl userId server.db
    | ok tokens =>
        rw [Handler.ofExcept_ok_bind, Handler.bind_pure_state]
        exact createFromGmail_sameForOthers

end Requests

/-- A request of an unlocked session leaves the rows of every other user as they were if and only
if an account that it writes names no other owner, its nested write keeps to the user's own rows,
and no candidate of another user hangs on a rule that it deletes. -/
theorem sameForOthers_iff (hconnects : R.ConnectsUser) (unicode : UnicodeData)
    (request : UserRequest R) (server : Server R) (sessionId : String) (now : Int)
    (userId : String) (key : R.Key)
    (hadmits : Admits server sessionId now userId key) :
    SameForOthers userId server.db
        (server.serve sessionId (request.route unicode sessionId now)).2.db ↔
      request.KeepsToOwn userId key now server.db := by
  have hguarded : ∀ {query : String → R.Key → Query Unit},
      (server.serve sessionId (behindUnlockedGuard sessionId now query)).2.db =
        (query userId key server.db).2 := behindUnlockedGuard_db hadmits _
  have htrans : ∀ a b c : Context R, SameForOthers userId a.db b.db →
      SameForOthers userId b.db c.db → SameForOthers userId a.db c.db :=
    fun a b c => .trans userId a.db b.db c.db
  -- Only the accounts and the two cascading deletions reach rows of another user.
  cases request with
  | account request =>
      have hserve : (server.serve sessionId
          ((UserRequest.account request).route unicode sessionId now)).2.db =
            (request.service userId key now server.db).2 :=
        behindUnlockedGuard_db hadmits fun userId key => request.service userId key now
      rw [hserve]
      exact account_sameForOthers_iff hconnects request key
  | read request =>
      refine iff_of_true ?_ trivial
      dsimp only [UserRequest.route]
      rw [serve_bind_pure_db, Server.serve, Server.save_db, request.route_db]
      exact .refl userId server.db
  | createRule data fresh =>
      refine iff_of_true ?_ trivial
      dsimp only [UserRequest.route]
      rw [hguarded, Handler.bind_pure_state]
      exact createRule_sameForOthers
  | updateRule id data conditionId =>
      refine iff_of_true ?_ trivial
      dsimp only [UserRequest.route]
      rw [hguarded, Handler.bind_pure_state]
      exact updateRule_sameForOthers
  | removeRule id =>
      dsimp only [UserRequest.route]
      rw [hguarded]
      exact removeRule_sameForOthers_iff
  | scan providers faults freshId =>
      refine iff_of_true ?_ trivial
      dsimp only [UserRequest.route]
      rw [hguarded, Handler.bind_pure_state]
      exact scan_onMailServer_sameForOthers providers
  | approve id providers =>
      refine iff_of_true ?_ trivial
      dsimp only [UserRequest.route]
      rw [hguarded, Handler.bind_pure_state]
      exact approve_sameForOthers providers
  | exclude id =>
      refine iff_of_true ?_ trivial
      dsimp only [UserRequest.route]
      rw [hguarded, Handler.bind_pure_state]
      exact exclude_sameForOthers
  | oauthStart generatedState =>
      refine iff_of_true ?_ trivial
      dsimp only [UserRequest.route]
      rw [serve_bind_pure_db]
      exact .refl userId server.db
  | oauthCallback oauthState tokens tokenKey fresh =>
      exact iff_of_true (oauthCallback_sameForOthers unicode (admits_iff.mp hadmits).1) trivial
  | disconnect id =>
      dsimp only [UserRequest.route]
      rw [behindLoggedInGuard_db hadmits]
      exact disconnect_sameForOthers_iff
  | registerOptions challenge =>
      refine iff_of_true ?_ trivial
      dsimp only [UserRequest.route]
      rw [serve_bind_pure_db]
      refine guarded_sameForOthers hadmits (Handler.keeps_bind htrans ?_ fun _ _ ctx _ => ?_)
      · intro ctx
        have hoptions : (WebAuthnService.createRegistrationOptions userId challenge ctx.db).2 =
            ctx.db := by
          unfold WebAuthnService.createRegistrationOptions
          rw [Model.findUnique_bind]
          cases (Prisma.user.table ctx.db).find? userId <;> rfl
        show SameForOthers userId ctx.db
          (WebAuthnService.createRegistrationOptions userId challenge ctx.db).2
        rw [hoptions]
        exact .refl userId ctx.db
      · exact .refl userId ctx.db
  | register freshId deviceLabel response =>
      refine iff_of_true ?_ trivial
      dsimp only [UserRequest.route]
      rw [serve_bind_pure_db]
      refine guarded_sameForOthers hadmits (Handler.keeps_bind htrans ?_ fun _ _ ctx _ => ?_)
      · intro ctx
        unfold AuthController.takeChallenge
        rw [Handler.state_bind]
        cases ctx.session.currentWebauthnChallenge.filter (· ≠ "") <;> exact .refl userId ctx.db
      · exact verifyRegistration_sameForOthers ctx.db
  | removeDevice deviceId =>
      refine iff_of_true (guarded_sameForOthers hadmits ?_) trivial
      exact fun ctx => removeDevice_sameForOthers ctx.db

/-! ## A run -/

namespace AnothersVault

def user : User := ⟨"a", "sub-a", "a@example.com", "", "salt", 10, 0⟩

def victim : User := ⟨"b", "sub-b", "b@example.com", "", "", 10, 0⟩

def userKey : symbolicRuntime.Key := symbolicRuntime.deriveEncryptionKey "password" "salt"

def account : Account where
  id := "own"
  userId := "a"
  serviceName := "mail"
  urlOrAppName := "mail.example.com"
  category := "mail"
  loginId := "a@example.com"
  encryptedPassword := ""
  memo := none
  customFields := none
  createdAt := 0
  updatedAt := 0

/-- Two users and an account of the first; every session is that of the first, and one is
unlocked. -/
def server : Server symbolicRuntime where
  db := { Database.empty with
    users := ⟨[user, victim], by decide⟩, accounts := ⟨[account], by decide⟩ }
  keys := UnlockKeyStore.empty.set "sid" 0 userKey 10
  sessions := fun _ => { userId := some "a", unlocked := some true }

/-- A body that names an owner. -/
def body (owner : String) : JsObject :=
  [("serviceName", .str "mail"), ("urlOrAppName", .str "mail.example.com"),
    ("category", .str "mail"), ("loginId", .str "a@example.com"), ("password", .str "secret"),
    ("userId", .str owner)]

def create (owner : String) : UserRequest symbolicRuntime :=
  .account (.create (body owner) ⟨"account", "iv"⟩)

/-- An update that connects the account to an owner. -/
def connect (owner : String) : UserRequest symbolicRuntime :=
  .account (.update "own" [("user", .obj [("connect", .obj [("id", .str owner)])])] "iv")

theorem admits : Admits server "sid" 0 "a" userKey := by
  rw [admits_iff]
  refine ⟨?_, ?_, ?_⟩ <;> decide +kernel

end AnothersVault

open AnothersVault in
/-- A body that names the victim puts an account into the victim's data, in the column or in a
nested write. -/
theorem not_sameForOthers_namedOwner : Admits server "sid" 0 "a" userKey ∧
    ∀ request ∈ [create "b", connect "b"], ¬ SameForOthers "a" server.db
      (server.serve "sid" (request.route asciiData "sid" 0)).2.db := by
  refine ⟨admits, fun request hrequest hsame => ?_⟩
  have hcount := hsame.countP_accounts (show "b" ≠ "a" by decide)
  rcases List.mem_pair.mp hrequest with rfl | rfl
  all_goals
    revert hcount
    decide +kernel

open AnothersVault in
theorem sameForOthers_iff_example : SameForOthers "a" server.db
    (server.serve "sid" ((create "a").route asciiData "sid" 0)).2.db := by
  refine (sameForOthers_iff symbolicRuntime.connectsUser asciiData (create "a") server "sid" 0 "a"
    userKey admits).mpr ?_
  rintro - value hvalue
  exact (Option.some.inj hvalue).symm

end MyAccountController
