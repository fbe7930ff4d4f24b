import MyAccountController.Application.Requests
import MyAccountController.Common.SymbolicRuntime
import MyAccountController.Mail.GmailProvider

/-! # The key of the mailbox tokens

The tokens of a mailbox are encrypted under the key that the server had when the mailbox was
connected, whatever the sessions do. A refresh decrypts both tokens first, so the new token is
stored under the same key or not at all. A server with another key reads neither, and the
mailbox has to be connected again.
-/

namespace MyAccountController

open Foundation Handler

variable {R : Runtime}

/-! ## Tokens under a key -/

/-- Both tokens are encrypted under the key, and this is the refresh token. -/
def EmailAccount.SealedUnder (key : R.Key) (refreshToken : String) (row : EmailAccount) : Prop :=
  (∃ accessToken iv, row.encryptedAccessToken = R.encrypt accessToken key iv) ∧
    ∃ iv, row.encryptedRefreshToken = R.encrypt refreshToken key iv

/-- Every mailbox was stored before, with tokens under the same key. -/
def KeepsMailboxKeys (R : Runtime) (db db' : Database) : Prop :=
  ∀ id after, db'.emailAccounts.find? id = some after →
    ∃ before, db.emailAccounts.find? id = some before ∧ after.userId = before.userId ∧
      ∀ (key : R.Key) refreshToken,
        before.SealedUnder key refreshToken → after.SealedUnder key refreshToken

namespace KeepsMailboxKeys

theorem refl (db : Database) : KeepsMailboxKeys R db db :=
  fun _ row hrow => ⟨row, hrow, rfl, fun _ _ h => h⟩

theorem trans (a b c : Database) (hab : KeepsMailboxKeys R a b) (hbc : KeepsMailboxKeys R b c) :
    KeepsMailboxKeys R a c := by
  intro id last hlast
  obtain ⟨middle, hmiddle, huser, hseal⟩ := hbc id last hlast
  obtain ⟨first, hfirst, huser', hseal'⟩ := hab id middle hmiddle
  exact ⟨first, hfirst, huser.trans huser',
    fun key refreshToken h => hseal key refreshToken (hseal' key refreshToken h)⟩

/-- The mailboxes are left alone. -/
theorem of_same {db db' : Database} (hsame : db'.emailAccounts = db.emailAccounts) :
    KeepsMailboxKeys R db db' := by
  intro id row hrow
  rw [hsame] at hrow
  exact ⟨row, hrow, rfl, fun _ _ h => h⟩

theorem disconnect (db : Database) (id : String) :
    KeepsMailboxKeys R db (db.deleteEmailAccount id) := by
  intro other row hrow
  exact ⟨row, (Table.find?_deleteWhere.mp hrow).1, rfl, fun _ _ h => h⟩

theorem of_accountWrite {db db' : Database} (hwrite : Database.AccountWrite db db') :
    KeepsMailboxKeys R db db' := by
  cases hwrite <;> exact of_same rfl

theorem of_identityWrite {db db' : Database} (hwrite : Database.IdentityWrite db db') :
    KeepsMailboxKeys R db db' := by
  cases hwrite <;> exact of_same rfl

theorem of_registration {db db' : Database} (hwrite : Database.DeviceRegistration db db') :
    KeepsMailboxKeys R db db' := by
  cases hwrite
  exact of_same rfl

end KeepsMailboxKeys

/-! ## The provider -/

namespace GmailProvider

variable {env : GmailEnvironment R} {id payload token : String} {db : Database}

/-- `decipher.final()` under the wrong key. -/
def unreadable : Exception := .error "Unsupported state or unable to authenticate data"

theorem decryptToken_ok_iff :
    decryptToken env payload = .ok token ↔ R.decrypt payload env.tokenKey = some token := by
  unfold decryptToken
  cases R.decrypt payload env.tokenKey <;> simp

theorem decryptToken_seal (haes : R.AesGcmLaws) (key : R.Key) (iv : R.Iv)
    (hkey : env.tokenKey = key) : decryptToken env (R.encrypt token key iv) = .ok token := by
  subst hkey
  exact decryptToken_ok_iff.mpr (haes.decrypt_encrypt token env.tokenKey iv)

theorem decryptToken_other (haes : R.AesGcmLaws) (key : R.Key) (iv : R.Iv)
    (hkey : env.tokenKey ≠ key) :
    decryptToken env (R.encrypt token key iv) = .error unreadable := by
  simp [decryptToken, haes.decrypt_other token key iv _ hkey, unreadable]

/-- A server that reads the tokens of a row has the key that they are under. -/
theorem key_of_decryptToken (haes : R.AesGcmLaws) {row : EmailAccount} {key : R.Key}
    {refreshToken : String} (hseal : row.SealedUnder key refreshToken)
    (hread : decryptToken env row.encryptedAccessToken = .ok token) : env.tokenKey = key := by
  by_contra hne
  obtain ⟨⟨accessToken, iv, haccess⟩, -⟩ := hseal
  rw [haccess, decryptToken_other haes key iv hne] at hread
  contradiction

/-- A refreshed token is stored under the key that the tokens were read with. -/
theorem storeToken_keepsKeys {accessToken : String} {expiryDate : Option Int}
    (hkey : ∀ row, db.emailAccounts.find? id = some row → ∀ key refreshToken,
      row.SealedUnder key refreshToken → env.tokenKey = key) :
    KeepsMailboxKeys R db (storeToken env id accessToken expiryDate db).2 := by
  rw [storeToken, bind_pure_state]
  unfold Model.update
  cases hfind : (Prisma.emailAccount.table db).find? id with
  | none => exact KeepsMailboxKeys.refl db
  | some row =>
      intro other after hafter
      by_cases hid : other = id
      · subst hid
        have hfound := Table.find?_modify (EmailAccount.setAccessToken_unindexed
          (R.encrypt accessToken env.tokenKey (env.iv other)) (expiryDate.filter (· ≠ 0))) hfind
        obtain rfl := Option.some.inj (hfound.symm.trans hafter)
        refine ⟨row, hfind, rfl, fun key refreshToken hseal => ⟨?_, hseal.2⟩⟩
        obtain rfl := hkey row hfind key refreshToken hseal
        exact ⟨accessToken, env.iv other, rfl⟩
      · have hother := @Table.find?_modify_of_ne _ _ _ _ db.emailAccounts id other _
          (EmailAccount.setAccessToken_unindexed
            (R.encrypt accessToken env.tokenKey (env.iv id)) (expiryDate.filter (· ≠ 0))) hid
        exact ⟨after, hother.symm.trans hafter, rfl, fun _ _ h => h⟩

theorem getAuthorizedClient_keepsKeys (haes : R.AesGcmLaws) (id : String) :
    Keeps (KeepsMailboxKeys R) (getAuthorizedClient env id) := by
  intro db
  rw [getAuthorizedClient, Model.findUnique_bind]
  have hquiet : KeepsMailboxKeys R db db := KeepsMailboxKeys.refl db
  cases hfind : (Prisma.emailAccount.table db).find? id with
  | none => exact hquiet
  | some row =>
      rw [expect_some_bind]
      cases haccess : decryptToken env row.encryptedAccessToken with
      | error e => exact hquiet
      | ok previousAccessToken =>
          rw [ofExcept_ok_bind]
          cases decryptToken env row.encryptedRefreshToken with
          | error e => exact hquiet
          | ok refreshToken =>
              rw [ofExcept_ok_bind]
              cases env.google.getAccessToken
                ⟨some previousAccessToken, some refreshToken, row.tokenExpiresAt⟩ with
              | error e => exact hquiet
              | ok credentials =>
                  rw [ofExcept_ok_bind]
                  cases credentials.accessToken with
                  | none => exact hquiet
                  | some accessToken =>
                      dsimp only
                      split
                      · rw [bind_pure_state]
                        apply storeToken_keepsKeys
                        intro row' hrow' key refreshToken hseal
                        obtain rfl := Option.some.inj (hfind.symm.trans hrow')
                        exact key_of_decryptToken haes hseal haccess
                      · exact hquiet

/-- What a client is used for writes nothing more. -/
theorem client_keepsKeys {α : Type} (haes : R.AesGcmLaws) {f : GoogleCredentials → Query α}
    (hf : ∀ auth db, (f auth db).2 = db) :
    Keeps (KeepsMailboxKeys R) (getAuthorizedClient env id >>= f) := by
  apply keeps_bind KeepsMailboxKeys.trans (getAuthorizedClient_keepsKeys haes id)
  intro auth _ db _
  rw [hf auth db]
  exact KeepsMailboxKeys.refl db

theorem provider_keepsKeys (haes : R.AesGcmLaws) (env : GmailEnvironment R) (id : String) :
    Keeps (KeepsMailboxKeys R) ((provider env).listCandidateMessages id) ∧
      ∀ externalMessageId action,
        Keeps (KeepsMailboxKeys R) ((provider env).applyAction id externalMessageId action) := by
  constructor
  · apply client_keepsKeys haes
    intro auth db
    cases env.google.messagesList auth 50 "newer_than:7d" with
    | error e => rfl
    | ok list =>
        rw [ofExcept_ok_bind]
        cases (list.messageIds.getD []).mapM fun id =>
          env.google.messagesGet auth id ["From", "Subject", "Date"] <;> rfl
  · intro externalMessageId action
    apply client_keepsKeys haes
    intro auth db
    cases action <;> rfl

end GmailProvider

/-! ## Requests -/

/-- Scans and approvals go through the provider of Gmail. -/
def UserRequest.OnGmail : UserRequest R → Prop
  | .scan providers _ _ | .approve _ providers =>
      ∃ env : GmailEnvironment R, providers.val = gmailRegistry env
  | _ => True

def AppEvent.OnGmail : AppEvent R → Prop
  | .request _ _ (.user sent) => sent.OnGmail
  | .handleScheduledScan providers _ _ =>
      ∃ env : GmailEnvironment R, providers.val = gmailRegistry env
  | _ => True

namespace CandidatesService

variable {unicode : UnicodeData} {env : GmailEnvironment R} {faults : ScanFaults}
  {freshId : Nat → Nat → Nat → String}

theorem createCandidate_keepsKeys {fault : Option Exception} {id ruleId emailAccountId : String}
    {message : RawMailMessage} :
    Keeps (KeepsMailboxKeys R) (createCandidate fault id ruleId emailAccountId message) := by
  unfold createCandidate
  cases fault with
  | some err => exact fun db => KeepsMailboxKeys.refl db
  | none =>
      cases candidateInput id ruleId emailAccountId message with
      | error e => exact fun db => KeepsMailboxKeys.refl db
      | ok row =>
          exact Model.keeps_create _ KeepsMailboxKeys.refl
            fun db table _ _ => KeepsMailboxKeys.of_same rfl

theorem scan_keepsKeys (haes : R.AesGcmLaws) :
    (∀ userId, Keeps (OnMail (KeepsMailboxKeys R))
        (scan unicode (gmailRegistry env) faults freshId userId)) ∧
      Keeps (OnMail (KeepsMailboxKeys R))
        (scanAll unicode (gmailRegistry env) faults freshId) := by
  refine scan_keeps KeepsMailboxKeys.refl KeepsMailboxKeys.trans fun account i state => ?_
  apply scanAccount_related KeepsMailboxKeys.refl KeepsMailboxKeys.trans
  · intro provider hprovider emailAccountId
    rw [List.mem_singleton.mp hprovider]
    exact (GmailProvider.provider_keepsKeys haes env emailAccountId).1
  · exact fun _ _ _ _ _ => createCandidate_keepsKeys

theorem updateStatus_keepsKeys {id : String} {status : CandidateStatus} {now : Int} :
    Keeps (KeepsMailboxKeys R) (updateStatus id status now) :=
  Model.keeps_update _ KeepsMailboxKeys.refl _ fun _ => KeepsMailboxKeys.of_same rfl

theorem approve_keepsKeys (haes : R.AesGcmLaws) {now : Int} {userId id : String} :
    Keeps (OnMail (KeepsMailboxKeys R)) (approve (gmailRegistry env) now userId id) := by
  refine approve_keeps KeepsMailboxKeys.refl KeepsMailboxKeys.trans ?_ updateStatus_keepsKeys
  intro provider hprovider emailAccountId
  rw [List.mem_singleton.mp hprovider]
  exact (GmailProvider.provider_keepsKeys haes env emailAccountId).2

end CandidatesService

/-- What a service method does when it succeeds decides what it keeps, if it writes nothing when
it fails. -/
theorem keepsKeys_of_outcomes {α : Type} {query : Query α}
    (hok : ∀ a db db', query db = (.ok a, db') → KeepsMailboxKeys R db db')
    (herror : ∀ e db db', query db = (.error e, db') → db' = db) :
    Keeps (KeepsMailboxKeys R) query := by
  intro db
  rcases hrun : query db with ⟨e | a, db'⟩
  · rw [herror e db db' hrun]
    exact KeepsMailboxKeys.refl db
  · exact hok a db db' hrun

/-- A request of an unlocked session that drops its answer. -/
theorem unlocked_keepsKeys {α : Type} {sessionId : String} {now : Int}
    {query : String → R.Key → Query α}
    (hquery : ∀ userId key, Keeps (KeepsMailboxKeys R) (query userId key)) :
    Keeps (OnContext (KeepsMailboxKeys R)) (behindUnlockedGuard sessionId now
      fun userId key => do let _ ← query userId key) := by
  refine OnContext.behindUnlockedGuard KeepsMailboxKeys.refl KeepsMailboxKeys.trans ?_
  intro userId key
  exact keeps_bind KeepsMailboxKeys.trans (hquery userId key)
    fun _ _ db _ => KeepsMailboxKeys.refl db

/-- Writes that leave the mailboxes alone keep the keys of their tokens. -/
theorem keepsKeys_of_writes {write : Database → Database → Prop}
    (hwrite : ∀ a b, write a b → KeepsMailboxKeys R a b) {α : Type} {route : Route R α}
    (hroute : RouteWrites write route) : Keeps (OnContext (KeepsMailboxKeys R)) route :=
  fun ctx => (hroute ctx).related KeepsMailboxKeys.refl KeepsMailboxKeys.trans hwrite

theorem UserRequest.route_keepsKeys (haes : R.AesGcmLaws) (unicode : UnicodeData)
    (request : UserRequest R) (hgmail : request.OnGmail) (hnested : request.NoNestedWrite)
    (sessionId : String) (now : Int)
    (hcallback : ∀ oauthState tokens tokenKey fresh,
      request ≠ .oauthCallback oauthState tokens tokenKey fresh) :
    Keeps (OnContext (KeepsMailboxKeys R)) (request.route unicode sessionId now) := by
  have hwrites := request.route_writes unicode hnested sessionId now
  cases request with
  | account request =>
      exact keepsKeys_of_writes (fun _ _ => KeepsMailboxKeys.of_accountWrite) hwrites
  | read request =>
      exact OnContext.discard KeepsMailboxKeys.refl KeepsMailboxKeys.trans
        (OnContext.of_db_eq KeepsMailboxKeys.refl (request.route_db sessionId now))
  | createRule data fresh =>
      refine unlocked_keepsKeys fun _ _ => keepsKeys_of_outcomes ?_ ?_
      · intro created db db' hrun
        rw [(RulesService.create_ok hrun).elsewhere]
        exact KeepsMailboxKeys.of_same rfl
      · exact fun _ _ _ => RulesService.create_error
  | updateRule id data conditionId =>
      refine unlocked_keepsKeys fun _ _ => keepsKeys_of_outcomes ?_ ?_
      · intro updated db db' hrun
        rw [(RulesService.update_ok hrun).elsewhere]
        exact KeepsMailboxKeys.of_same rfl
      · exact fun _ _ _ => RulesService.update_error
  | removeRule id =>
      refine OnContext.behindUnlockedGuard KeepsMailboxKeys.refl KeepsMailboxKeys.trans ?_
      refine fun _ _ => keepsKeys_of_outcomes ?_ fun _ _ _ => RulesService.remove_error
      intro u db db' hrun
      rw [(RulesService.remove_ok hrun).2]
      exact KeepsMailboxKeys.of_same rfl
  | scan providers faults freshId =>
      obtain ⟨env, hproviders⟩ := hgmail
      refine unlocked_keepsKeys fun userId _ => onMailServer_related ?_
      rw [hproviders]
      exact (CandidatesService.scan_keepsKeys haes).1 userId
  | approve id providers =>
      obtain ⟨env, hproviders⟩ := hgmail
      refine unlocked_keepsKeys fun userId _ => onMailServer_related ?_
      rw [hproviders]
      exact CandidatesService.approve_keepsKeys haes
  | exclude id =>
      refine unlocked_keepsKeys fun _ _ => keepsKeys_of_outcomes ?_ ?_
      · intro row db db' hrun
        obtain ⟨owned, -, -, rfl⟩ := CandidatesService.exclude_ok hrun
        exact KeepsMailboxKeys.of_same rfl
      · exact fun _ _ _ => CandidatesService.exclude_error
  | oauthStart generatedState =>
      exact OnContext.discard KeepsMailboxKeys.refl KeepsMailboxKeys.trans
        (OnContext.of_db_eq KeepsMailboxKeys.refl fun _ => rfl)
  | oauthCallback oauthState tokens tokenKey fresh =>
      exact absurd rfl (hcallback oauthState tokens tokenKey fresh)
  | disconnect id =>
      refine OnContext.behindLoggedInGuard KeepsMailboxKeys.refl KeepsMailboxKeys.trans ?_
      refine fun _ => keepsKeys_of_outcomes ?_ fun _ _ _ => EmailAccountsService.remove_error
      intro u db db' hrun
      rw [(EmailAccountsService.remove_ok hrun).2]
      exact KeepsMailboxKeys.disconnect db id
  | registerOptions challenge =>
      have hquiet : RouteWrites (fun _ _ => False) ((UserRequest.registerOptions (R := R)
          challenge).route unicode sessionId now) :=
        .discard (.guarded fun _ => .bind (.reads createRegistrationOptions_state)
          fun _ => .quiet fun _ => rfl)
      exact keepsKeys_of_writes (fun _ _ => False.elim) hquiet
  | register freshId deviceLabel response =>
      exact keepsKeys_of_writes (fun _ _ => KeepsMailboxKeys.of_registration) hwrites
  | removeDevice deviceId =>
      exact keepsKeys_of_writes (fun _ _ => KeepsMailboxKeys.of_identityWrite) hwrites

/-! ## Connections -/

theorem takeState_matches {oauthState : Option String} {session session' : SessionData}
    {userId : String}
    (hrun : EmailAccountsController.takeState oauthState session = (.ok userId, session')) :
    oauthState.any (· ≠ "") ∧ oauthState = session.gmailOAuthState := by
  unfold EmailAccountsController.takeState at hrun
  rw [state_bind, bind_ok_iff] at hrun
  obtain ⟨_, _, hensure, -⟩ := hrun
  exact (ensure_ok_iff.mp hensure).1

/-- A callback connects a mailbox for the user of its session, or writes nothing. -/
theorem oauthCallback_db (unicode : UnicodeData) (server : Server R) (sessionId : String)
    (now : Int) (oauthState : Option String) (tokens : Except Exception GmailTokens)
    (tokenKey : R.Key) (fresh : FreshEmailAccount R) :
    (server.appStep unicode (.request sessionId now
        (.user (.oauthCallback oauthState tokens tokenKey fresh)))).db = server.db ∨
      ∃ userId given, (server.sessions sessionId).loggedInAs = some userId ∧
        oauthState.any (· ≠ "") ∧ oauthState = (server.sessions sessionId).gmailOAuthState ∧
        tokens = .ok given ∧
        (server.appStep unicode (.request sessionId now
          (.user (.oauthCallback oauthState tokens tokenKey fresh)))).db =
            (EmailAccountsService.createFromGmail tokenKey now fresh userId given server.db).2 := by
  have hrecover : ∀ {x : Route R Unit} (ctx : Context R),
      (recover x (fun _ => pure ()) ctx).2 = (x ctx).2 := by
    intro x ctx
    unfold recover
    rcases x ctx with ⟨e | u, after⟩ <;> rfl
  have hstep : (server.appStep unicode (.request sessionId now
      (.user (.oauthCallback oauthState tokens tokenKey fresh)))).db =
        (recover _ (fun _ => pure ()) (server.context sessionId)).2.db := rfl
  rw [hstep, hrecover]
  rcases htake : EmailAccountsController.takeState oauthState (server.sessions sessionId)
    with ⟨e | userId, session⟩
  · have hsession : onSession (EmailAccountsController.takeState oauthState)
        (server.context sessionId) = (.error e, { server.context sessionId with session }) := by
      unfold onSession
      rw [zoom_run, Server.context_session, htake]
    rw [bind_of_error hsession]
    exact .inl rfl
  · have hsession : onSession (EmailAccountsController.takeState oauthState)
        (server.context sessionId) = (.ok userId, { server.context sessionId with session }) := by
      unfold onSession
      rw [zoom_run, Server.context_session, htake]
    rw [bind_of_ok hsession]
    cases tokens with
    | error e => exact .inl rfl
    | ok given =>
        rw [ofExcept_ok_bind, bind_pure_state]
        obtain ⟨hpresent, hmatches⟩ := takeState_matches htake
        exact .inr ⟨userId, given, takeState_user htake, hpresent, hmatches, rfl, rfl⟩

/-- The event connects the mailbox: a callback with the state that its session started, of the
user of the session. -/
def Connects (unicode : UnicodeData) (id userId : String) (key : R.Key) (refreshToken : String)
    (before : List (AppEvent R)) (event : AppEvent R) : Prop :=
  ∃ sessionId now oauthState given fresh,
    event = .request sessionId now (.user (.oauthCallback oauthState (.ok given) key fresh)) ∧
      ((Server.reached unicode before).sessions sessionId).loggedInAs = some userId ∧
      oauthState.any (· ≠ "") ∧
      oauthState = ((Server.reached unicode before).sessions sessionId).gmailOAuthState ∧
      fresh.id = id ∧ given.refreshToken = refreshToken

/-- The mailbox is stored after the event. -/
def Stays (unicode : UnicodeData) (id : String) (server : Server R) (event : AppEvent R) : Prop :=
  ((server.appStep unicode event).db.emailAccounts.find? id).isSome

/-- A mailbox that is stored after an event was stored before, with tokens under the same key, or
the event has connected it. -/
theorem appStep_mailbox (haes : R.AesGcmLaws) (unicode : UnicodeData)
    (before : List (AppEvent R)) (event : AppEvent R) (hgmail : event.OnGmail)
    (hnested : event.NoNestedWrite) (id : String) (row : EmailAccount)
    (hrow : (Server.reached unicode (before ++ [event])).db.emailAccounts.find? id = some row) :
    (∃ earlier, (Server.reached unicode before).db.emailAccounts.find? id = some earlier ∧
        row.userId = earlier.userId ∧ ∀ (key : R.Key) refreshToken,
          earlier.SealedUnder key refreshToken → row.SealedUnder key refreshToken) ∨
      ∃ key refreshToken, row.SealedUnder key refreshToken ∧
        Connects unicode id row.userId key refreshToken before event := by
  rw [Server.reached_concat] at hrow
  rcases event with ⟨sessionId, now, request | request⟩ | ⟨providers, faults, freshId⟩ | _ | _
  · have hkeeps : Keeps (OnContext (KeepsMailboxKeys R)) (request.route sessionId now) := by
      refine keepsKeys_of_writes (fun _ _ hwrite => ?_) (request.route_writes sessionId now)
      cases request with
      | webauthnRegister => exact KeepsMailboxKeys.of_registration hwrite
      | _ => exact KeepsMailboxKeys.of_identityWrite hwrite
    exact .inl (hkeeps _ id row hrow)
  · by_cases hcallback : ∃ oauthState tokens tokenKey fresh,
        request = .oauthCallback oauthState tokens tokenKey fresh
    · obtain ⟨oauthState, tokens, key, fresh, rfl⟩ := hcallback
      rcases oauthCallback_db unicode (Server.reached unicode before) sessionId now oauthState
        tokens key fresh with hsame | ⟨userId, given, hlogged, hpresent, hmatches, rfl, hcreated⟩
      · rw [hsame] at hrow
        exact .inl ⟨row, hrow, rfl, fun _ _ h => h⟩
      rw [hcreated] at hrow
      rcases hcreate : EmailAccountsService.createFromGmail key now fresh userId given
        (Server.reached unicode before).db with ⟨e | created, db'⟩
      · rw [hcreate, EmailAccountsService.createFromGmail_error hcreate] at hrow
        exact .inl ⟨row, hrow, rfl, fun _ _ h => h⟩
      rw [hcreate] at hrow
      obtain ⟨rfl, -, table, hinsert, rfl⟩ := (Model.create_ok_iff _).mp hcreate
      rcases Table.find?_insert_cases hinsert hrow with hold | ⟨-, rfl⟩
      · exact .inl ⟨row, hold, rfl, fun _ _ h => h⟩
      -- The row is new: the callback has sealed its tokens under the key it was given.
      obtain rfl := (Table.find?_eq_some_iff.mp hrow).2
      refine .inr ⟨key, given.refreshToken, ⟨⟨_, _, rfl⟩, _, rfl⟩, ?_⟩
      exact ⟨sessionId, now, oauthState, given, fresh, rfl, hlogged, hpresent, hmatches, rfl, rfl⟩
    · have hkeeps := request.route_keepsKeys haes unicode hgmail hnested sessionId now
        fun oauthState tokens tokenKey fresh heq => hcallback ⟨oauthState, tokens, tokenKey, fresh, heq⟩
      exact .inl (hkeeps _ id row hrow)
  · -- A scan writes tokens only when it refreshes them, under the key they had.
    obtain ⟨env, hproviders⟩ := hgmail
    have hkeeps : Keeps (KeepsMailboxKeys R)
        (onMailServer (CandidatesService.scanAll unicode providers.val faults freshId)) := by
      rw [hproviders]
      exact onMailServer_related (CandidatesService.scan_keepsKeys haes).2
    exact .inl (hkeeps _ id row hrow)
  · exact .inl ⟨row, hrow, rfl, fun _ _ h => h⟩
  · exact .inl ⟨row, hrow, rfl, fun _ _ h => h⟩

/-- A stored mailbox has been connected under some key, has stayed since, and has its tokens
under that key. -/
theorem sealed_since (haes : R.AesGcmLaws) (unicode : UnicodeData) (events : List (AppEvent R))
    (hgmail : ∀ event ∈ events, event.OnGmail)
    (hnested : ∀ event ∈ events, event.NoNestedWrite) (id : String) (row : EmailAccount)
    (hrow : (Server.reached unicode events).db.emailAccounts.find? id = some row) :
    ∃ key refreshToken, row.SealedUnder key refreshToken ∧
      Since (Server.appStep unicode) (Server.initial R)
        (Connects unicode id row.userId key refreshToken) (Stays unicode id) events := by
  induction events using List.reverseRecOn generalizing row with
  | nil => contradiction
  | append_singleton events event ih =>
      have hlast : event.OnGmail := hgmail event List.mem_concat_self
      have hplain : event.NoNestedWrite := hnested event List.mem_concat_self
      rcases appStep_mailbox haes unicode events event hlast hplain id row hrow with
        ⟨earlier, hearlier, huser, hkept⟩ | ⟨key, refreshToken, hseal, hconnects⟩
      · obtain ⟨key, refreshToken, hseal, hsince⟩ := ih
          (fun other hother => hgmail other (List.mem_append_left _ hother))
          (fun other hother => hnested other (List.mem_append_left _ hother)) earlier hearlier
        refine ⟨key, refreshToken, hkept key refreshToken hseal, ?_⟩
        rw [huser]
        apply hsince.concat
        show (Server.appStep unicode (Server.reached unicode events) event).db.emailAccounts.find?
          id |>.isSome
        rw [← Server.reached_concat, hrow]
        rfl
      · exact ⟨key, refreshToken, hseal, Since.last hconnects⟩

/-! ## Who can read the tokens -/

open GmailProvider in
/-- The server reads the mailbox with this key, and with no other. -/
structure OpensUnder (key : R.Key) (refreshToken : String) (row : EmailAccount)
    (db : Database) : Prop where
  opens : ∃ accessToken, ∀ env : GmailEnvironment R, env.tokenKey = key →
    (getAuthorizedClient env row.id db).1 =
      env.google.getAccessToken ⟨some accessToken, some refreshToken, row.tokenExpiresAt⟩
  listsNothing : ∀ env : GmailEnvironment R, env.tokenKey ≠ key →
    listCandidateMessages env row.id db = (.error unreadable, db)
  doesNothing : ∀ env : GmailEnvironment R, env.tokenKey ≠ key → ∀ externalMessageId action,
    applyAction env row.id externalMessageId action db = (.error unreadable, db)

open GmailProvider in
theorem opensUnder_of_sealed (haes : R.AesGcmLaws) {key : R.Key} {refreshToken : String}
    {row : EmailAccount} {db : Database} (hseal : row.SealedUnder key refreshToken)
    (hrow : db.emailAccounts.find? row.id = some row) :
    OpensUnder key refreshToken row db := by
  obtain ⟨⟨accessToken, accessIv, haccess⟩, refreshIv, hrefresh⟩ := hseal
  have hshut : ∀ env : GmailEnvironment R, env.tokenKey ≠ key →
      getAuthorizedClient env row.id db = (.error unreadable, db) := by
    intro env hkey
    have hread : decryptToken env row.encryptedAccessToken = .error unreadable := by
      rw [haccess, decryptToken_other haes key accessIv hkey]
    rw [getAuthorizedClient, Model.findUnique_bind]
    have hfind : (Prisma.emailAccount.table db).find? row.id = some row := hrow
    rw [hfind, expect_some_bind, hread]
    rfl
  constructor
  case opens =>
    refine ⟨accessToken, fun env hkey => ?_⟩
    rw [getAuthorizedClient_result, hrow]
    show (decryptToken env row.encryptedAccessToken >>= _) = _
    rw [haccess, decryptToken_seal haes key accessIv hkey]
    show (decryptToken env row.encryptedRefreshToken >>= _) = _
    rw [hrefresh, decryptToken_seal haes key refreshIv hkey]
    rfl
  case listsNothing => exact fun env hkey => bind_of_error (hshut env hkey)
  case doesNothing => exact fun env hkey _ _ => bind_of_error (hshut env hkey)

/-- A stored mailbox was connected by its user, in answer to a connection that the same session
had started. The server lists and acts in it with the key that it had then, and with no other. -/
theorem mailbox_opens (haes : R.AesGcmLaws) (unicode : UnicodeData) (events : List (AppEvent R))
    (hgmail : ∀ event ∈ events, event.OnGmail)
    (hnested : ∀ event ∈ events, event.NoNestedWrite) (row : EmailAccount)
    (hrow : row ∈ (Server.reached unicode events).db.emailAccounts.rows) :
    ∃ key refreshToken, OpensUnder key refreshToken row (Server.reached unicode events).db ∧
      Since (Server.appStep unicode) (Server.initial R)
        (Connects unicode row.id row.userId key refreshToken) (Stays unicode row.id) events := by
  have hfind : (Server.reached unicode events).db.emailAccounts.find? row.id = some row :=
    Table.find?_eq_some_iff.mpr ⟨hrow, rfl⟩
  obtain ⟨key, refreshToken, hseal, hsince⟩ :=
    sealed_since haes unicode events hgmail hnested row.id row hfind
  exact ⟨key, refreshToken, opensUnder_of_sealed haes hseal hfind, hsince⟩

/-! ## A first mailbox -/

namespace FirstMailbox

def tokenKey : symbolicRuntime.Key := ("server", "key")

def google : GoogleApi where
  getAccessToken credentials := .ok { credentials with accessToken := some "renewed" }
  messagesList _ _ _ := .ok ⟨none, none⟩
  messagesGet _ _ _ := .error (.error "not found")
  messagesTrash _ _ := .ok ()
  messagesModify _ _ _ := .ok ()

def env : GmailEnvironment symbolicRuntime where
  unicode := asciiData
  google
  tokenKey
  dateOfText _ := none
  dateOfNumber _ := none
  iv _ := "iv"

def providers : LawfulRegistry := ⟨gmailRegistry env, gmailRegistry_lawful env⟩

/-- A new user connects a mailbox, and the scheduler scans. -/
def events : List (AppEvent symbolicRuntime) :=
  [.request "sid" 0 (.auth (.googleStart "state")),
    .request "sid" 0 (.auth (.googleCallback (some "state") (.ok ⟨"sub", "u@example.com"⟩))),
    .request "sid" 0 (.auth (.setupMasterPassword (some "password") ⟨"h", "k", "u", fun id => id⟩)),
    .request "sid" 1 (.user (.oauthStart "connect")),
    .request "sid" 2 (.user (.oauthCallback (some "connect")
      (.ok ⟨"u@example.com", "access", "refresh", none⟩) tokenKey ⟨"m", "a", "r"⟩)),
    .handleScheduledScan providers ScanFaults.none fun _ _ _ => "c"]

theorem events_onGmail : ∀ event ∈ events, event.OnGmail := by
  simp [events, AppEvent.OnGmail, UserRequest.OnGmail, providers]

theorem events_noNestedWrite : ∀ event ∈ events, event.NoNestedWrite := by
  simp [events, AppEvent.NoNestedWrite, AppRequest.NoNestedWrite, UserRequest.NoNestedWrite]

def row : EmailAccount where
  id := "m"
  userId := "u"
  providerType := "gmail"
  displayName := "u@example.com"
  encryptedAccessToken := symbolicRuntime.encrypt "access" tokenKey "a"
  encryptedRefreshToken := symbolicRuntime.encrypt "refresh" tokenKey "r"
  tokenExpiresAt := none
  isActive := true
  connectedAt := 2

theorem row_mem : row ∈ (Server.reached asciiData events).db.emailAccounts.rows := by
  decide +kernel

end FirstMailbox

open FirstMailbox in
theorem mailbox_opens_here :
    ∃ key refreshToken, OpensUnder key refreshToken row (Server.reached asciiData events).db ∧
      Since (Server.appStep asciiData) (Server.initial symbolicRuntime)
        (Connects asciiData row.id row.userId key refreshToken) (Stays asciiData row.id) events :=
  mailbox_opens symbolicRuntime.aesGcmLaws asciiData events events_onGmail events_noNestedWrite row
    row_mem

end MyAccountController
