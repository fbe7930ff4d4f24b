import MyAccountController.Accounts.VaultKeys
import MyAccountController.Application.Writes
import MyAccountController.Auth.QuietRequests
import MyAccountController.Isolation.UserRequests

/-! # The application as a whole

Any session sends requests to any route, the scheduler scans all mailboxes, and
the server process may restart: the keys in its memory are lost then, but the
sessions are rows in the database and stay until they expire. Every event without
a nested write is a sequence of writes of the services.
-/

namespace MyAccountController

open Foundation Handler Database

variable {R : Runtime}

/-- A request to a route of the application. -/
inductive AppRequest (R : Runtime) where
  | auth (request : AuthRequest R)
  | user (request : UserRequest R)

def AppRequest.route (unicode : UnicodeData) (sessionId : String) (now : Int) :
    AppRequest R → Route R Unit
  | .auth request => request.route sessionId now
  | .user request => request.route unicode sessionId now

/-- What happens to the application. -/
inductive AppEvent (R : Runtime) where
  | request (sessionId : String) (now : Int) (request : AppRequest R)
  | handleScheduledScan (providers : LawfulRegistry) (faults : ScanFaults)
      (freshId : Nat → Nat → Nat → String)
  | restart
  | sessionExpires (sessionId : String)

/-- No account is updated with a nested write of its owner. -/
def UserRequest.NoNestedWrite : UserRequest R → Prop
  | .account request => request.NoNestedWrite
  | _ => True

def AppRequest.NoNestedWrite : AppRequest R → Prop
  | .auth _ => True
  | .user request => request.NoNestedWrite

def AppEvent.NoNestedWrite : AppEvent R → Prop
  | .request _ _ sent => sent.NoNestedWrite
  | _ => True

namespace Server

/-- The server after an event, whether a request failed or not. -/
def appStep (unicode : UnicodeData) (server : Server R) : AppEvent R → Server R
  | .request sessionId now request =>
      (server.serve sessionId (request.route unicode sessionId now)).2
  | .handleScheduledScan providers faults freshId =>
      { server with
        db := (onMailServer (CandidatesService.scanAll unicode providers.val faults freshId)
          server.db).2 }
  | .restart => { server with keys := UnlockKeyStore.empty }
  | .sessionExpires sessionId =>
      { server with sessions := Function.update server.sessions sessionId {} }

/-- The server that starts on an empty database. -/
def initial (R : Runtime) : Server R := ⟨Database.empty, UnlockKeyStore.empty, fun _ => {}⟩

/-- The server after the events. -/
def reached (unicode : UnicodeData) (events : List (AppEvent R)) : Server R :=
  run (appStep unicode) (initial R) events

theorem reached_concat (unicode : UnicodeData) (events : List (AppEvent R)) (event : AppEvent R) :
    reached unicode (events ++ [event]) = (reached unicode events).appStep unicode event :=
  run_concat _ _ _ _

end Server

/-! ## Requests as writes -/

/-- The relation holds between the databases of two contexts. -/
def OnContext (related : Database → Database → Prop) (ctx ctx' : Context R) : Prop :=
  related ctx.db ctx'.db

namespace OnContext

variable {related : Database → Database → Prop} {α β : Type}

theorem trans (htrans : ∀ a b c, related a b → related b c → related a c) (a b c : Context R)
    (hab : OnContext related a b) (hbc : OnContext related b c) : OnContext related a c :=
  htrans _ _ _ hab hbc

theorem onDatabase {query : Query α} (hquery : Keeps related query) :
    Keeps (OnContext related) (MyAccountController.onDatabase query : Route R α) :=
  fun ctx => hquery ctx.db

/-- A route that leaves the database alone. -/
theorem of_db_eq (hrefl : ∀ db, related db db) {route : Route R α}
    (hroute : ∀ ctx, (route ctx).2.db = ctx.db) : Keeps (OnContext related) route := by
  intro ctx
  show related ctx.db (route ctx).2.db
  rw [hroute ctx]
  exact hrefl ctx.db

theorem bind (htrans : ∀ a b c, related a b → related b c → related a c) {x : Route R α}
    {f : α → Route R β} (hx : Keeps (OnContext related) x)
    (hf : ∀ a, Keeps (OnContext related) (f a)) : Keeps (OnContext related) (x >>= f) :=
  keeps_bind (trans htrans) hx fun a _ ctx _ => hf a ctx

theorem discard (hrefl : ∀ db, related db db)
    (htrans : ∀ a b c, related a b → related b c → related a c) {x : Route R α}
    (hx : Keeps (OnContext related) x) :
    Keeps (OnContext related) (x >>= fun _ => pure ()) :=
  bind htrans hx fun _ ctx => hrefl ctx.db

theorem behindUnlockedGuard (hrefl : ∀ db, related db db)
    (htrans : ∀ a b c, related a b → related b c → related a c) {sessionId : String} {now : Int}
    {query : String → R.Key → Query α} (hquery : ∀ userId key, Keeps related (query userId key)) :
    Keeps (OnContext related) (MyAccountController.behindUnlockedGuard sessionId now query) :=
  bind htrans (of_db_eq hrefl (unlockedGuard_db sessionId now)) fun admitted =>
    onDatabase (hquery admitted.1 admitted.2)

theorem behindLoggedInGuard (hrefl : ∀ db, related db db)
    (htrans : ∀ a b c, related a b → related b c → related a c)
    {query : String → Query α} (hquery : ∀ userId, Keeps related (query userId)) :
    Keeps (OnContext related) (MyAccountController.behindLoggedInGuard query : Route R α) := by
  refine bind htrans (of_db_eq hrefl fun ctx => ?_) fun userId => onDatabase (hquery userId)
  rw [loggedInGuard_state]

end OnContext

/-- Whatever the route answers, it has only done such writes. -/
abbrev RouteWrites {α : Type} (write : Database → Database → Prop) (route : Route R α) : Prop :=
  Keeps (OnContext (Database.Writes write)) route

namespace RouteWrites

variable {write : Database → Database → Prop} {α β : Type}

/-- A route that leaves the database alone. -/
theorem quiet {route : Route R α} (hroute : ∀ ctx, (route ctx).2.db = ctx.db) :
    RouteWrites write route :=
  OnContext.of_db_eq Writes.refl hroute

theorem bind {x : Route R α} {f : α → Route R β} (hx : RouteWrites write x)
    (hf : ∀ a, RouteWrites write (f a)) : RouteWrites write (x >>= f) :=
  OnContext.bind Writes.trans hx hf

theorem discard {x : Route R α} (hx : RouteWrites write x) :
    RouteWrites write (x >>= fun _ => pure ()) :=
  OnContext.discard Writes.refl Writes.trans hx

theorem query {query : Query α} (hquery : Keeps (Database.Writes write) query) :
    RouteWrites write (onDatabase query : Route R α) :=
  OnContext.onDatabase hquery

theorem reads {query : Query α} (hquery : ∀ db, (query db).2 = db) :
    RouteWrites write (onDatabase query : Route R α) :=
  quiet fun ctx => hquery ctx.db

theorem ensure {condition : Prop} [Decidable condition] {e : Exception} :
    RouteWrites (R := R) write (Handler.ensure condition e) := by
  unfold Handler.ensure
  split <;> exact quiet fun _ => rfl

theorem expect {value : Option α} {e : Exception} :
    RouteWrites (R := R) write (Handler.expect value e) := by
  cases value <;> exact quiet fun _ => rfl

theorem guarded {sessionId : String} {now : Int} {f : String × R.Key → Route R β}
    (hf : ∀ admitted, RouteWrites write (f admitted)) :
    RouteWrites write (unlockedGuard sessionId now >>= f) :=
  bind (quiet (unlockedGuard_db sessionId now)) hf

theorem loggedIn {f : String → Route R β} (hf : ∀ userId, RouteWrites write (f userId)) :
    RouteWrites write (loggedInGuard >>= f) :=
  bind (quiet fun ctx => congrArg Context.db (loggedInGuard_state ctx)) hf

end RouteWrites

/-! ## Requests under `/auth` -/

/-- The writes that a request under `/auth` may do. -/
def AuthRequest.MayWrite : AuthRequest R → Database → Database → Prop
  | .webauthnRegister _ _ _ => DeviceRegistration
  | _ => IdentityWrite

section AuthRoutes

variable {write : Database → Database → Prop} {sessionId : String} {now : Int}

theorem newMasterPassword_writes {password : Option String} :
    RouteWrites (R := R) write (AuthService.newMasterPassword password) :=
  .bind .expect fun _ => .bind .ensure fun _ => .quiet fun _ => rfl

theorem verifiedUser_writes {userId : String} {password : Option String} {invalid : Exception} :
    RouteWrites (R := R) write (AuthService.verifiedUser userId password invalid) :=
  .bind (.reads fun _ => rfl) fun _ => .bind .expect fun _ => .bind .expect fun _ =>
    .bind .ensure fun _ => .quiet fun _ => rfl

theorem unlock_writes {userId : String} {password : Option String} :
    RouteWrites (R := R) write (AuthService.unlock sessionId now userId password) :=
  .bind verifiedUser_writes fun _ => .quiet fun _ => rfl

theorem setupMasterPassword_writes {password : Option String} {fresh : FreshSecrets R} :
    RouteWrites IdentityWrite
      (AuthService.setupMasterPassword sessionId now password fresh) := by
  refine .bind (.quiet fun _ => rfl) fun ctx => .bind .ensure fun _ => .bind .expect fun pending => ?_
  refine .bind newMasterPassword_writes fun password => .bind (.query ?_) fun user => ?_
  · apply Model.keeps_create _ Database.Writes.refl
    exact fun db table _ hinsert => .single (.userCreated db _ table hinsert)
  · exact .quiet fun _ => rfl

theorem changeMasterPassword_writes {userId : String} {currentPassword newPassword : Option String}
    {fresh : FreshSecrets R} : RouteWrites IdentityWrite
      (AuthService.changeMasterPassword sessionId now userId currentPassword newPassword fresh) := by
  refine .bind verifiedUser_writes fun verified => .bind newMasterPassword_writes fun new => ?_
  refine .bind (.reads fun _ => rfl) fun accounts => .bind (.query ?_) fun revoked => ?_
  · exact keeps_transaction Database.Writes.refl AuthService.rotateKeys_writes
  · exact .quiet fun _ => rfl

theorem checkStillUnlocked_db (ctx : Context R) :
    (AuthService.checkStillUnlocked sessionId now ctx).2.db = ctx.db := by
  rw [AuthService.checkStillUnlocked, state_bind]
  cases ctx.session.isUnlocked with
  | false => rfl
  | true => cases (ctx.keys.touch sessionId now).1 <;> rfl

theorem updateAutoLockMinutes_writes {userId : String} {autoLockMinutes : Option Int} :
    RouteWrites (R := R) IdentityWrite
      (AuthService.updateAutoLockMinutes sessionId userId autoLockMinutes) := by
  refine .bind .expect fun minutes => .bind .ensure fun _ => .bind (.query ?_) fun _ => ?_
  · apply Model.keeps_update _ Database.Writes.refl
    exact fun db => .single (.userChanged db userId _ _ fun _ => rfl)
  · exact .quiet fun _ => rfl

theorem takeChallenge_writes {missing : Exception} :
    RouteWrites (R := R) write (AuthController.takeChallenge missing) :=
  .bind (.quiet fun _ => rfl) fun _ => .bind .expect fun _ => .quiet fun _ => rfl

theorem createRegistrationOptions_state {userId challenge : String} (db : Database) :
    (WebAuthnService.createRegistrationOptions userId challenge db).2 = db := by
  unfold WebAuthnService.createRegistrationOptions
  rw [Model.findUnique_bind]
  cases (Prisma.user.table db).find? userId <;> rfl

theorem getSettings_state {userId : String} (db : Database) :
    (AuthService.getSettings userId db).2 = db := by
  unfold AuthService.getSettings
  rw [Model.findUnique_bind]
  cases (Prisma.user.table db).find? userId <;> rfl

theorem AuthRequest.route_writes (request : AuthRequest R) (sessionId : String) (now : Int) :
    RouteWrites request.MayWrite (request.route sessionId now) := by
  cases request with
  | googleStart generatedState => exact .quiet fun _ => rfl
  | googleCallback oauthState profile => exact .quiet (googleCallback_db oauthState profile)
  | setupMasterPassword password fresh => exact .discard setupMasterPassword_writes
  | changeMasterPassword currentPassword newPassword fresh =>
      exact .discard (.guarded fun _ => changeMasterPassword_writes)
  | unlock password => exact .loggedIn fun _ => unlock_writes
  | lock => exact .loggedIn fun _ => .quiet fun _ => rfl
  | logout => exact .quiet fun _ => rfl
  | me =>
      refine .discard (.loggedIn fun userId => .bind (.quiet checkStillUnlocked_db) fun _ => ?_)
      exact .quiet fun _ => rfl
  | settings => exact .discard (.loggedIn fun _ => .reads getSettings_state)
  | updateAutoLockMinutes autoLockMinutes => exact .guarded fun _ => updateAutoLockMinutes_writes
  | webauthnDevices => exact .discard (.guarded fun _ => .reads fun _ => rfl)
  | webauthnRegisterOptions challenge =>
      refine .discard (.guarded fun _ => .bind (.reads createRegistrationOptions_state) fun _ => ?_)
      exact .quiet fun _ => rfl
  | webauthnRegister freshId deviceLabel response =>
      refine .discard (.guarded fun _ => .bind takeChallenge_writes fun challenge => ?_)
      exact .query WebAuthnService.verifyRegistration_writes
  | webauthnAuthenticateOptions challenge => exact .quiet fun _ => rfl
  | webauthnAuthenticate response password =>
      refine .bind takeChallenge_writes fun challenge => .bind (.query ?_) fun device => ?_
      · exact WebAuthnService.verifyAuthentication_writes
      · exact .bind (.quiet fun _ => rfl) fun _ => unlock_writes
  | webauthnRemove deviceId =>
      exact .guarded fun _ => .query WebAuthnService.removeDevice_writes

end AuthRoutes

/-! ## Requests about the user's own data -/

/-- The writes that a request about the user's own data may do. -/
def UserRequest.MayWrite : UserRequest R → Database → Database → Prop
  | .account _ => AccountWrite
  | .register _ _ _ => DeviceRegistration
  | .removeDevice _ => IdentityWrite
  | _ => MailWrite

theorem onMailServer_related {α : Type} {related : Database → Database → Prop}
    {x : Handler Exception MailServer α} (hx : Keeps (CandidatesService.OnMail related) x) :
    Keeps related (onMailServer x) :=
  fun db => hx ⟨db, [], []⟩

/-- A request that drops its answer does what its service method does. -/
theorem behindUnlockedGuard_writes {write : Database → Database → Prop} {α : Type}
    {sessionId : String} {now : Int} {query : String → R.Key → Query α}
    (hquery : ∀ userId key, Keeps (Database.Writes write) (query userId key)) :
    RouteWrites write (behindUnlockedGuard sessionId now query) :=
  .guarded fun admitted => .query (hquery admitted.1 admitted.2)

theorem UserRequest.route_writes (unicode : UnicodeData) (request : UserRequest R)
    (hnested : request.NoNestedWrite) (sessionId : String) (now : Int) :
    RouteWrites request.MayWrite (request.route unicode sessionId now) := by
  cases request with
  | account request =>
      exact behindUnlockedGuard_writes fun userId key =>
        request.service_writes hnested userId key now
  | read request => exact .discard (.quiet (request.route_db sessionId now))
  | createRule data fresh =>
      exact behindUnlockedGuard_writes fun _ _ => Writes.discard RulesService.create_writes
  | updateRule id data conditionId =>
      exact behindUnlockedGuard_writes fun _ _ => Writes.discard RulesService.update_writes
  | removeRule id => exact behindUnlockedGuard_writes fun _ _ => RulesService.remove_writes
  | scan providers faults freshId =>
      refine behindUnlockedGuard_writes fun userId _ => Writes.discard (onMailServer_related ?_)
      exact (CandidatesService.scan_writes providers.property).1 userId
  | approve id providers =>
      refine behindUnlockedGuard_writes fun userId _ => Writes.discard (onMailServer_related ?_)
      exact CandidatesService.approve_writes providers.property
  | exclude id =>
      exact behindUnlockedGuard_writes fun _ _ => Writes.discard CandidatesService.exclude_writes
  | oauthStart generatedState => exact .discard (.quiet fun _ => rfl)
  | oauthCallback oauthState tokens tokenKey fresh =>
      refine keeps_recover (OnContext.trans Database.Writes.trans) (RouteWrites.bind ?_ ?_) ?_
      · exact RouteWrites.quiet fun _ => rfl
      · refine fun userId => .bind (.quiet fun _ => rfl) fun tokens => .discard (.query ?_)
        exact EmailAccountsService.createFromGmail_writes
      · exact fun _ => RouteWrites.quiet fun _ => rfl
  | disconnect id => exact .loggedIn fun _ => .query EmailAccountsService.remove_writes
  | registerOptions challenge =>
      refine .discard (.guarded fun _ => .bind (.reads createRegistrationOptions_state) fun _ => ?_)
      exact .quiet fun _ => rfl
  | register freshId deviceLabel response =>
      refine .discard (.guarded fun _ => .bind takeChallenge_writes fun challenge => ?_)
      exact .query WebAuthnService.verifyRegistration_writes
  | removeDevice deviceId =>
      exact .guarded fun _ => .query WebAuthnService.removeDevice_writes

/-! ## Requests made of quiet steps -/

section Kept

variable {sessionId : String} {now : Int} {related : Context R → Context R → Prop}

theorem ReadRequest.route_kept (request : ReadRequest R)
    (hsteps : KeptBySteps sessionId now related) :
    Keeps related (request.route sessionId now) := by
  cases request with
  | settings | emailAccounts => exact hsteps.bind hsteps.loggedInGuard fun _ => hsteps.onDatabase _
  | notificationsSummary => exact hsteps.onDatabase _
  | _ => exact hsteps.behind_guard fun _ => hsteps.onDatabase _

variable (hstate : ∀ (ctx : Context R) state, related ctx
  (ctx.withSession fun session => { session with gmailOAuthState := state }))

include hstate

theorem takeState_kept (hsteps : KeptBySteps sessionId now related) (oauthState : Option String) :
    Keeps related (onSession (EmailAccountsController.takeState oauthState)) := by
  intro ctx
  unfold onSession EmailAccountsController.takeState
  rw [zoom_run, state_bind, ensure_bind]
  split
  · rw [modify_bind]
    cases ctx.session.loggedInAs <;> exact hstate ctx none
  · exact hsteps.refl ctx

theorem oauthStart_kept (hsteps : KeptBySteps sessionId now related) (generatedState : String) :
    Keeps related (onSession (EmailAccountsController.oauthStart generatedState)) := by
  intro ctx
  unfold onSession EmailAccountsController.oauthStart
  rw [zoom_run, state_bind]
  cases ctx.session.loggedInAs with
  | none => exact hsteps.refl ctx
  | some userId => exact hstate ctx (some generatedState)

/-- A request about the user's own data keeps what the quiet requests keep, if the state of a
connection does not count. -/
theorem UserRequest.route_kept (request : UserRequest R)
    (hsteps : KeptBySteps sessionId now related) (unicode : UnicodeData) :
    Keeps related (request.route unicode sessionId now) := by
  cases request with
  | read request => exact hsteps.discard (request.route_kept hsteps)
  | oauthStart generatedState => exact hsteps.discard (oauthStart_kept hstate hsteps generatedState)
  | oauthCallback oauthState tokens tokenKey fresh =>
      refine keeps_recover hsteps.trans (hsteps.bind (takeState_kept hstate hsteps oauthState) ?_)
        fun _ => hsteps.pure ()
      refine fun userId => hsteps.bind (Keeps.of_state_eq hsteps.refl fun _ => rfl) ?_
      exact fun _ => hsteps.discard (hsteps.onDatabase _)
  | disconnect id => exact hsteps.bind hsteps.loggedInGuard fun _ => hsteps.onDatabase _
  | registerOptions challenge =>
      have hroute : Keeps related
          ((AuthRequest.webauthnRegisterOptions challenge).route sessionId now) := hsteps.route rfl
      exact hroute
  | register freshId deviceLabel response =>
      have hroute : Keeps related ((AuthRequest.webauthnRegister freshId deviceLabel
          response).route sessionId now) := hsteps.route rfl
      exact hroute
  | removeDevice deviceId =>
      have hroute : Keeps related
          ((AuthRequest.webauthnRemove deviceId).route sessionId now) := hsteps.route rfl
      exact hroute
  | _ => exact hsteps.behind_guard fun _ => hsteps.onDatabase _

end Kept

/-! ## Events as writes -/

def AppRequest.MayWrite : AppRequest R → Database → Database → Prop
  | .auth request => request.MayWrite
  | .user request => request.MayWrite

/-- The writes that an event may do. -/
def AppEvent.MayWrite : AppEvent R → Database → Database → Prop
  | .request _ _ sent => sent.MayWrite
  | .handleScheduledScan _ _ _ => MailWrite
  | .restart | .sessionExpires _ => fun _ _ => False

theorem Server.appStep_writes (unicode : UnicodeData) (server : Server R) {event : AppEvent R}
    (hnested : event.NoNestedWrite) :
    Database.Writes event.MayWrite server.db (server.appStep unicode event).db := by
  rcases event with ⟨sessionId, now, request | request⟩ | ⟨providers, faults, freshId⟩ | _ | _
  · exact request.route_writes sessionId now (server.context sessionId)
  · exact request.route_writes unicode hnested sessionId now (server.context sessionId)
  · have hscan : Keeps (Database.Writes MailWrite)
        (onMailServer (CandidatesService.scanAll unicode providers.val faults freshId)) :=
      onMailServer_related (CandidatesService.scan_writes providers.property).2
    exact hscan server.db
  · exact Database.Writes.refl _
  · exact Database.Writes.refl _

theorem AppEvent.MayWrite.write {event : AppEvent R} {db db' : Database}
    (hwrite : event.MayWrite db db') : Database.Write db db' := by
  rcases event with ⟨sessionId, now, request | request⟩ | ⟨providers, faults, freshId⟩ | _ | _
  · cases request with
    | webauthnRegister => exact .registration hwrite
    | _ => exact .identity hwrite
  · cases request with
    | account => exact .account hwrite
    | register => exact .registration hwrite
    | removeDevice => exact .identity hwrite
    | _ => exact .mail hwrite
  · exact .mail hwrite
  · exact False.elim hwrite
  · exact False.elim hwrite

/-- A relation that every write keeps holds from the start of a run to its end. -/
theorem related_of_appRun {related : Database → Database → Prop} (hrefl : ∀ db, related db db)
    (htrans : ∀ a b c, related a b → related b c → related a c)
    (hwrite : ∀ a b, Database.Write a b → related a b) (unicode : UnicodeData) (init : Server R)
    {events : List (AppEvent R)} (hnested : ∀ event ∈ events, event.NoNestedWrite) :
    related init.db (run (Server.appStep unicode) init events).db := by
  induction events using List.reverseRecOn with
  | nil => exact hrefl init.db
  | append_singleton events event ih =>
      obtain ⟨hbefore, hlast⟩ := List.forall_mem_append.mp hnested
      rw [List.forall_mem_singleton] at hlast
      rw [run_concat]
      refine htrans _ _ _ (ih hbefore)
        ((Server.appStep_writes unicode _ hlast).related hrefl htrans ?_)
      exact fun a b h => hwrite a b h.write

end MyAccountController
