import MyAccountController.Application.References
import MyAccountController.Auth.LoginCallback
import MyAccountController.Common.SymbolicRuntime

/-! # How a session gets its user

A session is given a user by the callback of a known profile, by the setup of an
account for the profile it remembers, or by an assertion of a device. No other
request writes the user id or the remembered profile, but for the logout, which
forgets both. Users are never deleted, and without a nested write they keep their
id and profile, so the user of a session is stored and was named in that session.
-/

namespace MyAccountController

open Foundation Handler Database

variable {R : Runtime}

/-! ## One request -/

/-- The user id and the remembered profile stay. -/
structure SameLogin (ctx ctx' : Context R) : Prop where
  userId : ctx'.session.userId = ctx.session.userId
  pending : ctx'.session.pendingGoogle = ctx.session.pendingGoogle

namespace SameLogin

theorem refl (ctx : Context R) : SameLogin ctx ctx := ⟨rfl, rfl⟩

theorem trans (a b c : Context R) (hab : SameLogin a b) (hbc : SameLogin b c) : SameLogin a c :=
  ⟨hbc.userId.trans hab.userId, hbc.pending.trans hab.pending⟩

theorem of_keepsLogin {α : Type} {route : Route R α} (hroute : Keeps KeepsLogin route) :
    Keeps SameLogin route :=
  fun ctx => ⟨(hroute ctx).userId, (hroute ctx).pending⟩

end SameLogin

/-- What a request does to the user id and to the remembered profile of its session. -/
inductive LoginEffect (request : AppRequest R) (ctx ctx' : Context R) : Prop where
  | kept (hsame : SameLogin ctx ctx')
  | found (oauthState : Option String) (profile : GoogleProfile) (user : User)
      (hrequest : request = .auth (.googleCallback oauthState (.ok profile)))
      (hmatches : AuthService.StateMatches ctx.session oauthState)
      (hfind : profileUser ctx.db profile = some user)
      (huser : ctx'.session.userId = some user.id)
      (hpending : ctx'.session.pendingGoogle = ctx.session.pendingGoogle)
  | unknown (oauthState : Option String) (profile : GoogleProfile)
      (hrequest : request = .auth (.googleCallback oauthState (.ok profile)))
      (hmatches : AuthService.StateMatches ctx.session oauthState)
      (hfind : profileUser ctx.db profile = none)
      (huser : ctx'.session.userId = ctx.session.userId)
      (hpending : ctx'.session.pendingGoogle = some profile)
  | created (password : Option String) (fresh : FreshSecrets R) (profile : GoogleProfile)
      (user : User) (users : Table User)
      (hrequest : request = .auth (.setupMasterPassword password fresh))
      (hprofile : ctx.session.pendingGoogle = some profile)
      (hsub : user.googleSubId = profile.sub)
      (hinsert : ctx.db.users.insert? user = some users) (hdb : ctx'.db = { ctx.db with users })
      (huser : ctx'.session.userId = some user.id) (hpending : ctx'.session.pendingGoogle = none)
  | asserted (response : AuthenticationResponse) (password : Option String)
      (device : TrustedDevice)
      (hrequest : request = .auth (.webauthnAuthenticate response password))
      (hasserts : Asserts ctx response device)
      (huser : ctx'.session.userId = some device.userId)
      (hpending : ctx'.session.pendingGoogle = ctx.session.pendingGoogle)
  | ended (hrequest : request = .auth .logout) (huser : ctx'.session.userId = none)
      (hpending : ctx'.session.pendingGoogle = none)

section Routes

variable {sessionId : String} {now : Int} {ctx : Context R}

/-- A setup that succeeds makes a user of the profile that the session remembers. -/
theorem setupMasterPassword_created {password : Option String} {fresh : FreshSecrets R}
    {ctx' : Context R} {user : User}
    (hrun : AuthService.setupMasterPassword sessionId now password fresh ctx = (.ok user, ctx')) :
    ∃ profile, ctx.session.pendingGoogle = some profile ∧ user.googleSubId = profile.sub := by
  rw [AuthService.setupMasterPassword, state_bind, bind_ok_iff] at hrun
  obtain ⟨_, _, -, hrun⟩ := hrun
  obtain ⟨profile, _, hprofile, hrun⟩ := bind_ok_iff.mp hrun
  obtain ⟨new, _, -, hrun⟩ := bind_ok_iff.mp hrun
  obtain ⟨created, _, hcreate, hrun⟩ := bind_ok_iff.mp hrun
  obtain ⟨_, hquery, -⟩ := onDatabase_run.mp hcreate
  obtain ⟨rfl, -⟩ := (Model.create_ok_iff _).mp hquery
  obtain rfl := Except.ok.inj (Prod.mk.inj hrun).1
  exact ⟨profile, (expect_ok_iff.mp hprofile).1, rfl⟩

theorem setupMasterPassword_loginEffect (password : Option String) (fresh : FreshSecrets R) :
    LoginEffect (.auth (.setupMasterPassword password fresh)) ctx
      ((AuthRequest.setupMasterPassword password fresh).route sessionId now ctx).2 := by
  rcases hrun : (AuthRequest.setupMasterPassword password fresh).route sessionId now ctx
    with ⟨result, ctx'⟩
  rcases discard_run hrun with ⟨user, hsetup, -⟩ | ⟨e, hsetup, -⟩
  · obtain ⟨profile, hprofile, hsub⟩ := setupMasterPassword_created hsetup
    obtain ⟨-, -, -, users, -, -, hinsert, rfl⟩ := AuthService.setupMasterPassword_ok hsetup
    exact .created password fresh profile user users rfl hprofile hsub hinsert rfl rfl rfl
  · obtain rfl := AuthService.setupMasterPassword_error hsetup
    exact .kept (SameLogin.refl _)

theorem unlock_sameLogin {userId : String} {password : Option String} :
    Keeps SameLogin (AuthService.unlock (R := R) sessionId now userId password) := by
  intro ctx
  rcases hrun : AuthService.unlock sessionId now userId password ctx with ⟨e | ⟨⟩, ctx'⟩
  · rw [AuthService.unlock_error hrun]
    exact SameLogin.refl ctx
  · obtain ⟨user, accepted, -, -, -, rfl⟩ := AuthService.unlock_ok_iff.mp hrun
    exact ⟨rfl, rfl⟩

theorem changeMasterPassword_sameLogin {userId : String}
    {currentPassword newPassword : Option String} {fresh : FreshSecrets R} :
    Keeps SameLogin (AuthService.changeMasterPassword sessionId now userId currentPassword
      newPassword fresh) := by
  intro ctx
  rcases hrun : AuthService.changeMasterPassword sessionId now userId currentPassword newPassword
    fresh ctx with ⟨e | revoked, ctx'⟩
  · rw [AuthService.changeMasterPassword_error hrun]
    exact SameLogin.refl ctx
  · obtain ⟨user, current, new, db', -, -, -, rfl⟩ := AuthService.changeMasterPassword_ok hrun
    exact ⟨rfl, rfl⟩

theorem googleCallback_loginEffect (oauthState : Option String)
    (profile : Except Exception GoogleProfile) :
    LoginEffect (.auth (.googleCallback oauthState profile)) ctx
      ((AuthRequest.googleCallback oauthState profile).route sessionId now ctx).2 := by
  have hstate : ((AuthRequest.googleCallback oauthState profile).route sessionId now ctx).2 =
      (AuthService.handleGoogleCallback oauthState profile ctx).2 := by
    rw [AuthRequest.route, bind_pure_state, googleCallback_state]
  rw [hstate]
  rcases hrun : AuthService.handleGoogleCallback oauthState profile ctx with ⟨e | status, ctx'⟩
  · rcases AuthService.handleGoogleCallback_error hrun with rfl | rfl
    · exact .kept (SameLogin.refl _)
    · exact .kept ⟨rfl, rfl⟩
  · obtain ⟨hmatches, known, rfl, hbranch⟩ := AuthService.handleGoogleCallback_ok_iff.mp hrun
    rcases hbranch with ⟨user, hfind, -, rfl⟩ | ⟨hfind, -, rfl⟩
    · exact .found oauthState known user rfl hmatches hfind rfl rfl
    · exact .unknown oauthState known rfl hmatches hfind rfl rfl

theorem webauthnAuthenticate_loginEffect (response : AuthenticationResponse)
    (password : Option String) :
    LoginEffect (.auth (.webauthnAuthenticate response password)) ctx
      ((AuthRequest.webauthnAuthenticate response password).route sessionId now ctx).2 := by
  have hsteps := keepsLogin_steps (R := R) sessionId now
  show LoginEffect _ ctx (AuthController.webauthnAuthenticate sessionId now response password
    ctx).2
  unfold AuthController.webauthnAuthenticate
  have htaken := SameLogin.of_keepsLogin
    (hsteps.takeChallenge (.unauthorized "먼저 authenticate-options를 호출해주세요.")) ctx
  rcases hchallenge : AuthController.takeChallenge
    (.unauthorized "먼저 authenticate-options를 호출해주세요.") ctx with ⟨e | challenge, taken⟩
  · rw [hchallenge] at htaken
    rw [bind_of_error hchallenge]
    exact .kept htaken
  rw [hchallenge] at htaken
  rw [bind_of_ok hchallenge]
  obtain ⟨⟨hsome, hnonempty⟩, rfl⟩ := takeChallenge_ok_iff.mp hchallenge
  rcases hverify : onDatabase (WebAuthnService.verifyAuthentication now challenge response)
    (ctx.withSession fun session => { session with currentWebauthnChallenge := none })
    with ⟨e | device, asserted⟩
  · rw [bind_of_error hverify]
    obtain ⟨_, -, rfl⟩ := onDatabase_run.mp hverify
    exact .kept ⟨rfl, rfl⟩
  rw [bind_of_ok hverify, modify_bind]
  obtain ⟨_, hquery, rfl⟩ := onDatabase_run.mp hverify
  obtain ⟨hfind, counter, hanswer, rfl⟩ := WebAuthnService.verifyAuthentication_ok hquery
  have hasserts : Asserts ctx response device :=
    ⟨challenge, counter, hsome, hnonempty, hfind, hanswer⟩
  -- Whether the password was right or not, the session is the device user's by now.
  have hunlock : Keeps SameLogin
      (AuthService.unlock (R := R) sessionId now device.userId password) := unlock_sameLogin
  exact .asserted response password device rfl hasserts (hunlock _).userId (hunlock _).pending

theorem AuthRequest.loginEffect (request : AuthRequest R) (sessionId : String) (now : Int)
    (ctx : Context R) : LoginEffect (.auth request) ctx (request.route sessionId now ctx).2 := by
  have hsteps := keepsLogin_steps (R := R) sessionId now
  cases request with
  | googleCallback oauthState profile => exact googleCallback_loginEffect oauthState profile
  | setupMasterPassword password fresh => exact setupMasterPassword_loginEffect password fresh
  | webauthnAuthenticate response password =>
      exact webauthnAuthenticate_loginEffect response password
  | logout => exact .ended rfl rfl rfl
  | unlock password =>
      refine .kept (keeps_bind SameLogin.trans (SameLogin.of_keepsLogin hsteps.loggedInGuard) ?_ _)
      exact fun userId _ after _ => unlock_sameLogin after
  | changeMasterPassword currentPassword newPassword fresh =>
      refine .kept (keeps_bind SameLogin.trans ?_ (fun _ _ after _ => SameLogin.refl after) _)
      refine keeps_bind SameLogin.trans (SameLogin.of_keepsLogin hsteps.unlockedGuard) ?_
      exact fun admitted _ after _ => changeMasterPassword_sameLogin after
  | googleStart | lock | me | settings | updateAutoLockMinutes | webauthnDevices
  | webauthnRegisterOptions | webauthnRegister | webauthnAuthenticateOptions | webauthnRemove =>
      exact .kept (SameLogin.of_keepsLogin (hsteps.route rfl) ctx)

/-- No request about the user's own data changes the login. -/
theorem UserRequest.keepsLogin (unicode : UnicodeData) (request : UserRequest R)
    (sessionId : String) (now : Int) :
    Keeps KeepsLogin (request.route unicode sessionId now) :=
  request.route_kept (fun ctx _ => KeepsLogin.withSession ctx _ fun _ => ⟨rfl, rfl, .inl rfl⟩)
    (keepsLogin_steps sessionId now) unicode

theorem AppRequest.loginEffect (unicode : UnicodeData) (request : AppRequest R)
    (sessionId : String) (now : Int) (ctx : Context R) :
    LoginEffect request ctx (request.route unicode sessionId now ctx).2 := by
  cases request with
  | auth request => exact request.loginEffect sessionId now ctx
  | user request =>
      exact .kept (SameLogin.of_keepsLogin (request.keepsLogin unicode sessionId now) ctx)

end Routes

/-! ## One event -/

/-- The session is over: a logout, or it has expired. -/
def AppEvent.EndsSession (sessionId : String) : AppEvent R → Prop
  | .request other _ (.auth .logout) => other = sessionId
  | .sessionExpires other => other = sessionId
  | _ => False

/-- Nothing is left of a session that is over. -/
theorem session_of_endsSession (unicode : UnicodeData) (server : Server R) {event : AppEvent R}
    {sessionId : String} (hends : event.EndsSession sessionId) :
    (server.appStep unicode event).sessions sessionId = {} := by
  unfold AppEvent.EndsSession at hends
  split at hends
  · subst hends
    exact Server.save_session ..
  · subst hends
    exact Function.update_self ..
  · contradiction

/-- A session that is not over changes only with its own requests. -/
theorem session_appStep (unicode : UnicodeData) (server : Server R) {event : AppEvent R}
    {sessionId : String} (hlasts : ¬ event.EndsSession sessionId) :
    (server.appStep unicode event).sessions sessionId = server.sessions sessionId ∨
      ∃ now sent, event = .request sessionId now sent ∧
        (server.appStep unicode event).context sessionId =
          (sent.route unicode sessionId now (server.context sessionId)).2 := by
  cases event with
  | request other now sent =>
      by_cases hsame : sessionId = other
      · subst hsame
        exact .inr ⟨now, sent, rfl, Server.context_save ..⟩
      · exact .inl (Server.save_session_of_ne _ _ _ hsame)
  | handleScheduledScan providers faults freshId => exact .inl rfl
  | restart => exact .inl rfl
  | sessionExpires other => exact .inl (Function.update_of_ne (Ne.symm hlasts) ..)

/-- The event is the callback of a login that the session has started, for the profile. -/
def NamesProfile (server : Server R) (sessionId : String) (profile : GoogleProfile)
    (event : AppEvent R) : Prop :=
  ∃ now oauthState,
    event = .request sessionId now (.auth (.googleCallback oauthState (.ok profile))) ∧
      AuthService.StateMatches (server.sessions sessionId) oauthState

/-- The profile was named in the session, and the session has not ended since. -/
def NamedInSession (unicode : UnicodeData) (sessionId : String) (profile : GoogleProfile) :
    List (AppEvent R) → Prop :=
  Since (Server.appStep unicode) (Server.initial R)
    (fun before event => NamesProfile (Server.reached unicode before) sessionId profile event)
    (fun _ event => ¬ event.EndsSession sessionId)

/-- The event gives the session its user, after the events before: Google names the profile of
the user, or has named it before the setup of the account, or a device of the user asserts. -/
inductive IdentifiesUser (unicode : UnicodeData) (sessionId : String) (user : User)
    (before : List (AppEvent R)) (event : AppEvent R) : Prop where
  | callback (profile : GoogleProfile)
      (hnames : NamesProfile (Server.reached unicode before) sessionId profile event)
      (hsub : profile.sub = user.googleSubId)
  | setup (now : Int) (password : Option String) (fresh : FreshSecrets R)
      (profile : GoogleProfile)
      (hevent : event = .request sessionId now (.auth (.setupMasterPassword password fresh)))
      (hnamed : NamedInSession unicode sessionId profile before)
      (hsub : profile.sub = user.googleSubId)
  | device (now : Int) (response : AuthenticationResponse) (password : Option String)
      (device : TrustedDevice)
      (hevent : event = .request sessionId now (.auth (.webauthnAuthenticate response password)))
      (hasserts : Asserts ((Server.reached unicode before).context sessionId) response device)
      (huser : device.userId = user.id)

section Reached

variable {unicode : UnicodeData} {events : List (AppEvent R)} {sessionId : String}

/-- The profile that a session remembers was named in it. -/
theorem pendingGoogle_named {profile : GoogleProfile}
    (hpending : ((Server.reached unicode events).sessions sessionId).pendingGoogle =
      some profile) : NamedInSession unicode sessionId profile events := by
  refine since_of_run (fun server : Server R =>
    (server.sessions sessionId).pendingGoogle = some profile) (by simp [Server.initial]) ?_ hpending
  intro events event _ hafter
  have hlasts : ¬ event.EndsSession sessionId := fun hends => by
    rw [session_of_endsSession unicode _ hends] at hafter
    contradiction
  rcases session_appStep unicode (Server.reached unicode events) hlasts with
    hsame | ⟨now, sent, rfl, hroute⟩
  · exact .inr ⟨(congrArg SessionData.pendingGoogle hsame).symm.trans hafter, hlasts⟩
  have heffect := sent.loginEffect unicode sessionId now
    ((Server.reached unicode events).context sessionId)
  rw [← hroute] at heffect
  cases heffect with
  | kept hsame => exact .inr ⟨hsame.pending.symm.trans hafter, hlasts⟩
  | found oauthState other user hrequest hmatches hfind huser hkept =>
      exact .inr ⟨hkept.symm.trans hafter, hlasts⟩
  | unknown oauthState other hrequest hmatches hfind huser hnew =>
      obtain rfl := Option.some.inj (hnew.symm.trans hafter)
      exact .inl ⟨now, oauthState, by rw [hrequest], hmatches⟩
  | created password fresh other user users hrequest hprofile hsub hinsert hdb huser hnone =>
      exact absurd (hnone.symm.trans hafter) (by simp)
  | asserted response password device hrequest hasserts huser hkept =>
      exact .inr ⟨hkept.symm.trans hafter, hlasts⟩
  | ended hrequest huser hnone => exact absurd (hnone.symm.trans hafter) (by simp)

/-- An event that identifies the user of a session leaves the user stored. -/
theorem identifiesUser_of_userId {userId : String} {event : AppEvent R}
    (hnested : ∀ other ∈ events ++ [event], other.NoNestedWrite)
    (hlasts : ¬ event.EndsSession sessionId)
    (hafter : ((Server.reached unicode (events ++ [event])).sessions sessionId).userId =
      some userId) :
    (∃ user, (Server.reached unicode (events ++ [event])).db.users.find? userId = some user ∧
        IdentifiesUser unicode sessionId user events event) ∨
      ((Server.reached unicode events).sessions sessionId).userId = some userId := by
  obtain ⟨hbefore, hlast⟩ := List.forall_mem_append.mp hnested
  have husers : KeepsUsers (Server.reached unicode events).db
      (Server.reached unicode (events ++ [event])).db := by
    rw [Server.reached_concat]
    exact keepsUsers_run unicode _ hlast
  have hnext := Server.reached_concat unicode events event
  rcases session_appStep unicode (Server.reached unicode events) hlasts with
    hsame | ⟨now, sent, rfl, hroute⟩
  · rw [hnext, hsame] at hafter
    exact .inr hafter
  have heffect := sent.loginEffect unicode sessionId now
    ((Server.reached unicode events).context sessionId)
  rw [← hroute, ← hnext] at heffect
  cases heffect with
  | kept hsame => exact .inr (hsame.userId.symm.trans hafter)
  | found oauthState profile user hrequest hmatches hfind huser hkept =>
      obtain rfl := Option.some.inj (huser.symm.trans hafter)
      have hmem : user ∈ (Server.reached unicode events).db.users.rows :=
        List.mem_of_find?_eq_some hfind
      have hsub : user.googleSubId = profile.sub := by simpa using List.find?_some hfind
      obtain ⟨user', hstored, hsame⟩ := husers user.id user (Table.find?_eq_some_iff.mpr ⟨hmem, rfl⟩)
      refine .inl ⟨user', hstored, .callback profile ⟨now, oauthState, by rw [hrequest], hmatches⟩ ?_⟩
      rw [hsame, hsub]
  | unknown oauthState profile hrequest hmatches hfind huser hpending =>
      -- A profile that no user has only becomes pending: the session keeps the user it had.
      exact .inr (huser.symm.trans hafter)
  | created password fresh profile user users hrequest hprofile hsub hinsert hdb huser hnone =>
      obtain rfl := Option.some.inj (huser.symm.trans hafter)
      have hstored : (Server.reached unicode (events ++ [.request sessionId now sent])).db.users.find?
          user.id = some user := by
        rw [Server.context_db] at hdb
        rw [hdb]
        exact Table.find?_inserted hinsert
      refine .inl ⟨user, hstored, .setup now password fresh profile (by rw [hrequest]) ?_ hsub.symm⟩
      exact pendingGoogle_named hprofile
  | asserted response password device hrequest hasserts huser hkept =>
      obtain rfl := Option.some.inj (huser.symm.trans hafter)
      obtain ⟨challenge, counter, -, -, hfind, -⟩ := id hasserts
      -- The device names its owner by a foreign key, so the owner is stored.
      have hdevice := (referential_reached unicode hbefore).trustedDevices device
        (List.mem_of_find?_eq_some hfind)
      obtain ⟨owner, howner⟩ := Option.isSome_iff_exists.mp hdevice
      obtain ⟨user, hstored, -⟩ := husers device.userId owner howner
      refine .inl ⟨user, hstored, .device now response password device (by rw [hrequest]) hasserts ?_⟩
      exact (Table.find?_eq_some_iff.mp hstored).2.symm
  | ended hrequest huser hnone => exact absurd (huser.symm.trans hafter) (by simp)

/-- Only the id and the profile of the user count. -/
theorem IdentifiesUser.of_same {user user' : User} {before : List (AppEvent R)}
    {event : AppEvent R} (hid : user'.id = user.id) (hsub : user'.googleSubId = user.googleSubId)
    (hidentifies : IdentifiesUser unicode sessionId user before event) :
    IdentifiesUser unicode sessionId user' before event := by
  cases hidentifies with
  | callback profile hnames hprofile => exact .callback profile hnames (hprofile.trans hsub.symm)
  | setup now password fresh profile hevent hnamed hprofile =>
      exact .setup now password fresh profile hevent hnamed (hprofile.trans hsub.symm)
  | device now response password device hevent hasserts huser =>
      exact .device now response password device hevent hasserts (huser.trans hid.symm)

/-- The user of a session is stored, and was identified in that session, which has not ended
since. -/
theorem session_identified (unicode : UnicodeData)
    (hnested : ∀ event ∈ events, event.NoNestedWrite) (sessionId userId : String)
    (hsession : ((Server.reached unicode events).sessions sessionId).userId = some userId) :
    ∃ user, (Server.reached unicode events).db.users.find? userId = some user ∧
      Since (Server.appStep unicode) (Server.initial R) (IdentifiesUser unicode sessionId user)
        (fun _ event => ¬ event.EndsSession sessionId) events := by
  have hsince : Since (Server.appStep unicode) (Server.initial R)
      (fun before event => ∃ user,
        (Server.reached unicode (before ++ [event])).db.users.find? userId = some user ∧
          IdentifiesUser unicode sessionId user before event)
      (fun _ event => ¬ event.EndsSession sessionId) events := by
    refine since_of_run (fun server : Server R => (server.sessions sessionId).userId = some userId)
      (by simp [Server.initial]) ?_ hsession
    intro before event hbefore hafter
    have hlasts : ¬ event.EndsSession sessionId := fun hends => by
      rw [session_of_endsSession unicode _ hends] at hafter
      contradiction
    change ((Server.appStep unicode (Server.reached unicode before) event).sessions
      sessionId).userId = _ at hafter
    rw [← Server.reached_concat] at hafter
    have hplain : ∀ other ∈ before ++ [event], other.NoNestedWrite :=
      fun other hother => hnested other (hbefore.subset hother)
    rcases identifiesUser_of_userId hplain hlasts hafter with hidentified | hbefore
    · exact .inl hidentified
    · exact .inr ⟨hbefore, hlasts⟩
  obtain ⟨before, event, after, rfl, ⟨user, hstored, hidentifies⟩, hlasts⟩ := hsince
  have hlater : ∀ other ∈ after, other.NoNestedWrite := fun other hother =>
    hnested other (List.mem_append_right _ (List.mem_cons_of_mem _ hother))
  obtain ⟨user', hstored', hsub⟩ := keepsUsers_run unicode _ hlater userId user hstored
  rw [Server.reached, ← run_append, List.append_assoc, List.singleton_append] at hstored'
  refine ⟨user', hstored', before, event, after, rfl, hidentifies.of_same ?_ hsub, hlasts⟩
  exact (Table.find?_eq_some_iff.mp hstored').2.trans (Table.find?_eq_some_iff.mp hstored).2.symm

end Reached

/-- A request that the login guard lets through acts for a stored user, whom the session has
identified: Google named the profile in this session, or a device of the user asserted in it. -/
theorem loggedInGuard_identified (unicode : UnicodeData) (events : List (AppEvent R))
    (hnested : ∀ event ∈ events, event.NoNestedWrite) (sessionId userId : String)
    (ctx : Context R)
    (hguard : loggedInGuard ((Server.reached unicode events).context sessionId) =
      (.ok userId, ctx)) :
    ∃ user, (Server.reached unicode events).db.users.find? userId = some user ∧
      Since (Server.appStep unicode) (Server.initial R) (IdentifiesUser unicode sessionId user)
        (fun _ event => ¬ event.EndsSession sessionId) events :=
  session_identified unicode hnested sessionId userId
    (SessionData.userId_of_loggedInAs (loggedInGuard_ok_iff.mp hguard).1)

/-! ## A first login -/

namespace Signup

def fresh : FreshSecrets symbolicRuntime := ⟨"h", "k", "u", fun id => id⟩

/-- Google names an unknown profile, and the session sets up the account. -/
def events : List (AppEvent symbolicRuntime) :=
  [.request "sid" 0 (.auth (.googleStart "state")),
    .request "sid" 0 (.auth (.googleCallback (some "state") (.ok ⟨"sub", "u@example.com"⟩))),
    .request "sid" 0 (.auth (.setupMasterPassword (some "password") fresh))]

/-- The session as the next request finds it. -/
def context : Context symbolicRuntime := (Server.reached asciiData events).context "sid"

theorem events_noNestedWrite : ∀ event ∈ events, event.NoNestedWrite := by
  simp [events, AppEvent.NoNestedWrite, AppRequest.NoNestedWrite]

theorem loggedInGuard_context : loggedInGuard context = (.ok "u", context) :=
  loggedInGuard_ok_iff.mpr ⟨by decide +kernel, rfl⟩

end Signup

theorem loggedInGuard_identified_signup :
    ∃ user, (Server.reached asciiData Signup.events).db.users.find? "u" = some user ∧
      Since (Server.appStep asciiData) (Server.initial symbolicRuntime)
        (IdentifiesUser asciiData "sid" user)
        (fun _ event => ¬ event.EndsSession "sid") Signup.events :=
  loggedInGuard_identified asciiData Signup.events Signup.events_noNestedWrite "sid" "u"
    Signup.context Signup.loggedInGuard_context

end MyAccountController
