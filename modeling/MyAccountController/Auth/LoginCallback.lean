import MyAccountController.Auth.FailedRequests
import MyAccountController.Auth.LockedSessions
import Mathlib.Data.Finite.Defs
import Mathlib.Data.Set.Finite.Basic

/-! # Whose session the app login leaves

The callback of the app login writes the user id and lowers the flag when the
profile has an account, and only remembers the profile when it has none. In the
second branch a session that is still logged in stays so, and the setup of the
new account is then refused.
-/

namespace MyAccountController

open Foundation Handler

variable {R : Runtime}

/-! ## What a callback promises -/

/-- The user row of the profile, as the callback finds it. -/
def profileUser (db : Database) (profile : GoogleProfile) : Option User :=
  db.users.rows.find? (·.googleSubId = profile.sub)

/-- A new login of the session: a callback of the app login, or an assertion of
a device whose user the session is not logged in as. -/
def StartsLogin (server : Server R) (call : ServedCall R) : Prop :=
  match call.request with
  | .auth (.googleCallback oauthState (.ok _)) =>
      AuthService.StateMatches (server.sessions call.sessionId) oauthState
  | .auth (.webauthnAuthenticate response _) =>
      ∃ device, Asserts (server.context call.sessionId) response device ∧
        (server.sessions call.sessionId).loggedInAs ≠ some device.userId
  | _ => False

/-- The call succeeds and gives a master password of the profile's user: of the
one the callback found, else of the one that a setup for the profile creates. -/
def GivesPassword (known : Option String) (profile : GoogleProfile) (server : Server R)
    (call : ServedCall R) : Prop :=
  ∃ request, call.request = .auth request ∧
    (request.route call.sessionId call.now (server.context call.sessionId)).1 = .ok () ∧
    ∃ userId key, Verifies (server.context call.sessionId) userId key request ∧
      (known = some userId ∨ known = none ∧
        (server.sessions call.sessionId).pendingGoogle = some profile ∧
        ∃ password fresh, request = .setupMasterPassword password fresh)

/-- Whenever the guard admits the session after some calls, one of them was a
call of this session that gave the password or started a new login. -/
def LockedUntilPassword (server : Server R) (sessionId : String) (known : Option String)
    (profile : GoogleProfile) : Prop :=
  ∀ calls now userId key, Admits (run Server.servedStep server calls) sessionId now userId key →
    ∃ before call after, calls = before ++ call :: after ∧ call.sessionId = sessionId ∧
      (GivesPassword known profile (run Server.servedStep server before) call ∨
        StartsLogin (run Server.servedStep server before) call)

/-- A setup with a password that is long enough creates the user of the profile
and leaves the session logged in and unlocked as that user. -/
def SetupCreatesUser (ctx : Context R) (sessionId : String) (profile : GoogleProfile) : Prop :=
  ∀ now password new (fresh : FreshSecrets R), AuthService.AcceptedPassword password new →
    fresh.userId ≠ "" → ctx.db.users.find? fresh.userId = none →
    ∃ user ctx', AuthService.setupMasterPassword sessionId now password fresh ctx =
        (.ok user, ctx') ∧
      user.googleSubId = profile.sub ∧ user ∈ ctx'.db.users.rows ∧
      ∃ key after, unlockedGuard sessionId now ctx' = (.ok (user.id, key), after)

/-- What a callback that succeeds promises for the profile. -/
structure CallbackPromise (server : Server R) (sessionId : String) (profile : GoogleProfile)
    (status : AuthService.CallbackStatus) (ctx : Context R) : Prop where
  noOtherUser : ∀ user ∈ ctx.db.users.rows, ctx.session.loggedInAs = some user.id →
    user.googleSubId = profile.sub
  locked : LockedUntilPassword (server.save sessionId ctx) sessionId
    ((profileUser server.db profile).map User.id) profile
  setup : ∀ email, status = .needs_master_password_setup email →
    SetupCreatesUser ctx sessionId profile

def CallbackSafe (server : Server R) (sessionId : String) (oauthState : Option String)
    (profile : GoogleProfile) : Prop :=
  ∀ status ctx, AuthService.handleGoogleCallback oauthState (.ok profile)
      (server.context sessionId) = (.ok status, ctx) →
    CallbackPromise server sessionId profile status ctx

/-! ## A session that waits for its password -/

/-- The session is locked, is logged in as nobody but the user found, and
remembers no profile but one without a user. -/
structure AwaitsPassword (known : Option String) (profile : GoogleProfile)
    (session : SessionData) : Prop where
  locked : session.isUnlocked = true → session.loggedInAs = none
  user : ∀ userId, session.loggedInAs = some userId → known = some userId
  pending : session.loggedInAs = none → ∀ pending, session.pendingGoogle = some pending →
    known = none ∧ pending = profile

/-- The user id and the pending profile stay, and no flag is raised. -/
structure KeepsLogin (ctx ctx' : Context R) : Prop where
  userId : ctx'.session.userId = ctx.session.userId
  pending : ctx'.session.pendingGoogle = ctx.session.pendingGoogle
  unlocked : ctx'.session.isUnlocked = true → ctx.session.isUnlocked = true

namespace KeepsLogin

theorem refl (ctx : Context R) : KeepsLogin ctx ctx := ⟨rfl, rfl, id⟩

theorem trans (a b c : Context R) (hab : KeepsLogin a b) (hbc : KeepsLogin b c) :
    KeepsLogin a c :=
  ⟨hbc.userId.trans hab.userId, hbc.pending.trans hab.pending,
    fun h => hab.unlocked (hbc.unlocked h)⟩

theorem of_onlyConsumes {ctx ctx' : Context R} (hconsumes : OnlyConsumes ctx ctx') :
    KeepsLogin ctx ctx' := by
  refine ⟨hconsumes.userId, hconsumes.pendingGoogle, fun hunlocked => ?_⟩
  rwa [SessionData.isUnlocked, hconsumes.unlocked] at hunlocked

/-- A write to the session that keeps the login and at most lowers the flag. -/
theorem withSession (ctx : Context R) (f : SessionData → SessionData)
    (hf : ∀ session, (f session).userId = session.userId ∧
      (f session).pendingGoogle = session.pendingGoogle ∧
      ((f session).unlocked = session.unlocked ∨ (f session).unlocked = some false)) :
    KeepsLogin ctx (ctx.withSession f) := by
  obtain ⟨huserId, hpending, hflag⟩ := hf ctx.session
  refine ⟨huserId, hpending, fun hunlocked => ?_⟩
  change (f ctx.session).isUnlocked = true at hunlocked
  rcases hflag with hsame | hlowered
  · rwa [SessionData.isUnlocked, hsame] at hunlocked
  · exact locked_isUnlocked hlowered hunlocked

theorem lowerFlag (ctx : Context R) :
    KeepsLogin ctx (ctx.withSession fun session => { session with unlocked := some false }) :=
  KeepsLogin.withSession ctx _ fun _ => ⟨rfl, rfl, .inr rfl⟩

end KeepsLogin

section Steps

variable (sessionId : String) (now : Int)

/-- What the guard does to the session is at most to lower its flag. -/
theorem keepsLogin_unlockedGuard : Keeps KeepsLogin (unlockedGuard (R := R) sessionId now) := by
  unfold unlockedGuard
  apply keeps_bind KeepsLogin.trans
  · exact Keeps.of_state_eq KeepsLogin.refl loggedInGuard_state
  intro userId _ ctx _
  rw [state_bind, modify_bind]
  have hrefused : ∀ {α : Type}, Keeps KeepsLogin (refuseLocked (R := R) (α := α)) :=
    KeepsLogin.lowerFlag
  have htouched : KeepsLogin ctx (ctx.withKeys (ctx.keys.touch sessionId now).2) :=
    ⟨rfl, rfl, id⟩
  apply KeepsLogin.trans _ _ _ htouched
  cases (ctx.keys.touch sessionId now).1 with
  | none => exact hrefused _
  | some key =>
      cases ctx.session.isUnlocked with
      | true => exact KeepsLogin.refl _
      | false => exact hrefused _

theorem keepsLogin_checkStillUnlocked :
    Keeps KeepsLogin (AuthService.checkStillUnlocked (R := R) sessionId now) := by
  intro ctx
  rw [AuthService.checkStillUnlocked, state_bind]
  cases ctx.session.isUnlocked with
  | false => exact KeepsLogin.refl ctx
  | true =>
      have htouched : KeepsLogin ctx (ctx.withKeys (ctx.keys.touch sessionId now).2) :=
        ⟨rfl, rfl, id⟩
      apply KeepsLogin.trans _ _ _ htouched
      cases (ctx.keys.touch sessionId now).1.isSome with
      | true => exact KeepsLogin.refl _
      | false => exact KeepsLogin.lowerFlag _

theorem keepsLogin_steps : KeptBySteps (R := R) sessionId now KeepsLogin where
  refl := KeepsLogin.refl
  trans := KeepsLogin.trans
  withDb _ _ := ⟨rfl, rfl, id⟩
  unlockedGuard := keepsLogin_unlockedGuard sessionId now
  oauthState ctx _ := KeepsLogin.withSession ctx _ fun _ => ⟨rfl, rfl, .inl rfl⟩
  challenge ctx _ := KeepsLogin.withSession ctx _ fun _ => ⟨rfl, rfl, .inl rfl⟩
  checkStillUnlocked := keepsLogin_checkStillUnlocked sessionId now
  updateAutoLockMinutes _ _ := ⟨rfl, rfl, id⟩
  lock ctx := KeepsLogin.trans ctx (ctx.withKeys (ctx.keys.delete sessionId)) _ ⟨rfl, rfl, id⟩
    (KeepsLogin.lowerFlag _)

end Steps

theorem AwaitsPassword.of_keepsLogin {known : Option String} {profile : GoogleProfile}
    {ctx ctx' : Context R} (hawaits : AwaitsPassword known profile ctx.session)
    (hkeeps : KeepsLogin ctx ctx') : AwaitsPassword known profile ctx'.session := by
  have hlogged : ctx'.session.loggedInAs = ctx.session.loggedInAs := by
    rw [SessionData.loggedInAs, hkeeps.userId, SessionData.loggedInAs]
  constructor
  case locked =>
    intro hunlocked
    rw [hlogged]
    exact hawaits.locked (hkeeps.unlocked hunlocked)
  case user =>
    intro userId huser
    rw [hlogged] at huser
    exact hawaits.user userId huser
  case pending =>
    intro hnone pending hpending
    rw [hlogged] at hnone
    rw [hkeeps.pending] at hpending
    exact hawaits.pending hnone pending hpending

/-- The empty session waits for any password. -/
theorem awaitsPassword_empty (known : Option String) (profile : GoogleProfile) :
    AwaitsPassword known profile {} :=
  ⟨fun _ => rfl, fun _ h => by contradiction, fun _ _ h => by contradiction⟩

/-! ## One call -/

section Requests

variable {known : Option String} {profile : GoogleProfile} {server : Server R}

/-- A setup answers only for the pending profile of its session. -/
theorem AuthService.setupMasterPassword_pending {sessionId : String} {now : Int}
    {password : Option String} {fresh : FreshSecrets R} {ctx ctx' : Context R} {user : User}
    (hrun : AuthService.setupMasterPassword sessionId now password fresh ctx = (.ok user, ctx')) :
    ∃ pending, ctx.session.pendingGoogle = some pending := by
  rw [AuthService.setupMasterPassword, state_bind, bind_ok_iff] at hrun
  obtain ⟨_, _, -, hrun⟩ := hrun
  obtain ⟨pending, _, hpending, -⟩ := bind_ok_iff.mp hrun
  exact ⟨pending, (expect_ok_iff.mp hpending).1⟩

/-- A request that succeeds in giving a password to a waiting session gives that
of the profile's user. -/
theorem verifies_known {ctx : Context R} {request : AuthRequest R} {userId : String} {key : R.Key}
    (hawaits : AwaitsPassword known profile ctx.session)
    (hdevice : ∀ response password device, request = .webauthnAuthenticate response password →
      Asserts ctx response device → ctx.session.loggedInAs = some device.userId)
    (hsetup : ∀ password fresh, request ≠ .setupMasterPassword password fresh)
    (hverifies : Verifies ctx userId key request) : known = some userId := by
  cases request with
  | setupMasterPassword password fresh => exact absurd rfl (hsetup password fresh)
  | unlock password =>
      obtain ⟨user, current, hlogged, -⟩ := hverifies
      exact hawaits.user userId hlogged
  | changeMasterPassword currentPassword newPassword fresh =>
      obtain ⟨user, current, new, hlogged, -⟩ := hverifies
      exact hawaits.user userId hlogged
  | webauthnAuthenticate response password =>
      obtain ⟨device, user, current, hasserts, rfl, -⟩ := hverifies
      exact hawaits.user _ (hdevice response password device rfl hasserts)
  | _ => exact hverifies.elim

/-- A password request that fails keeps the login, unless it starts a new one. -/
theorem keepsLogin_of_error {sessionId : String} {now : Int} {request : AuthRequest R}
    {ctx ctx' : Context R} {e : Exception} (hsets : request.setsKey = true)
    (hdevice : ∀ response password device, request = .webauthnAuthenticate response password →
      Asserts ctx response device → ctx.session.loggedInAs = some device.userId)
    (hrun : request.route sessionId now ctx = (.error e, ctx')) : KeepsLogin ctx ctx' := by
  have hsteps := keepsLogin_steps (R := R) sessionId now
  cases request with
  | setupMasterPassword password fresh =>
      rcases discard_run hrun with ⟨_, -, hok⟩ | ⟨_, hsetup, -⟩
      · contradiction
      · rw [AuthService.setupMasterPassword_error hsetup]
        exact KeepsLogin.refl ctx
  | unlock password =>
      change AuthController.unlock sessionId now password ctx = _ at hrun
      rcases bind_error_iff.mp hrun with hguard | ⟨userId, _, hguard, hunlock⟩
      · have hkeeps := hsteps.loggedInGuard ctx
        rwa [hguard] at hkeeps
      · obtain ⟨-, rfl⟩ := loggedInGuard_ok_iff.mp hguard
        rw [AuthService.unlock_error hunlock]
        exact KeepsLogin.refl ctx
  | changeMasterPassword currentPassword newPassword fresh =>
      rcases discard_run hrun with ⟨_, -, hok⟩ | ⟨_, hchange, -⟩
      · contradiction
      have hkeeps := hsteps.unlockedGuard ctx
      rcases bind_error_iff.mp hchange with hguard | ⟨admitted, _, hguard, hchange⟩
      · rwa [hguard] at hkeeps
      · rw [hguard] at hkeeps
        rwa [AuthService.changeMasterPassword_error hchange]
  | webauthnAuthenticate response password =>
      have hfails : FailsWithoutTrace sessionId now
          (.webauthnAuthenticate (fun _ => none) response password) ctx := by
        rw [webauthnAuthenticate_failsWithoutTrace_iff]
        intro device hasserts _ hother
        have hlogged := hdevice response password device rfl hasserts
        exact absurd (SessionData.userId_of_loggedInAs hlogged) hother
      refine KeepsLogin.of_onlyConsumes (hfails e ctx' ?_)
      rw [(AuthHandler.run_of_no_failure sessionId now).2.2.2.1 response password]
      exact hrun
  | _ => contradiction

/-- A call of a waiting session that neither gives its password nor starts a
login leaves the session waiting. -/
theorem awaitsPassword_own {call : ServedCall R}
    (hawaits : AwaitsPassword known profile (server.sessions call.sessionId))
    (hgives : ¬ GivesPassword known profile server call) (hstarts : ¬ StartsLogin server call) :
    AwaitsPassword known profile (call.request.route call.sessionId call.now
      (server.context call.sessionId)).2.session := by
  rcases call with ⟨sessionId, now, request⟩
  have hsteps := keepsLogin_steps (R := R) sessionId now
  have hkeeps : ∀ {ctx' : Context R}, KeepsLogin (server.context sessionId) ctx' →
      AwaitsPassword known profile ctx'.session :=
    fun h => AwaitsPassword.of_keepsLogin hawaits h
  cases request with
  | guarded service => exact hkeeps (hsteps.behind_guard (fun _ => hsteps.onDatabase _) _)
  | auth request =>
      by_cases hquiet : request.quiet = true
      · exact hkeeps (hsteps.route hquiet _)
      by_cases hsets : request.setsKey = true
      · have hdevice : ∀ response password device,
            request = .webauthnAuthenticate response password →
            Asserts (server.context sessionId) response device →
            (server.sessions sessionId).loggedInAs = some device.userId := by
          rintro response password device rfl hasserts
          by_contra hother
          exact hstarts ⟨device, hasserts, hother⟩
        rcases hrun : request.route sessionId now (server.context sessionId) with ⟨e | ⟨⟩, ctx'⟩
        · have herror := hkeeps (keepsLogin_of_error hsets hdevice hrun)
          simpa only [ServedRequest.route, hrun] using herror
        · -- A request that succeeded has verified the password.
          refine absurd ?_ hgives
          have heffect := route_effect request hrun
          cases heffect with
          | weakened hnot _ => exact absurd rfl (hnot hsets)
          | @established _ userId key hverifies _ =>
              refine ⟨request, rfl, by rw [hrun], userId, key, hverifies, ?_⟩
              by_cases hsetup : ∃ password fresh, request = .setupMasterPassword password fresh
              · obtain ⟨password, fresh, rfl⟩ := hsetup
                rcases discard_run hrun with ⟨user, hok, -⟩ | ⟨_, -, herror⟩
                · obtain ⟨pending, hpending⟩ := AuthService.setupMasterPassword_pending hok
                  have hnone := (AuthService.setupMasterPassword_ok hok).1
                  obtain ⟨hknown, rfl⟩ := hawaits.pending hnone pending hpending
                  exact .inr ⟨hknown, hpending, password, fresh, rfl⟩
                · contradiction
              · refine .inl (verifies_known hawaits hdevice ?_ hverifies)
                exact fun password fresh heq => hsetup ⟨password, fresh, heq⟩
      · cases request with
        | googleCallback oauthState answer =>
            change AwaitsPassword known profile ((AuthController.googleCallback oauthState answer
              >>= fun _ => pure ()) (server.context sessionId)).2.session
            rw [bind_pure_state, googleCallback_state]
            rcases hrun : AuthService.handleGoogleCallback oauthState answer
              (server.context sessionId) with ⟨e | status, ctx'⟩
            · rcases AuthService.handleGoogleCallback_error hrun with rfl | rfl
              · exact hawaits
              · exact hkeeps (KeepsLogin.of_onlyConsumes (OnlyConsumes.forgetState _))
            · obtain ⟨hmatches, other, rfl, -⟩ := AuthService.handleGoogleCallback_ok_iff.mp hrun
              exact absurd hmatches hstarts
        | logout => exact awaitsPassword_empty known profile
        | _ => exact absurd rfl (by first | exact hquiet | exact hsets)

theorem awaitsPassword_step {sessionId : String} {call : ServedCall R}
    (hawaits : AwaitsPassword known profile (server.sessions sessionId))
    (hquiet : call.sessionId = sessionId →
      ¬ (GivesPassword known profile server call ∨ StartsLogin server call)) :
    AwaitsPassword known profile ((server.servedStep call).sessions sessionId) := by
  by_cases hsession : sessionId = call.sessionId
  · subst hsession
    obtain ⟨hgives, hstarts⟩ := not_or.mp (hquiet rfl)
    have hstep : (server.servedStep call).sessions call.sessionId =
        (call.request.route call.sessionId call.now (server.context call.sessionId)).2.session :=
      server.save_session call.sessionId _
    rw [hstep]
    exact awaitsPassword_own hawaits hgives hstarts
  · have hstep : (server.servedStep call).sessions sessionId = server.sessions sessionId :=
      server.save_session_of_ne call.sessionId _ hsession
    rwa [hstep]

/-- A waiting session is locked until its password is given or a login starts. -/
theorem lockedUntilPassword {sessionId : String}
    (hawaits : AwaitsPassword known profile (server.sessions sessionId)) :
    LockedUntilPassword server sessionId known profile := by
  intro calls now userId key hadmits
  apply exists_event_of_run
    (fun server => ¬ AwaitsPassword known profile (server.sessions sessionId))
    (fun server call => call.sessionId = sessionId ∧
      (GivesPassword known profile server call ∨ StartsLogin server call))
    (not_not.mpr hawaits)
  · intro calls call hends
    by_contra hneither
    obtain ⟨hbefore, hquiet⟩ := not_or.mp hneither
    exact hends (awaitsPassword_step (not_not.mp hbefore)
      fun hsession hcall => hquiet ⟨hsession, hcall⟩)
  · intro hstays
    obtain ⟨hlogged, hunlocked, -⟩ := admits_iff.mp hadmits
    exact absurd (hlogged.symm.trans (hstays.locked hunlocked)) (by simp)

end Requests

/-! ## When the promise is kept -/

/-- The guard admits a session right after its key was stored. -/
theorem unlockedGuard_stored {ctx : Context R} {sessionId userId : String} {now minutes : Int}
    {key : R.Key} (hlogged : ctx.session.loggedInAs = some userId) (hlimit : 0 ≤ minutes) :
    ∃ after, unlockedGuard sessionId now (AuthService.stored ctx sessionId now key minutes) =
      (.ok (userId, key), after) := by
  have htouch : ((AuthService.stored ctx sessionId now key minutes).keys.touch sessionId now).1 =
      some key := by
    have hentry : (AuthService.stored ctx sessionId now key minutes).keys sessionId =
        some ⟨key, minutes, now⟩ := UnlockKeyStore.set_self ..
    exact UnlockKeyStore.touch_at_last_activity _ sessionId hentry hlimit
  exact ⟨_, unlockedGuard_ok_iff.mpr ⟨hlogged, rfl, htouch, rfl⟩⟩

/-- A session that is not logged in and remembers the profile can set it up. -/
theorem setupCreatesUser_of_pending {sessionId : String} {profile : GoogleProfile}
    {ctx : Context R} (hlogged : ctx.session.loggedInAs = none)
    (hpending : ctx.session.pendingGoogle = some profile)
    (hnew : profileUser ctx.db profile = none) : SetupCreatesUser ctx sessionId profile := by
  rintro now password new fresh ⟨rfl, hlength⟩ hid hfree
  have hfreeRow : ∀ other ∈ ctx.db.users.rows,
      ¬ Clash other (AuthService.newUser (R := R) profile new fresh now) := by
    rintro other hother (hkey | hsub)
    · exact Table.find?_eq_none_iff.mp hfree other hother hkey
    · have hsubs := List.find?_eq_none.mp hnew other hother
      exact hsubs (by simpa [AuthService.newUser] using hsub)
  obtain ⟨users, hinsert⟩ : ∃ users, ctx.db.users.insert?
      (AuthService.newUser (R := R) profile new fresh now) = some users := by
    refine Option.ne_none_iff_exists'.mp fun hnone => ?_
    obtain ⟨other, hother, hclash⟩ := Table.insert?_eq_none_iff.mp hnone
    exact hfreeRow other hother hclash
  have hcreate : (onDatabase (Prisma.user.create (AuthService.newUser profile new fresh now)) :
      Route R User) ctx = (.ok (AuthService.newUser profile new fresh now), _) :=
    onDatabase_run.mpr ⟨_, (Model.create_ok_iff _).mpr ⟨rfl, rfl, users, hinsert, rfl⟩, rfl⟩
  have haccepted : AuthService.newMasterPassword (some new) ctx = (.ok new, ctx) :=
    AuthService.newMasterPassword_ok_iff.mpr ⟨rfl, hlength, rfl⟩
  have hrun : AuthService.setupMasterPassword sessionId now (some new) fresh ctx =
      (.ok (AuthService.newUser profile new fresh now), AuthService.stored
        ((ctx.withDb (Prisma.user.withTable ctx.db users)).withSession fun session =>
          { session with pendingGoogle := none, userId := some fresh.userId }) sessionId now
        (R.deriveEncryptionKey new fresh.kdfSalt) 15) := by
    rw [AuthService.setupMasterPassword, state_bind, ensure_bind, if_pos hlogged, hpending,
      expect_some_bind, bind_of_ok haccepted, bind_of_ok hcreate, modify_bind]
    rfl
  refine ⟨_, _, hrun, rfl, ?_, R.deriveEncryptionKey new fresh.kdfSalt, ?_⟩
  · exact (Table.find?_eq_some_iff.mp (Table.find?_inserted hinsert)).1
  · refine unlockedGuard_stored ?_ (by decide)
    simp [SessionData.loggedInAs, AuthService.newUser, hid]

/-- There is an id that no user has yet. -/
theorem exists_free_id (db : Database) : ∃ id, id ≠ "" ∧ db.users.find? id = none := by
  have hinfinite : Infinite String :=
    Infinite.of_injective (fun n => String.ofList (List.replicate n 'a')) fun m n heq => by
      have hlist := congrArg String.toList heq
      simpa using congrArg List.length hlist
  obtain ⟨id, hid⟩ := Infinite.exists_notMem_finset ("" :: db.users.rows.map User.id).toFinset
  simp only [List.mem_toFinset, List.mem_cons, not_or] at hid
  refine ⟨id, hid.1, Table.find?_eq_none_iff.mpr fun row hrow hkey => hid.2 ?_⟩
  exact List.mem_map.mpr ⟨row, hrow, hkey⟩

/-- A callback keeps its promise exactly when a profile without a user comes
back to a session that is not logged in. -/
theorem callbackSafe_iff [Nonempty R.Iv] (server : Server R) (sessionId : String)
    (oauthState : Option String) (profile : GoogleProfile)
    (hids : ∀ user ∈ server.db.users.rows, user.id ≠ "") :
    CallbackSafe server sessionId oauthState profile ↔
      (AuthService.StateMatches (server.sessions sessionId) oauthState →
        profileUser server.db profile = none →
        (server.sessions sessionId).loggedInAs = none) := by
  constructor
  · intro hsafe hmatches hnew
    have hrun : AuthService.handleGoogleCallback oauthState (.ok profile)
        (server.context sessionId) = (.ok (.needs_master_password_setup profile.email), _) :=
      AuthService.handleGoogleCallback_ok_iff.mpr
        ⟨hmatches, profile, rfl, .inr ⟨hnew, rfl, rfl⟩⟩
    -- A setup that succeeds has found the session not logged in.
    obtain ⟨id, hid, hfree⟩ := exists_free_id server.db
    obtain ⟨iv⟩ : Nonempty R.Iv := inferInstance
    obtain ⟨user, ctx', hsetup, -⟩ := (hsafe _ _ hrun).setup profile.email rfl 0
      (some "password") "password" ⟨"", "", id, fun _ => iv⟩ ⟨rfl, by decide⟩ hid hfree
    exact (AuthService.setupMasterPassword_ok hsetup).1
  · intro hcondition status ctx hrun
    obtain ⟨hmatches, _, hprofile, hbranch⟩ := AuthService.handleGoogleCallback_ok_iff.mp hrun
    obtain rfl := Except.ok.inj hprofile
    rcases hbranch with ⟨user, hfind, rfl, rfl⟩ | ⟨hfind, rfl, rfl⟩
    · have hmem : user ∈ server.db.users.rows := List.mem_of_find?_eq_some hfind
      have hsub : user.googleSubId = profile.sub := by simpa using List.find?_some hfind
      have hlogged : (AuthService.loggedInSession user (server.sessions sessionId)).loggedInAs =
          some user.id := by
        simp [AuthService.loggedInSession, SessionData.loggedInAs, hids user hmem]
      refine ⟨?_, ?_, fun _ h => by contradiction⟩
      · intro other hother hid
        have hsame := Option.some.inj (hlogged.symm.trans hid)
        rw [← server.db.users.eq_of_key_eq hmem hother hsame]
        exact hsub
      · apply lockedUntilPassword
        rw [Server.save_session]
        refine ⟨fun h => by contradiction, ?_, ?_⟩
        · intro userId huser
          obtain rfl := Option.some.inj (hlogged.symm.trans huser)
          exact congrArg (Option.map User.id) hfind
        · intro hnone
          exact absurd (hlogged.symm.trans hnone) (by simp)
    · have hlogged : (AuthService.pendingSession profile (server.sessions sessionId)).loggedInAs =
          none := hcondition hmatches hfind
      refine ⟨?_, ?_, fun _ _ => setupCreatesUser_of_pending hlogged rfl hfind⟩
      · intro other _ hid
        exact absurd (hlogged.symm.trans hid) (by simp)
      · apply lockedUntilPassword
        rw [Server.save_session]
        refine ⟨fun _ => hlogged, ?_, ?_⟩
        · intro userId huser
          exact absurd (hlogged.symm.trans huser) (by simp)
        · intro _ pending hpending
          refine ⟨congrArg (Option.map User.id) hfind, ?_⟩
          exact (Option.some.inj hpending).symm

/-- A session that is logged in and unlocked, with the state of a new callback. -/
def SecondLogin.server : Server symbolicRuntime where
  db := Takeover.server.db
  keys := UnlockKeyStore.empty
  sessions := fun _ => { userId := some "u", unlocked := some true, oauthState := some "state" }

/-- The callback of a profile without a user leaves the session of the first one. -/
theorem callbackSafe_fails : ¬ CallbackSafe SecondLogin.server "sid" (some "state")
    ⟨"sub-new", "new@example.com"⟩ := by
  intro hsafe
  have hmatches : AuthService.StateMatches (SecondLogin.server.sessions "sid") (some "state") :=
    by decide
  have hnew : profileUser SecondLogin.server.db ⟨"sub-new", "new@example.com"⟩ = none := by
    decide +kernel
  have hrun : AuthService.handleGoogleCallback (some "state")
      (.ok ⟨"sub-new", "new@example.com"⟩) (SecondLogin.server.context "sid") = (.ok _, _) :=
    AuthService.handleGoogleCallback_ok_iff.mpr ⟨hmatches, _, rfl, .inr ⟨hnew, rfl, rfl⟩⟩
  have hother := (hsafe _ _ hrun).noOtherUser Takeover.user (List.mem_cons_self ..) rfl
  exact absurd hother (by decide)

/-- The same callback in a session that is not logged in. -/
theorem callbackSafe_iff_example : CallbackSafe
    { SecondLogin.server with sessions := fun _ => { oauthState := some "state" } } "sid"
    (some "state") ⟨"sub-new", "new@example.com"⟩ := by
  have : Nonempty symbolicRuntime.Iv := ⟨""⟩
  refine (callbackSafe_iff _ "sid" _ _ ?_).mpr fun _ _ => rfl
  have hids : ∀ user ∈ [Takeover.user, Takeover.owner], user.id ≠ "" := by decide
  exact hids

end MyAccountController
