import MyAccountController.Web.PageGate

/-! # The login page of the web application

A login is a Google round trip, a password on the step that the callback has named, and the
dashboard behind the gate. Other sessions go on in between. The login ends on the dashboard
exactly when Google names a user whose password at the time of the submission it is, or a new
profile that may sign up.
-/

namespace MyAccountController

open Foundation Handler AuthService

variable {R : Runtime}

/-! ## The page -/

namespace LoginPage

/-- `handlePasswordSubmit` posts to the endpoint of the step. -/
def passwordRequest (step password : String) (fresh : FreshSecrets R) : AuthRequest R :=
  if step = "setup" then .setupMasterPassword (some password) fresh else .unlock (some password)

/-- The form is submitted: a password is typed, and the setup is confirmed and long enough. -/
def canSubmit (step password : String) (confirmedNoRecovery : Bool) : Bool :=
  password ≠ "" && (step ≠ "setup" ||
    (confirmedNoRecovery && decide (minMasterPasswordLength ≤ utf16Length password)))

end LoginPage

/-- What the user of a browser does, and what Google answers. -/
structure Login (R : Runtime) where
  sessionId : String
  /-- The state that the server draws, which Google hands back. -/
  state : String
  profile : Except Exception GoogleProfile
  password : String
  confirmedNoRecovery : Bool
  fresh : FreshSecrets R
  submitted : Int
  opened : Int

/-- What happens elsewhere before the callback, before the submission and before the dashboard. -/
structure Meanwhile (R : Runtime) where
  first : List (AppEvent R)
  second : List (AppEvent R)
  third : List (AppEvent R)

/-- The browser's session is left to it, and the server keeps running once it has the password. -/
structure Meanwhile.Elsewhere (sessionId : String) (others : Meanwhile R) : Prop where
  first : ∀ event ∈ others.first, event.Elsewhere sessionId
  second : ∀ event ∈ others.second, event.Elsewhere sessionId
  third : KeepsProcess sessionId others.third

namespace Login

variable (unicode : UnicodeData) (login : Login R) (server : Server R) (others : Meanwhile R)

/-- The server when Google sends the browser back, after `handleGoogleLogin`. -/
def atCallback : Server R :=
  run (Server.appStep unicode) (server.serve login.sessionId
    (AuthController.googleStart login.state)).2 others.first

def callback : Except Exception AuthController.LoginRedirect × Server R :=
  (login.atCallback unicode server others).serve login.sessionId
    (AuthController.googleCallback (some login.state) login.profile)

/-- The server when the password is submitted. -/
def atSubmit : Server R :=
  run (Server.appStep unicode) (login.callback unicode server others).2 others.second

def submit (step : String) : Except Exception Unit × Server R :=
  (login.atSubmit unicode server others).serve login.sessionId
    ((LoginPage.passwordRequest step login.password login.fresh).route login.sessionId
      login.submitted)

/-- The server when the dashboard is opened. -/
def atDashboard (step : String) : Server R :=
  run (Server.appStep unicode) (login.submit unicode server others step).2 others.third

/-- What the gate answers to `router.push("/")`; `none` if the browser stays on the login page. -/
def outcome : Option GateAnswer :=
  match (login.callback unicode server others).1 with
  | .ok (.step step) =>
      if LoginPage.canSubmit step login.password login.confirmedNoRecovery then
        match (login.submit unicode server others step).1 with
        | .ok () =>
            some (openPage (login.atDashboard unicode server others step) login.sessionId
              login.opened).1
        | .error _ => none
      else none
  | _ => none

/-! ## When a login ends on the dashboard -/

/-- Google names a user, and the password is the user's when it is submitted. -/
def Recognised : Prop :=
  ∃ known user current, login.profile = .ok known ∧
    profileUser (login.atCallback unicode server others).db known = some user ∧ user.id ≠ "" ∧
    (login.atSubmit unicode server others).db.users.find? user.id = some current ∧
    login.password ≠ "" ∧
    R.verifyMasterPassword login.password current.masterPasswordHash = true ∧
    login.opened - login.submitted ≤ current.autoLockMinutes * 60000

/-- Google names a profile without a user, the session is logged in as nobody, and the user is
created. -/
def SignsUp : Prop :=
  ∃ known, login.profile = .ok known ∧
    profileUser (login.atCallback unicode server others).db known = none ∧
    (server.sessions login.sessionId).loggedInAs = none ∧ login.confirmedNoRecovery = true ∧
    minMasterPasswordLength ≤ utf16Length login.password ∧ login.fresh.userId ≠ "" ∧
    ((login.atSubmit unicode server others).db.users.insert?
      (newUser known login.password login.fresh login.submitted)).isSome ∧
    login.opened - login.submitted ≤ 15 * 60000

/-! ## A setup -/

/-- The user of the profile can be created for the password. -/
def CanSetUp (ctx : Context R) (now : Int) (pending : GoogleProfile) (password : String)
    (fresh : FreshSecrets R) : Prop :=
  ctx.session.loggedInAs = none ∧ minMasterPasswordLength ≤ utf16Length password ∧
    (ctx.db.users.insert? (newUser pending password fresh now)).isSome

theorem setupMasterPassword_cases {ctx : Context R} {pending : GoogleProfile}
    (sessionId : String) (now : Int) (password : String) (fresh : FreshSecrets R)
    (hpending : ctx.session.pendingGoogle = some pending) :
    (CanSetUp ctx now pending password fresh ∧ ∃ (before : Context R) (user : User),
        before.session.userId = some fresh.userId ∧
        setupMasterPassword sessionId now (some password) fresh ctx =
          (.ok user, stored before sessionId now
            (R.deriveEncryptionKey password fresh.kdfSalt) 15)) ∨
      ¬ CanSetUp ctx now pending password fresh ∧
        ∃ e ctx', setupMasterPassword sessionId now (some password) fresh ctx =
          (.error e, ctx') := by
  rw [setupMasterPassword, state_bind, ensure_bind]
  split
  next hnobody =>
    rw [hpending, expect_some_bind]
    rcases haccepted : newMasterPassword (some password) ctx with ⟨e | new, after⟩
    · refine .inr ⟨fun hcan => ?_, e, after, bind_of_error haccepted⟩
      have hok : newMasterPassword (some password) ctx = (.ok password, ctx) :=
        newMasterPassword_ok_iff.mpr ⟨rfl, hcan.2.1, rfl⟩
      simp [haccepted] at hok
    obtain ⟨hnew, hlength, rfl⟩ := newMasterPassword_ok_iff.mp haccepted
    obtain rfl := Option.some.inj hnew
    rw [bind_of_ok haccepted]
    cases hinsert : ctx.db.users.insert? (newUser pending password fresh now) with
    | some users =>
        have hcreate : (onDatabase (Prisma.user.create (newUser pending password fresh now)) :
            Route R User) ctx = (.ok (newUser pending password fresh now), _) :=
          onDatabase_run.mpr ⟨_, (Model.create_ok_iff _).mpr ⟨rfl, rfl, users, hinsert, rfl⟩, rfl⟩
        refine .inl ⟨⟨hnobody, hlength, by simp [hinsert]⟩,
          (ctx.withDb (Prisma.user.withTable ctx.db users)).withSession fun session =>
            { session with pendingGoogle := none, userId := some fresh.userId },
          newUser pending password fresh now, rfl, ?_⟩
        rw [bind_of_ok hcreate, modify_bind]
        rfl
    | none =>
        have hcreate : (onDatabase (Prisma.user.create (newUser pending password fresh now)) :
            Route R User) ctx = (.error .p2002, ctx.withDb ctx.db) :=
          onDatabase_run.mpr ⟨ctx.db, by simp [Model.create, Prisma.user, hinsert], rfl⟩
        refine .inr ⟨fun hcan => ?_, _, _, bind_of_error hcreate⟩
        simp [CanSetUp, hinsert] at hcan
  next hlogged => exact .inr ⟨fun hcan => hlogged hcan.1, _, _, rfl⟩

/-! ## The steps of a login -/

section Steps

variable {unicode login server others}

theorem atCallback_session (helsewhere : others.Elsewhere login.sessionId) :
    (login.atCallback unicode server others).sessions login.sessionId =
      { server.sessions login.sessionId with oauthState := some login.state } := by
  rw [atCallback, sessions_elsewhere unicode _ helsewhere.first]
  exact Server.save_session ..

/-- The step that the callback sends the browser to. -/
def stepOf : CallbackStatus → String
  | .needs_master_password_setup _ => "setup"
  | .logged_in => "unlock"

theorem callback_run {status : CallbackStatus} {ctx : Context R}
    (hrun : handleGoogleCallback (some login.state) login.profile
      ((login.atCallback unicode server others).context login.sessionId) = (.ok status, ctx)) :
    login.callback unicode server others =
      (.ok (.step (stepOf status)),
        (login.atCallback unicode server others).save login.sessionId ctx) := by
  unfold callback Server.serve AuthController.googleCallback recover
  rw [bind_of_ok hrun]
  cases status <;> rfl

theorem callback_matches (hstate : login.state ≠ "") (helsewhere : others.Elsewhere login.sessionId) :
    StateMatches ((login.atCallback unicode server others).context login.sessionId).session
      (some login.state) := by
  rw [Server.context_session, atCallback_session helsewhere]
  exact ⟨by simpa using hstate, rfl⟩

/-- Google names a user: the browser is sent to the unlock step, in a locked session of the user. -/
theorem callback_known (hstate : login.state ≠ "") (helsewhere : others.Elsewhere login.sessionId)
    {known : GoogleProfile} {user : User} (hprofile : login.profile = .ok known)
    (huser : profileUser (login.atCallback unicode server others).db known = some user) :
    (login.callback unicode server others).1 = .ok (.step "unlock") ∧
      ((login.atSubmit unicode server others).sessions login.sessionId).userId = some user.id := by
  have hrun : handleGoogleCallback (some login.state) login.profile
      ((login.atCallback unicode server others).context login.sessionId) = (.ok .logged_in, _) :=
    handleGoogleCallback_ok_iff.mpr ⟨callback_matches hstate helsewhere, known, hprofile,
      .inl ⟨user, huser, rfl, rfl⟩⟩
  have hcallback := callback_run hrun
  refine ⟨congrArg Prod.fst hcallback, ?_⟩
  rw [atSubmit, sessions_elsewhere unicode _ helsewhere.second, hcallback, Server.save_session]
  rfl

/-- Google names a profile without a user: the browser is sent to the setup step. -/
theorem callback_new (hstate : login.state ≠ "") (helsewhere : others.Elsewhere login.sessionId)
    {known : GoogleProfile} (hprofile : login.profile = .ok known)
    (hnew : profileUser (login.atCallback unicode server others).db known = none) :
    (login.callback unicode server others).1 = .ok (.step "setup") ∧
      ((login.atSubmit unicode server others).sessions login.sessionId).userId =
        (server.sessions login.sessionId).userId ∧
      ((login.atSubmit unicode server others).sessions login.sessionId).pendingGoogle =
        some known := by
  have hrun : handleGoogleCallback (some login.state) login.profile
      ((login.atCallback unicode server others).context login.sessionId) =
        (.ok (.needs_master_password_setup known.email), _) :=
    handleGoogleCallback_ok_iff.mpr ⟨callback_matches hstate helsewhere, known, hprofile,
      .inr ⟨hnew, rfl, rfl⟩⟩
  have hcallback := callback_run hrun
  refine ⟨congrArg Prod.fst hcallback, ?_⟩
  rw [atSubmit, sessions_elsewhere unicode _ helsewhere.second, hcallback, Server.save_session,
    Context.withSession_session, Server.context_session, atCallback_session helsewhere]
  exact ⟨rfl, rfl⟩

theorem callback_failed {e : Exception} (hprofile : login.profile = .error e) :
    login.outcome unicode server others = none := by
  have hfails : ∃ err, (login.callback unicode server others).1 = .ok (.error err) := by
    unfold callback Server.serve AuthController.googleCallback recover
    rcases hrun : handleGoogleCallback (some login.state) login.profile
      ((login.atCallback unicode server others).context login.sessionId) with ⟨err | status, ctx⟩
    · exact ⟨err, by rw [bind_of_error hrun]; rfl⟩
    · obtain ⟨-, known, hok, -⟩ := handleGoogleCallback_ok_iff.mp hrun
      rw [hprofile] at hok
      contradiction
  obtain ⟨err, hcallback⟩ := hfails
  simp [outcome, hcallback]

/-- The submission of a user's password unlocks the session, and no other does. -/
theorem submit_unlock {userId : String}
    (hlogged : ((login.atSubmit unicode server others).sessions login.sessionId).loggedInAs =
      some userId) :
    (∃ current, (login.atSubmit unicode server others).db.users.find? userId = some current ∧
        R.verifyMasterPassword login.password current.masterPasswordHash = true ∧
        login.submit unicode server others "unlock" =
          (.ok (), (login.atSubmit unicode server others).save login.sessionId
            (stored ((login.atSubmit unicode server others).context login.sessionId)
              login.sessionId login.submitted
              (R.deriveEncryptionKey login.password current.masterKdfSalt)
              current.autoLockMinutes))) ∨
      (∀ current, (login.atSubmit unicode server others).db.users.find? userId = some current →
        R.verifyMasterPassword login.password current.masterPasswordHash ≠ true) ∧
        ∃ e, (login.submit unicode server others "unlock").1 = .error e := by
  have hguard : loggedInGuard ((login.atSubmit unicode server others).context login.sessionId) =
      (.ok userId, (login.atSubmit unicode server others).context login.sessionId) :=
    loggedInGuard_ok_iff.mpr ⟨hlogged, rfl⟩
  have hsubmit : login.submit unicode server others "unlock" =
      (login.atSubmit unicode server others).serve login.sessionId
        (AuthController.unlock login.sessionId login.submitted (some login.password)) := rfl
  rw [hsubmit, Server.serve, AuthController.unlock, bind_of_ok hguard]
  rcases hrun : unlock login.sessionId login.submitted userId (some login.password)
    ((login.atSubmit unicode server others).context login.sessionId) with ⟨e | u, ctx⟩
  · refine .inr ⟨fun current hcurrent hverify => ?_, e, rfl⟩
    have hok : unlock login.sessionId login.submitted userId (some login.password)
        ((login.atSubmit unicode server others).context login.sessionId) = (.ok (), _) :=
      unlock_ok_iff.mpr ⟨current, login.password, hcurrent, rfl, hverify, rfl⟩
    simp [hrun] at hok
  · obtain ⟨current, password, hcurrent, hpassword, hverify, rfl⟩ := unlock_ok_iff.mp hrun
    obtain rfl := Option.some.inj hpassword
    exact .inl ⟨current, hcurrent, hverify, rfl⟩

/-- Without a user the unlock step is refused. -/
theorem submit_refused
    (hnobody : ((login.atSubmit unicode server others).sessions login.sessionId).loggedInAs =
      none) : ∃ e, (login.submit unicode server others "unlock").1 = .error e := by
  have hguard : loggedInGuard ((login.atSubmit unicode server others).context login.sessionId) =
      (.error (.unauthorized "로그인이 필요합니다."),
        (login.atSubmit unicode server others).context login.sessionId) := by
    rw [loggedInGuard, state_bind, Server.context_session, hnobody]
    rfl
  have hsubmit : login.submit unicode server others "unlock" =
      (login.atSubmit unicode server others).serve login.sessionId
        (AuthController.unlock login.sessionId login.submitted (some login.password)) := rfl
  rw [hsubmit, Server.serve, AuthController.unlock, bind_of_error hguard]
  exact ⟨_, rfl⟩

/-- The submission of a new password creates the user of the profile, if it can be created. -/
theorem submit_setup {known : GoogleProfile}
    (hpending : ((login.atSubmit unicode server others).sessions login.sessionId).pendingGoogle =
      some known) :
    (CanSetUp ((login.atSubmit unicode server others).context login.sessionId) login.submitted
        known login.password login.fresh ∧ ∃ before : Context R,
        before.session.userId = some login.fresh.userId ∧
        login.submit unicode server others "setup" =
          (.ok (), (login.atSubmit unicode server others).save login.sessionId
            (stored before login.sessionId login.submitted
              (R.deriveEncryptionKey login.password login.fresh.kdfSalt) 15))) ∨
      ¬ CanSetUp ((login.atSubmit unicode server others).context login.sessionId) login.submitted
        known login.password login.fresh ∧
        ∃ e, (login.submit unicode server others "setup").1 = .error e := by
  have hsubmit : login.submit unicode server others "setup" =
      (login.atSubmit unicode server others).serve login.sessionId (do
        let _ ← setupMasterPassword login.sessionId login.submitted (some login.password)
          login.fresh) := rfl
  replace hpending : ((login.atSubmit unicode server others).context
      login.sessionId).session.pendingGoogle = some known := hpending
  rw [hsubmit, Server.serve]
  rcases setupMasterPassword_cases login.sessionId login.submitted login.password login.fresh
    hpending with ⟨hcan, before, user, huser, hrun⟩ | ⟨hcannot, e, ctx, hrun⟩
  · refine .inl ⟨hcan, before, huser, ?_⟩
    rw [bind_of_ok hrun]
    rfl
  · refine .inr ⟨hcannot, e, ?_⟩
    rw [bind_of_error hrun]

/-- The dashboard is shown to a session with a user, while the key that the submission has stored
is within its limit. -/
theorem dashboard_iff (helsewhere : others.Elsewhere login.sessionId) {step : String}
    (before : Context R) {key : R.Key} {minutes : Int}
    (hsubmit : (login.submit unicode server others step).2 =
      (login.atSubmit unicode server others).save login.sessionId
        (stored before login.sessionId login.submitted key minutes)) :
    (openPage (login.atDashboard unicode server others step) login.sessionId login.opened).1 =
        .next ↔
      before.session.loggedInAs.isSome ∧ login.opened - login.submitted ≤ minutes * 60000 := by
  have hthird := helsewhere.third
  have hsession : (login.atDashboard unicode server others step).sessions login.sessionId =
      { before.session with unlocked := some true } := by
    rw [atDashboard, sessions_elsewhere unicode _ fun event hevent => (hthird event hevent).1,
      hsubmit, Server.save_session]
    rfl
  have hkeys : (login.atDashboard unicode server others step).keys login.sessionId =
      some ⟨key, minutes, login.submitted⟩ := by
    rw [atDashboard, keys_elsewhere unicode _ hthird, hsubmit, Server.save_keys]
    exact UnlockKeyStore.set_self ..
  simp only [openPage_next_iff, admits_iff_entry, hsession, hkeys]
  constructor
  · rintro ⟨userId, found, hlogged, -, entry, hentry, -, hlive⟩
    obtain rfl := Option.some.inj hentry
    exact ⟨Option.isSome_of_mem hlogged, hlive⟩
  · rintro ⟨hsome, hlive⟩
    obtain ⟨userId, hlogged⟩ := Option.isSome_iff_exists.mp hsome
    exact ⟨userId, key, hlogged, rfl, _, rfl, rfl, hlive⟩

/-- The session of a user that Google names reaches the dashboard with the user's password. -/
theorem outcome_of_known (hstate : login.state ≠ "") (helsewhere : others.Elsewhere login.sessionId)
    {known : GoogleProfile} {user : User} (hprofile : login.profile = .ok known)
    (huser : profileUser (login.atCallback unicode server others).db known = some user) :
    login.outcome unicode server others = some .next ↔
      login.Recognised unicode server others := by
  obtain ⟨hstep, huserId⟩ := callback_known hstate helsewhere hprofile huser
  have hrecognised : login.Recognised unicode server others ↔ user.id ≠ "" ∧ login.password ≠ "" ∧
      ∃ current, (login.atSubmit unicode server others).db.users.find? user.id = some current ∧
        R.verifyMasterPassword login.password current.masterPasswordHash = true ∧
        login.opened - login.submitted ≤ current.autoLockMinutes * 60000 := by
    constructor
    · rintro ⟨known', found, current, hok, hfound, hid, hcurrent, hpassword, hverify, hlive⟩
      obtain rfl := Except.ok.inj (hprofile.symm.trans hok)
      obtain rfl := Option.some.inj (huser.symm.trans hfound)
      exact ⟨hid, hpassword, current, hcurrent, hverify, hlive⟩
    · rintro ⟨hid, hpassword, current, hcurrent, hverify, hlive⟩
      exact ⟨known, user, current, hprofile, huser, hid, hcurrent, hpassword, hverify, hlive⟩
  rw [hrecognised, outcome, hstep]
  have hsubmits : LoginPage.canSubmit "unlock" login.password login.confirmedNoRecovery = true ↔
      login.password ≠ "" := by simp [LoginPage.canSubmit]
  by_cases hpassword : login.password = ""
  · simp [LoginPage.canSubmit, hpassword]
  dsimp only
  rw [if_pos (hsubmits.mpr hpassword)]
  by_cases hid : user.id = ""
  · have hnobody : ((login.atSubmit unicode server others).sessions login.sessionId).loggedInAs =
        none := by
      simp [SessionData.loggedInAs, huserId, hid]
    obtain ⟨e, herror⟩ := submit_refused hnobody
    simp [herror, hid]
  have hlogged : ((login.atSubmit unicode server others).sessions login.sessionId).loggedInAs =
      some user.id := by
    simp [SessionData.loggedInAs, huserId, hid]
  rcases submit_unlock hlogged with ⟨current, hcurrent, hverify, hsubmit⟩ | ⟨hnone, e, herror⟩
  · have hdashboard := dashboard_iff helsewhere
      ((login.atSubmit unicode server others).context login.sessionId) (congrArg Prod.snd hsubmit)
    rw [Server.context_session, hlogged] at hdashboard
    simp [hsubmit, hdashboard, hid, hpassword, hcurrent, hverify]
  · rw [herror]
    simp only [reduceCtorEq, false_iff]
    rintro ⟨-, -, current, hcurrent, hverify, -⟩
    exact hnone current hcurrent hverify

/-- The session of a new profile reaches the dashboard by signing up. -/
theorem outcome_of_new (hstate : login.state ≠ "") (helsewhere : others.Elsewhere login.sessionId)
    {known : GoogleProfile} (hprofile : login.profile = .ok known)
    (hnew : profileUser (login.atCallback unicode server others).db known = none) :
    login.outcome unicode server others = some .next ↔ login.SignsUp unicode server others := by
  obtain ⟨hstep, huserId, hpending⟩ := callback_new hstate helsewhere hprofile hnew
  have hlogged : ((login.atSubmit unicode server others).sessions login.sessionId).loggedInAs =
      (server.sessions login.sessionId).loggedInAs := by
    simp [SessionData.loggedInAs, huserId]
  have hsignsUp : login.SignsUp unicode server others ↔ login.confirmedNoRecovery = true ∧
      login.fresh.userId ≠ "" ∧ CanSetUp ((login.atSubmit unicode server others).context
        login.sessionId) login.submitted known login.password login.fresh ∧
      login.opened - login.submitted ≤ 15 * 60000 := by
    rw [CanSetUp, Server.context_session, hlogged]
    constructor
    · rintro ⟨known', hok, -, hnobody, hconfirmed, hlength, hid, hinsert, hlive⟩
      obtain rfl := Except.ok.inj (hprofile.symm.trans hok)
      exact ⟨hconfirmed, hid, ⟨hnobody, hlength, hinsert⟩, hlive⟩
    · rintro ⟨hconfirmed, hid, ⟨hnobody, hlength, hinsert⟩, hlive⟩
      exact ⟨known, hprofile, hnew, hnobody, hconfirmed, hlength, hid, hinsert, hlive⟩
  rw [hsignsUp, outcome, hstep]
  dsimp only
  have hsubmits : LoginPage.canSubmit "setup" login.password login.confirmedNoRecovery = true ↔
      login.confirmedNoRecovery = true ∧ minMasterPasswordLength ≤ utf16Length login.password := by
    have hempty : minMasterPasswordLength ≤ utf16Length login.password → login.password ≠ "" := by
      rintro hlength hempty
      rw [hempty] at hlength
      contradiction
    simp only [LoginPage.canSubmit, Bool.and_eq_true, decide_eq_true_eq]
    constructor
    · simp
    · rintro ⟨hconfirmed, hlength⟩
      simp [hconfirmed, hlength, hempty hlength]
  rcases submit_setup hpending with ⟨hcan, before, huser, hsubmit⟩ | ⟨hcannot, e, herror⟩
  · have hdashboard := dashboard_iff helsewhere before (congrArg Prod.snd hsubmit)
    have hnamed : before.session.loggedInAs.isSome ↔ login.fresh.userId ≠ "" := by
      simp [SessionData.loggedInAs, huser, Option.filter]
    rw [hnamed] at hdashboard
    by_cases hconfirmed : login.confirmedNoRecovery = true
    · rw [if_pos (hsubmits.mpr ⟨hconfirmed, hcan.2.1⟩), hsubmit]
      simp [hdashboard, hconfirmed, hcan]
    · rw [if_neg fun h => hconfirmed (hsubmits.mp h).1]
      simp [hconfirmed]
  · rw [herror]
    simp [hcannot]

end Steps

end Login

/-- Whatever other sessions do in between, a login ends on the dashboard if and only if Google
names a user whose master password is submitted, or a new profile that signs up, and the
dashboard is opened before the session locks itself. -/
theorem login_completes_iff (unicode : UnicodeData) (login : Login R) (server : Server R)
    (others : Meanwhile R) (hstate : login.state ≠ "")
    (helsewhere : others.Elsewhere login.sessionId) :
    login.outcome unicode server others = some .next ↔
      login.Recognised unicode server others ∨ login.SignsUp unicode server others := by
  cases hprofile : login.profile with
  | error e =>
      rw [Login.callback_failed hprofile]
      simp [Login.Recognised, Login.SignsUp, hprofile]
  | ok known =>
      cases hfind : profileUser (login.atCallback unicode server others).db known with
      | some user =>
          rw [Login.outcome_of_known hstate helsewhere hprofile hfind]
          simp [Login.SignsUp, hprofile, hfind]
      | none =>
          rw [Login.outcome_of_new hstate helsewhere hprofile hfind]
          simp [Login.Recognised, hprofile, hfind]

/-! ## A first visit -/

namespace FirstVisit

def login : Login symbolicRuntime where
  sessionId := "sid"
  state := "state"
  profile := .ok ⟨"sub", "u@example.com"⟩
  password := "password"
  confirmedNoRecovery := true
  fresh := ⟨"h", "k", "u", fun id => id⟩
  submitted := 1
  opened := 2

/-- Another browser starts a login too, and the server restarts before the password is sent. -/
def others : Meanwhile symbolicRuntime where
  first := [.request "other" 0 (.auth (.googleStart "another state"))]
  second := [.restart]
  third := [.request "other" 1 (.auth .me)]

theorem others_elsewhere : others.Elsewhere login.sessionId where
  first := by simp [others, login, AppEvent.Elsewhere]
  second := by simp [others, AppEvent.Elsewhere]
  third := by simp [KeepsProcess, others, login, AppEvent.Elsewhere]

theorem signsUp : login.SignsUp asciiData (Server.initial symbolicRuntime) others :=
  ⟨⟨"sub", "u@example.com"⟩, rfl, by decide +kernel, by decide +kernel, rfl, by decide, by decide,
    by decide +kernel, by decide⟩

end FirstVisit

open FirstVisit in
theorem login_completes_here :
    login.outcome asciiData (Server.initial symbolicRuntime) others = some .next :=
  (login_completes_iff asciiData login (Server.initial symbolicRuntime) others (by decide)
    others_elsewhere).mpr (.inr signsUp)

end MyAccountController
