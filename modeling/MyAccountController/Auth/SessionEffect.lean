import MyAccountController.Auth.ChangeMasterPassword
import MyAccountController.Auth.QuietRequests

/-! # What a request does to the unlocked state of its session

The user id, the unlocked flag and the key of a session are written apart.
Every route either weakens them, or establishes all three for a user whose
master password it has verified, or is a WebAuthn request that has switched the
user and then failed.
-/

namespace MyAccountController

open Foundation

variable {R : Runtime}

/-- The session is at most as unlocked as before: no flag is raised, no key
appears, and another user id only comes with a lowered flag. -/
structure Weakens (sessionId : String) (ctx ctx' : Context R) : Prop where
  unlocked : ctx'.session.isUnlocked = true → ctx.session.isUnlocked = true
  userId : ctx'.session.isUnlocked = true → ctx'.session.userId = ctx.session.userId
  key : ∀ entry, ctx'.keys sessionId = some entry →
    ∃ before, ctx.keys sessionId = some before ∧ entry.key = before.key
  otherKeys : ∀ other, other ≠ sessionId → ctx'.keys other = ctx.keys other

namespace Weakens

variable {sessionId : String} {now : Int}

theorem refl (ctx : Context R) : Weakens sessionId ctx ctx :=
  ⟨id, fun _ => rfl, fun entry h => ⟨entry, h, rfl⟩, fun _ _ => rfl⟩

theorem trans (a b c : Context R) (hab : Weakens sessionId a b) (hbc : Weakens sessionId b c) :
    Weakens sessionId a c := by
  constructor
  case unlocked => exact fun h => hab.unlocked (hbc.unlocked h)
  case userId => exact fun h => (hbc.userId h).trans (hab.userId (hbc.unlocked h))
  case key =>
    intro entry hentry
    obtain ⟨middle, hmiddle, hkey⟩ := hbc.key entry hentry
    obtain ⟨before, hbefore, hkey'⟩ := hab.key middle hmiddle
    exact ⟨before, hbefore, hkey.trans hkey'⟩
  case otherKeys =>
    intro other hne
    rw [hbc.otherKeys other hne, hab.otherKeys other hne]

/-- A write to the session alone. -/
theorem withSession (ctx : Context R) (f : SessionData → SessionData)
    (hunlocked : (f ctx.session).isUnlocked = true →
      ctx.session.isUnlocked = true ∧ (f ctx.session).userId = ctx.session.userId) :
    Weakens sessionId ctx (ctx.withSession f) where
  unlocked h := (hunlocked h).1
  userId h := (hunlocked h).2
  key entry h := ⟨entry, h, rfl⟩
  otherKeys _ _ := rfl

/-- A write to the database alone. -/
theorem withDb (ctx : Context R) (db : Database) : Weakens sessionId ctx (ctx.withDb db) :=
  ⟨id, fun _ => rfl, fun entry h => ⟨entry, h, rfl⟩, fun _ _ => rfl⟩

theorem touch (ctx : Context R) :
    Weakens sessionId ctx (ctx.withKeys (ctx.keys.touch sessionId now).2) where
  unlocked := id
  userId _ := rfl
  key _ := UnlockKeyStore.touch_entry ctx.keys sessionId now
  otherKeys _ := UnlockKeyStore.touch_of_ne ctx.keys sessionId now

theorem deleteKey (ctx : Context R) :
    Weakens sessionId ctx (ctx.withKeys (ctx.keys.delete sessionId)) where
  unlocked := id
  userId _ := rfl
  key entry h := by simp at h
  otherKeys _ := UnlockKeyStore.delete_of_ne ctx.keys sessionId

theorem updateAutoLockMinutes (ctx : Context R) (minutes : Int) :
    Weakens sessionId ctx
      (ctx.withKeys (ctx.keys.updateAutoLockMinutes sessionId minutes)) where
  unlocked := id
  userId _ := rfl
  key _ := UnlockKeyStore.updateAutoLockMinutes_entry ctx.keys sessionId minutes
  otherKeys _ := UnlockKeyStore.updateAutoLockMinutes_of_ne ctx.keys sessionId minutes

end Weakens

/-! ## Routes that weaken -/

open Handler

section Routes

variable {α : Type} (sessionId : String) (now : Int)

theorem weakens_onDatabase (query : Query α) :
    Keeps (Weakens sessionId) (onDatabase (R := R) query) :=
  fun ctx => Weakens.withDb ctx _

theorem weakens_loggedInGuard : Keeps (Weakens sessionId) (loggedInGuard (R := R)) := by
  intro ctx
  rcases hrun : loggedInGuard ctx with ⟨_ | userId, ctx'⟩
  · rw [loggedInGuard, bind_run, state_run] at hrun
    obtain ⟨-, -, rfl⟩ := expect_error_iff.mp hrun
    exact Weakens.refl ctx
  · obtain ⟨-, rfl⟩ := loggedInGuard_ok_iff.mp hrun
    exact Weakens.refl ctx

/-- A write to the session that keeps the flag and the user id, or lowers the flag. -/
theorem weakens_modifySession (f : SessionData → SessionData)
    (hf : ∀ session, (f session).isUnlocked = true →
      session.isUnlocked = true ∧ (f session).userId = session.userId) :
    Keeps (Weakens sessionId)
      (Handler.modify fun ctx => ctx.withSession f : Route R Unit) :=
  fun ctx => Weakens.withSession ctx f (hf ctx.session)

/-- The same write, before an answer. -/
theorem weakens_modifySession_pure (f : SessionData → SessionData)
    (hf : ∀ session, (f session).isUnlocked = true →
      session.isUnlocked = true ∧ (f session).userId = session.userId) (a : α) :
    Keeps (Weakens sessionId)
      ((Handler.modify fun ctx => ctx.withSession f) >>= fun _ => pure a : Route R α) :=
  fun ctx => Weakens.withSession ctx f (hf ctx.session)

/-- Lowering the flag weakens, whatever else it writes. -/
theorem locked_isUnlocked {session : SessionData} {P : Prop}
    (h : session.unlocked = some false) (hunlocked : session.isUnlocked = true) : P := by
  simp [SessionData.isUnlocked, h] at hunlocked

theorem weakens_refuseLocked : Keeps (Weakens sessionId) (refuseLocked (R := R) (α := α)) := by
  unfold refuseLocked
  apply keeps_bind Weakens.trans
  · exact weakens_modifySession sessionId _ fun _ => locked_isUnlocked rfl
  · exact fun _ _ ctx _ => Weakens.refl ctx

theorem weakens_unlockedGuard :
    Keeps (Weakens sessionId) (unlockedGuard (R := R) sessionId now) := by
  unfold unlockedGuard
  apply keeps_bind Weakens.trans (weakens_loggedInGuard sessionId)
  intro userId _ ctx _
  rw [state_bind, modify_bind]
  have htouched : Weakens sessionId ctx (ctx.withKeys (ctx.keys.touch sessionId now).2) :=
    Weakens.touch ctx
  apply Weakens.trans _ _ _ htouched
  cases (ctx.keys.touch sessionId now).1 with
  | none => exact weakens_refuseLocked sessionId _
  | some key =>
      cases ctx.session.isUnlocked with
      | true => exact Weakens.refl _
      | false => exact weakens_refuseLocked sessionId _

theorem weakens_handleGoogleCallback (oauthState : Option String)
    (profile : Except Exception GoogleProfile) :
    Keeps (Weakens sessionId) (AuthService.handleGoogleCallback (R := R) oauthState profile) := by
  intro ctx
  rw [AuthService.handleGoogleCallback, state_bind, ensure_bind]
  split
  next hstate =>
    apply keeps_bind Weakens.trans
    · exact weakens_modifySession sessionId _ fun _ h => ⟨h, rfl⟩
    intro _ _ forgotten _
    cases profile with
    | error e => exact Weakens.refl forgotten
    | ok profile =>
        rw [ofExcept_ok_bind]
        cases ctx.db.users.rows.find? (·.googleSubId = profile.sub) with
        | none =>
            refine weakens_modifySession_pure sessionId _ ?_ _ forgotten
            exact fun _ h => ⟨h, rfl⟩
        | some user =>
            -- The new user id comes with the flag lowered.
            exact weakens_modifySession_pure sessionId _ (fun _ => locked_isUnlocked rfl) _ forgotten
  next => exact Weakens.refl ctx

theorem weakens_checkStillUnlocked :
    Keeps (Weakens sessionId) (AuthService.checkStillUnlocked (R := R) sessionId now) := by
  intro ctx
  rw [AuthService.checkStillUnlocked, state_bind]
  cases ctx.session.isUnlocked with
  | false => exact Weakens.refl ctx
  | true =>
      have htouched : Weakens sessionId ctx (ctx.withKeys (ctx.keys.touch sessionId now).2) :=
        Weakens.touch ctx
      apply Weakens.trans _ _ _ htouched
      cases (ctx.keys.touch sessionId now).1.isSome with
      | true => exact Weakens.refl _
      | false => exact weakens_modifySession_pure sessionId _ (fun _ => locked_isUnlocked rfl) _ _

theorem weakens_lock : Keeps (Weakens sessionId) (AuthService.lock (R := R) sessionId) := by
  unfold AuthService.lock
  apply keeps_bind Weakens.trans
  · exact Weakens.deleteKey
  · exact fun _ _ locked _ => weakens_modifySession sessionId _ (fun _ => locked_isUnlocked rfl) locked

/-- The steps of the quiet routes weaken. -/
theorem weakens_steps : KeptBySteps (R := R) sessionId now (Weakens sessionId) where
  refl := Weakens.refl
  trans := Weakens.trans
  withDb := Weakens.withDb
  unlockedGuard := weakens_unlockedGuard sessionId now
  oauthState ctx _ := Weakens.withSession ctx _ fun h => ⟨h, rfl⟩
  challenge ctx _ := Weakens.withSession ctx _ fun h => ⟨h, rfl⟩
  checkStillUnlocked := weakens_checkStillUnlocked sessionId now
  updateAutoLockMinutes := Weakens.updateAutoLockMinutes
  lock := weakens_lock sessionId

theorem weakens_logout : Keeps (Weakens sessionId) (AuthController.logout (R := R) sessionId) := by
  unfold AuthController.logout AuthService.logout AuthController.destroySession
  apply keeps_bind Weakens.trans
  · exact Weakens.deleteKey
  · intro _ _ locked _
    refine weakens_modifySession sessionId _ ?_ locked
    exact fun _ hunlocked => absurd hunlocked (by decide)

end Routes

/-! ## Routes that establish a key -/

/-- The session is logged in as the user and holds the key. -/
structure Establishes (sessionId : String) (ctx ctx' : Context R) (userId : String)
    (key : R.Key) : Prop where
  userId : ctx'.session.userId = some userId
  key : ctx'.keys.get sessionId = some key
  otherKeys : ∀ other, other ≠ sessionId → ctx'.keys other = ctx.keys other

theorem establishes_stored {sessionId userId : String} {now : Int} {key : R.Key}
    {minutes : Int} {ctx before : Context R} (huser : before.session.userId = some userId)
    (hkeys : ∀ other, other ≠ sessionId → before.keys other = ctx.keys other) :
    Establishes sessionId ctx (AuthService.stored before sessionId now key minutes) userId key where
  userId := huser
  key := by simp [AuthService.stored, UnlockKeyStore.get]
  otherKeys other hne := (UnlockKeyStore.set_of_ne _ _ _ _ _ hne).trans (hkeys other hne)

namespace AuthService

/-- A setup that succeeds creates the user row with the new password. -/
theorem setupMasterPassword_ok {sessionId : String} {now : Int} {password : Option String}
    {fresh : FreshSecrets R} {ctx ctx' : Context R} {user : User}
    (hrun : setupMasterPassword sessionId now password fresh ctx = (.ok user, ctx')) :
    ctx.session.loggedInAs = none ∧ ∃ pending new users,
      AcceptedPassword password new ∧ user = newUser pending new fresh now ∧
      ctx.db.users.insert? user = some users ∧
      ctx' = stored ((ctx.withDb { ctx.db with users }).withSession fun session =>
        { session with pendingGoogle := none, userId := some user.id }) sessionId now
        (R.deriveEncryptionKey new fresh.kdfSalt) user.autoLockMinutes := by
  rw [setupMasterPassword, Handler.state_bind, Handler.bind_ok_iff] at hrun
  obtain ⟨_, _, hensure, hrun⟩ := hrun
  obtain ⟨hlogged, rfl⟩ := Handler.ensure_ok_iff.mp hensure
  rw [Handler.bind_ok_iff] at hrun
  obtain ⟨pending, _, hpending, hrun⟩ := hrun
  obtain ⟨-, rfl⟩ := Handler.expect_ok_iff.mp hpending
  rw [Handler.bind_ok_iff] at hrun
  obtain ⟨new, _, haccepted, hrun⟩ := hrun
  obtain ⟨hnew, hlength, rfl⟩ := newMasterPassword_ok_iff.mp haccepted
  rw [Handler.bind_ok_iff] at hrun
  obtain ⟨created, _, hcreate, hrun⟩ := hrun
  obtain ⟨db', hquery, rfl⟩ := onDatabase_run.mp hcreate
  obtain ⟨rfl, -, users, hinsert, rfl⟩ := (Model.create_ok_iff _).mp hquery
  obtain ⟨huser, rfl⟩ := Prod.mk.inj hrun
  obtain rfl := Except.ok.inj huser
  exact ⟨hlogged, pending, new, users, ⟨hnew, hlength⟩, rfl, hinsert, rfl⟩

/-- A setup that fails changes nothing. -/
theorem setupMasterPassword_error {sessionId : String} {now : Int} {password : Option String}
    {fresh : FreshSecrets R} {ctx ctx' : Context R} {e : Exception}
    (hrun : setupMasterPassword sessionId now password fresh ctx = (.error e, ctx')) :
    ctx' = ctx := by
  rw [setupMasterPassword, Handler.state_bind, Handler.bind_error_iff] at hrun
  rcases hrun with hensure | ⟨_, _, hensure, hrun⟩
  · exact (Handler.ensure_error_iff.mp hensure).2.2.symm
  obtain ⟨-, rfl⟩ := Handler.ensure_ok_iff.mp hensure
  rw [Handler.bind_error_iff] at hrun
  rcases hrun with hpending | ⟨pending, _, hpending, hrun⟩
  · exact (Handler.expect_error_iff.mp hpending).2.2.symm
  obtain ⟨-, rfl⟩ := Handler.expect_ok_iff.mp hpending
  rw [Handler.bind_error_iff] at hrun
  rcases hrun with hrejected | ⟨new, _, haccepted, hrun⟩
  · exact (newMasterPassword_error hrejected).1.symm
  obtain ⟨-, -, rfl⟩ := newMasterPassword_ok_iff.mp haccepted
  rw [Handler.bind_error_iff] at hrun
  rcases hrun with hcreate | ⟨_, _, -, hrun⟩
  · obtain ⟨db', hquery, rfl⟩ := onDatabase_run.mp hcreate
    obtain ⟨rfl, -⟩ := Model.create_error _ hquery
    rfl
  · simp [Handler.bind_run] at hrun

/-- An unlock is only refused without the master password. -/
theorem not_currentPassword_of_unlock_error {sessionId userId : String} {now : Int}
    {password : Option String} {ctx ctx' : Context R} {e : Exception}
    (hrun : unlock sessionId now userId password ctx = (.error e, ctx')) :
    ¬ ∃ user current, CurrentPassword R ctx.db userId password user current := by
  rintro ⟨user, current, hfound, hsome, hverify⟩
  have hok : unlock sessionId now userId password ctx = (.ok (), _) :=
    unlock_ok_iff.mpr ⟨user, current, hfound, hsome, hverify, rfl⟩
  rw [hrun] at hok
  exact absurd (congrArg Prod.fst hok) (by simp)

end AuthService

/-- The device a verified WebAuthn request asserts in this context, with a counter that its column
takes. -/
def Asserts (ctx : Context R) (response : AuthenticationResponse) (device : TrustedDevice) :
    Prop :=
  ∃ expectedChallenge counter,
    ctx.session.currentWebauthnChallenge = some expectedChallenge ∧ expectedChallenge ≠ "" ∧
      ctx.db.trustedDevices.rows.find? (·.webauthnCredentialId = response.id) = some device ∧
      response.verify expectedChallenge device = .ok (some counter) ∧ Prisma.Int4 counter

/-- The request verifies a master password of the user, or sets the first or a
new one, and the key is derived from it. -/
def Verifies (ctx : Context R) (userId : String) (key : R.Key) : AuthRequest R → Prop
  | .setupMasterPassword password fresh => ∃ new,
      AuthService.AcceptedPassword password new ∧ userId = fresh.userId ∧
        key = R.deriveEncryptionKey new fresh.kdfSalt
  | .unlock password => ∃ user current,
      ctx.session.loggedInAs = some userId ∧
        AuthService.CurrentPassword R ctx.db userId password user current ∧
        key = R.deriveEncryptionKey current user.masterKdfSalt
  | .webauthnAuthenticate response password => ∃ device user current,
      Asserts ctx response device ∧ device.userId = userId ∧
        AuthService.CurrentPassword R ctx.db userId password user current ∧
        key = R.deriveEncryptionKey current user.masterKdfSalt
  | .changeMasterPassword currentPassword newPassword fresh => ∃ user current new,
      ctx.session.loggedInAs = some userId ∧
        AuthService.CurrentPassword R ctx.db userId currentPassword user current ∧
        AuthService.AcceptedPassword newPassword new ∧
        key = R.deriveEncryptionKey new fresh.kdfSalt
  | _ => False

/-- What a run of a route may have done to its session: weakened it, unless the
route sets a key and succeeded, or established the key of a user it verified,
or switched the user without verifying anything. -/
inductive Effect (sessionId : String) (request : AuthRequest R) (ctx : Context R) :
    Except Exception Unit → Context R → Prop where
  | weakened {result : Except Exception Unit} {ctx' : Context R}
      (hquiet : request.setsKey = true → result ≠ .ok ())
      (hweakens : Weakens sessionId ctx ctx') : Effect sessionId request ctx result ctx'
  | established {ctx' : Context R} {userId : String} {key : R.Key}
      (hverifies : Verifies ctx userId key request)
      (hestablishes : Establishes sessionId ctx ctx' userId key) :
      Effect sessionId request ctx (.ok ()) ctx'
  | switched {e : Exception} {ctx' : Context R} {response : AuthenticationResponse}
      {password : Option String} {device : TrustedDevice}
      (hrequest : request = .webauthnAuthenticate response password)
      (hasserts : Asserts ctx response device)
      (hwrong : ¬ ∃ user current,
        AuthService.CurrentPassword R ctx.db device.userId password user current)
      (huserId : ctx'.session.userId = some device.userId)
      (hunlocked : ctx'.session.unlocked = ctx.session.unlocked)
      (hkeys : ctx'.keys = ctx.keys) : Effect sessionId request ctx (.error e) ctx'

section Effects

variable {sessionId : String} {now : Int} {ctx ctx' : Context R}
  {result : Except Exception Unit}

theorem effect_of_keeps {request : AuthRequest R} {route : Route R Unit}
    (hquiet : request.setsKey = false) (hkeeps : Keeps (Weakens sessionId) route)
    (hrun : route ctx = (result, ctx')) :
    Effect sessionId request ctx result ctx' := by
  have hweakens := hkeeps ctx
  rw [hrun] at hweakens
  refine .weakened (fun hsets => ?_) hweakens
  rw [hquiet] at hsets
  contradiction

/-- A request that failed weakens. -/
theorem Effect.failed {request : AuthRequest R} {e : Exception}
    (hweakens : Weakens sessionId ctx ctx') : Effect sessionId request ctx (.error e) ctx' :=
  .weakened (fun _ => by simp) hweakens

theorem weakens_discard {α : Type} {route : Route R α} (hroute : Keeps (Weakens sessionId) route) :
    Keeps (Weakens sessionId) (route >>= fun _ => pure ()) :=
  keeps_bind Weakens.trans hroute fun _ _ after _ => Weakens.refl after

/-- A route that drops its answer ends where the route did. -/
theorem discard_run {α : Type} {route : Route R α}
    (hrun : (route >>= fun _ => pure ()) ctx = (result, ctx')) :
    (∃ a, route ctx = (.ok a, ctx') ∧ result = .ok ()) ∨
      ∃ e, route ctx = (.error e, ctx') ∧ result = .error e := by
  rcases hroute : route ctx with ⟨e | a, after⟩
  · rw [bind_of_error hroute] at hrun
    obtain ⟨rfl, rfl⟩ := Prod.mk.inj hrun
    exact .inr ⟨e, rfl, rfl⟩
  · rw [bind_of_ok hroute] at hrun
    obtain ⟨rfl, rfl⟩ := Prod.mk.inj hrun
    exact .inl ⟨a, rfl, rfl⟩

theorem setupMasterPassword_effect {password : Option String} {fresh : FreshSecrets R}
    (hrun : (AuthRequest.setupMasterPassword password fresh).route sessionId now ctx =
      (result, ctx')) :
    Effect sessionId (.setupMasterPassword password fresh) ctx result ctx' := by
  rcases discard_run hrun with ⟨user, hsetup, rfl⟩ | ⟨e, hsetup, rfl⟩
  · obtain ⟨-, pending, new, users, hnew, rfl, -, rfl⟩ :=
      AuthService.setupMasterPassword_ok hsetup
    exact .established ⟨new, hnew, rfl, rfl⟩ (establishes_stored rfl fun _ _ => rfl)
  · obtain rfl := AuthService.setupMasterPassword_error hsetup
    exact .failed (Weakens.refl _)

theorem changeMasterPassword_effect {currentPassword newPassword : Option String}
    {fresh : FreshSecrets R}
    (hrun : (AuthRequest.changeMasterPassword currentPassword newPassword fresh).route
      sessionId now ctx = (result, ctx')) :
    Effect sessionId (.changeMasterPassword currentPassword newPassword fresh) ctx result ctx' := by
  rcases discard_run hrun with ⟨revoked, hchange, rfl⟩ | ⟨e, hchange, rfl⟩
  · rw [AuthController.changeMasterPassword, bind_ok_iff] at hchange
    obtain ⟨⟨userId, _⟩, admitted, hguard, hchange⟩ := hchange
    obtain ⟨hlogged, -, -, rfl⟩ := unlockedGuard_ok_iff.mp hguard
    obtain ⟨user, current, new, db', hcurrent, hnew, -, rfl⟩ :=
      AuthService.changeMasterPassword_ok hchange
    refine .established ⟨user, current, new, hlogged, hcurrent, hnew, rfl⟩ ?_
    apply establishes_stored
    · exact SessionData.userId_of_loggedInAs hlogged
    · exact fun other hne => UnlockKeyStore.touch_of_ne _ _ _ hne
  · rw [AuthController.changeMasterPassword, bind_error_iff] at hchange
    have hguarded := weakens_unlockedGuard (R := R) sessionId now ctx
    rcases hchange with hguard | ⟨⟨userId, _⟩, admitted, hguard, hchange⟩
    · rw [hguard] at hguarded
      exact .failed hguarded
    · rw [hguard] at hguarded
      obtain rfl := AuthService.changeMasterPassword_error hchange
      exact .failed hguarded

theorem unlock_effect {password : Option String}
    (hrun : (AuthRequest.unlock password).route sessionId now ctx = (result, ctx')) :
    Effect sessionId (.unlock password) ctx result ctx' := by
  change AuthController.unlock sessionId now password ctx = _ at hrun
  rw [AuthController.unlock] at hrun
  rcases result with e | ⟨⟩
  · rw [bind_error_iff] at hrun
    have hguarded := weakens_loggedInGuard (R := R) sessionId ctx
    rcases hrun with hguard | ⟨userId, _, hguard, hunlock⟩
    · rw [hguard] at hguarded
      exact .failed hguarded
    · obtain ⟨-, rfl⟩ := loggedInGuard_ok_iff.mp hguard
      obtain rfl := AuthService.unlock_error hunlock
      exact .failed (Weakens.refl _)
  · rw [bind_ok_iff] at hrun
    obtain ⟨userId, _, hguard, hunlock⟩ := hrun
    obtain ⟨hlogged, rfl⟩ := loggedInGuard_ok_iff.mp hguard
    obtain ⟨user, current, hfound, hsome, hverify, rfl⟩ := AuthService.unlock_ok_iff.mp hunlock
    refine .established ⟨user, current, hlogged, ⟨hfound, hsome, hverify⟩, rfl⟩ ?_
    exact establishes_stored (SessionData.userId_of_loggedInAs hlogged) fun _ _ => rfl

theorem takeChallenge_ok_iff {missing : Exception} {challenge : String} :
    AuthController.takeChallenge missing ctx = (.ok challenge, ctx') ↔
      (ctx.session.currentWebauthnChallenge = some challenge ∧ challenge ≠ "") ∧
        ctx' = ctx.withSession fun session =>
          { session with currentWebauthnChallenge := none } := by
  rw [AuthController.takeChallenge, state_bind, bind_ok_iff]
  simp only [expect_ok_iff, Option.filter_eq_some_iff, decide_eq_true_eq]
  constructor
  · rintro ⟨_, _, ⟨hchallenge, rfl⟩, hrun⟩
    obtain ⟨hok, rfl⟩ := Prod.mk.inj hrun
    obtain rfl := Except.ok.inj hok
    exact ⟨hchallenge, rfl⟩
  · rintro ⟨hchallenge, rfl⟩
    exact ⟨challenge, ctx, ⟨hchallenge, rfl⟩, rfl⟩

theorem webauthnAuthenticate_effect {response : AuthenticationResponse}
    {password : Option String}
    (hrun : (AuthRequest.webauthnAuthenticate response password).route sessionId now ctx =
      (result, ctx')) :
    Effect sessionId (.webauthnAuthenticate response password) ctx result ctx' := by
  change AuthController.webauthnAuthenticate sessionId now response password ctx = _ at hrun
  rw [AuthController.webauthnAuthenticate] at hrun
  have htaken := (weakens_steps (R := R) sessionId now).takeChallenge
    (.unauthorized "먼저 authenticate-options를 호출해주세요.") ctx
  rcases hchallenge : AuthController.takeChallenge
    (.unauthorized "먼저 authenticate-options를 호출해주세요.") ctx with ⟨e | challenge, taken⟩
  · rw [bind_of_error hchallenge] at hrun
    rw [hchallenge] at htaken
    obtain ⟨rfl, rfl⟩ := Prod.mk.inj hrun
    exact .failed htaken
  rw [bind_of_ok hchallenge] at hrun
  rw [hchallenge] at htaken
  obtain ⟨⟨hsome, hnonempty⟩, rfl⟩ := takeChallenge_ok_iff.mp hchallenge
  rcases hverify : onDatabase (WebAuthnService.verifyAuthentication now challenge response)
    (ctx.withSession fun session => { session with currentWebauthnChallenge := none })
    with ⟨e | device, asserted⟩
  · rw [bind_of_error hverify] at hrun
    obtain ⟨_, hquery, rfl⟩ := onDatabase_run.mp hverify
    obtain rfl := WebAuthnService.verifyAuthentication_error hquery
    obtain ⟨rfl, rfl⟩ := Prod.mk.inj hrun
    exact .failed htaken
  rw [bind_of_ok hverify, modify_bind] at hrun
  obtain ⟨_, hquery, rfl⟩ := onDatabase_run.mp hverify
  obtain ⟨hfind, counter, hanswer, rfl⟩ := WebAuthnService.verifyAuthentication_ok hquery
  have hasserts : Asserts ctx response device :=
    ⟨challenge, counter, hsome, hnonempty, hfind, hanswer⟩
  rcases result with e | ⟨⟩
  · have hwrong := AuthService.not_currentPassword_of_unlock_error hrun
    obtain rfl := AuthService.unlock_error hrun
    exact .switched rfl hasserts hwrong rfl rfl rfl
  · obtain ⟨user, current, hfound, hpassword, hverified, rfl⟩ := AuthService.unlock_ok_iff.mp hrun
    refine .established ⟨device, user, current, hasserts, rfl, ⟨hfound, hpassword, hverified⟩, rfl⟩ ?_
    exact establishes_stored rfl fun _ _ => rfl

/-- Every route under `/auth` has one of the three effects. -/
theorem route_effect (request : AuthRequest R)
    (hrun : request.route sessionId now ctx = (result, ctx')) :
    Effect sessionId request ctx result ctx' := by
  cases request with
  | setupMasterPassword password fresh => exact setupMasterPassword_effect hrun
  | changeMasterPassword currentPassword newPassword fresh =>
      exact changeMasterPassword_effect hrun
  | unlock password => exact unlock_effect hrun
  | webauthnAuthenticate response password => exact webauthnAuthenticate_effect hrun
  | googleCallback oauthState profile =>
      refine effect_of_keeps rfl (weakens_discard ?_) hrun
      apply keeps_recover Weakens.trans
      · apply keeps_bind Weakens.trans (weakens_handleGoogleCallback sessionId oauthState profile)
        intro status _ after _
        cases status <;> exact Weakens.refl after
      · exact fun e => keeps_pure Weakens.refl _
  | logout => exact effect_of_keeps rfl (weakens_logout sessionId) hrun
  | googleStart | lock | me | settings | updateAutoLockMinutes | webauthnDevices
  | webauthnRegisterOptions | webauthnRegister | webauthnAuthenticateOptions | webauthnRemove =>
      exact effect_of_keeps rfl ((weakens_steps sessionId now).route rfl) hrun

end Effects

end MyAccountController
