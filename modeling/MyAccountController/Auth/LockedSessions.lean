import MyAccountController.Auth.KeyProvenance

/-! # Locked sessions have no key

The unlocked flag of a session is stored with it, and the key is in the memory
of the process. Every request that lowers the flag drops the key as well, but
the callback of the app login: it lowers the flag of a user who logs in again
and leaves the entry. `UnlockedGuard` renews such an entry before it refuses.
-/

namespace MyAccountController

open Foundation Handler

variable {R : Runtime}

/-- A request to a route under `/auth`, or to a route behind `UnlockedGuard`
whose service method uses neither the session nor the key store. -/
inductive ServedRequest (R : Runtime) where
  | auth (request : AuthRequest R)
  | guarded (service : String × R.Key → Query Unit)

def ServedRequest.route (sessionId : String) (now : Int) : ServedRequest R → Route R Unit
  | .auth request => request.route sessionId now
  | .guarded service => do
      let admitted ← unlockedGuard sessionId now
      onDatabase (service admitted)

/-- A request of a session at a time. -/
structure ServedCall (R : Runtime) where
  sessionId : String
  now : Int
  request : ServedRequest R

/-- Serve one call. -/
def Server.servedStep (server : Server R) (call : ServedCall R) : Server R :=
  (server.serve call.sessionId (call.request.route call.sessionId call.now)).2

/-- A session whose flag is not set has no entry, and `UnlockedGuard` leaves no
entry with a new `lastActivityAt` behind when it refuses a request. -/
structure LockedWithoutKey (server : Server R) : Prop where
  noEntry : ∀ sessionId, (server.sessions sessionId).isUnlocked = false →
    server.keys sessionId = none
  notRenewed : ∀ sessionId now e ctx',
    unlockedGuard sessionId now (server.context sessionId) = (.error e, ctx') →
      ∀ entry, ctx'.keys sessionId = some entry → server.keys sessionId = some entry

/-- A callback that logs in a user with an account finds no entry of its session. -/
def CallbackFindsNoKey (server : Server R) (call : ServedCall R) : Prop :=
  match call.request with
  | .auth (.googleCallback oauthState (.ok profile)) =>
      oauthState.any (· ≠ "") = true →
        oauthState = (server.sessions call.sessionId).oauthState →
        (server.db.users.rows.find? (·.googleSubId = profile.sub)).isSome = true →
        server.keys call.sessionId = none
  | _ => True

/-! ## What one request preserves -/

/-- The entry of a request's session is covered by its flag. -/
def Covered (sessionId : String) (ctx : Context R) : Prop :=
  ctx.session.isUnlocked = false → ctx.keys sessionId = none

/-- The context stays covered. -/
def StaysCovered (sessionId : String) (ctx ctx' : Context R) : Prop :=
  Covered sessionId ctx → Covered sessionId ctx'

section Routes

variable {α : Type} (sessionId : String) (now : Int)

theorem staysCovered_refl (ctx : Context R) : StaysCovered sessionId ctx ctx := id

theorem staysCovered_trans (a b c : Context R) (hab : StaysCovered sessionId a b)
    (hbc : StaysCovered sessionId b c) : StaysCovered sessionId a c :=
  fun ha => hbc (hab ha)

/-- A session whose flag is set is covered. -/
theorem covered_of_unlocked {ctx : Context R} (hunlocked : ctx.session.unlocked = some true) :
    Covered sessionId ctx := by
  intro hlocked
  rw [SessionData.isUnlocked, hunlocked] at hlocked
  contradiction

/-- What a touch leaves when it returns nothing. -/
theorem touch_leaves_none {ctx : Context R} (hnone : (ctx.keys.touch sessionId now).1 = none) :
    (ctx.keys.touch sessionId now).2 sessionId = none := by
  by_contra hentry
  obtain ⟨entry, hentry⟩ := Option.ne_none_iff_exists'.mp hentry
  have hkey := (UnlockKeyStore.touch_eq_some_iff ctx.keys sessionId now).mpr ⟨entry, hentry, rfl⟩
  exact absurd (hnone.symm.trans hkey) (by simp)

/-- A covered request that the guard refuses has no entry afterwards, unless it
was refused before the touch. -/
theorem unlockedGuard_refused {ctx ctx' : Context R} {e : Exception}
    (hcovered : Covered sessionId ctx)
    (hrun : unlockedGuard sessionId now ctx = (.error e, ctx')) :
    ctx' = ctx ∨ ctx'.keys sessionId = none := by
  rw [unlockedGuard, bind_error_iff] at hrun
  rcases hrun with hguard | ⟨userId, _, hguard, hrun⟩
  · have hstate := loggedInGuard_state ctx
    rw [hguard] at hstate
    exact .inl hstate
  · obtain ⟨-, rfl⟩ := loggedInGuard_ok_iff.mp hguard
    rw [state_bind, modify_bind] at hrun
    refine .inr ?_
    cases hkey : (ctx.keys.touch sessionId now).1 with
    | none =>
        rw [hkey] at hrun
        obtain ⟨-, rfl⟩ := Prod.mk.inj hrun
        exact touch_leaves_none sessionId now hkey
    | some key =>
        rw [hkey] at hrun
        cases hunlocked : ctx.session.isUnlocked with
        | true => simp [hunlocked] at hrun
        | false =>
            -- The flag is down, so the touch found no entry.
            obtain ⟨entry, hentry, -⟩ := UnlockKeyStore.touch_key _ _ _ hkey
            exact absurd (hcovered hunlocked) (by simp [hentry])

theorem staysCovered_unlockedGuard :
    Keeps (StaysCovered sessionId) (unlockedGuard (R := R) sessionId now) := by
  intro ctx hcovered
  rcases hrun : unlockedGuard sessionId now ctx with ⟨e | ⟨userId, key⟩, ctx'⟩
  · rcases unlockedGuard_refused sessionId now hcovered hrun with rfl | hnone
    · exact hcovered
    · exact fun _ => hnone
  · obtain ⟨-, hunlocked, -, rfl⟩ := unlockedGuard_ok_iff.mp hrun
    intro hlocked
    exact absurd (hunlocked.symm.trans hlocked) (by simp)

theorem staysCovered_unlock (userId : String) (password : Option String) :
    Keeps (StaysCovered sessionId) (AuthService.unlock (R := R) sessionId now userId password) := by
  intro ctx hcovered
  rcases hrun : AuthService.unlock sessionId now userId password ctx with ⟨e | ⟨⟩, ctx'⟩
  · obtain rfl := AuthService.unlock_error hrun
    exact hcovered
  · obtain ⟨user, accepted, -, -, -, rfl⟩ := AuthService.unlock_ok_iff.mp hrun
    exact covered_of_unlocked sessionId rfl

theorem staysCovered_setupMasterPassword (password : Option String) (fresh : FreshSecrets R) :
    Keeps (StaysCovered sessionId)
      (AuthService.setupMasterPassword sessionId now password fresh) := by
  intro ctx hcovered
  rcases hrun : AuthService.setupMasterPassword sessionId now password fresh ctx with ⟨e | user, ctx'⟩
  · obtain rfl := AuthService.setupMasterPassword_error hrun
    exact hcovered
  · obtain ⟨-, pending, new, users, -, -, -, rfl⟩ := AuthService.setupMasterPassword_ok hrun
    exact covered_of_unlocked sessionId rfl

theorem staysCovered_changeMasterPassword (userId : String)
    (currentPassword newPassword : Option String) (fresh : FreshSecrets R) :
    Keeps (StaysCovered sessionId) (AuthService.changeMasterPassword sessionId now userId
      currentPassword newPassword fresh) := by
  intro ctx hcovered
  rcases hrun : AuthService.changeMasterPassword sessionId now userId currentPassword newPassword
    fresh ctx with ⟨e | revoked, ctx'⟩
  · obtain rfl := AuthService.changeMasterPassword_error hrun
    exact hcovered
  · obtain ⟨user, current, new, db', -, -, -, rfl⟩ := AuthService.changeMasterPassword_ok hrun
    exact covered_of_unlocked sessionId rfl

theorem staysCovered_checkStillUnlocked :
    Keeps (StaysCovered sessionId) (AuthService.checkStillUnlocked (R := R) sessionId now) := by
  intro ctx
  rw [AuthService.checkStillUnlocked, state_bind]
  cases hunlocked : ctx.session.isUnlocked with
  | false => exact staysCovered_refl sessionId ctx
  | true =>
      rw [if_pos rfl, modify_bind]
      cases hkey : (ctx.keys.touch sessionId now).1 with
      | none => exact fun _ _ => touch_leaves_none sessionId now hkey
      | some key =>
          intro _ hlocked
          exact absurd (hunlocked.symm.trans hlocked) (by simp)

theorem staysCovered_updateAutoLockMinutes (ctx : Context R) (minutes : Int) :
    StaysCovered sessionId ctx
      (ctx.withKeys (ctx.keys.updateAutoLockMinutes sessionId minutes)) := by
  intro hcovered hlocked
  rw [Context.withKeys_keys, UnlockKeyStore.updateAutoLockMinutes_self, hcovered hlocked]
  rfl

/-- The steps of the quiet routes keep a context covered. -/
theorem staysCovered_steps : KeptBySteps (R := R) sessionId now (StaysCovered sessionId) where
  refl := staysCovered_refl sessionId
  trans := staysCovered_trans sessionId
  withDb _ _ := id
  unlockedGuard := staysCovered_unlockedGuard sessionId now
  oauthState _ _ := id
  challenge _ _ := id
  checkStillUnlocked := staysCovered_checkStillUnlocked sessionId now
  updateAutoLockMinutes := staysCovered_updateAutoLockMinutes sessionId
  lock _ _ _ := UnlockKeyStore.delete_self _ _

theorem staysCovered_logout :
    Keeps (StaysCovered sessionId) (AuthController.logout (R := R) sessionId) :=
  fun _ _ _ => UnlockKeyStore.delete_self _ _

/-- The redirect of the callback writes nothing. -/
theorem googleCallback_state (oauthState : Option String)
    (profile : Except Exception GoogleProfile) (ctx : Context R) :
    (AuthController.googleCallback oauthState profile ctx).2 =
      (AuthService.handleGoogleCallback oauthState profile ctx).2 := by
  rw [AuthController.googleCallback, recover, bind_run]
  rcases AuthService.handleGoogleCallback oauthState profile ctx with ⟨e | status, after⟩
  · rfl
  · cases status <;> rfl

/-- The callback keeps a context covered when it logs nobody in over an entry. -/
theorem staysCovered_googleCallback {oauthState : Option String}
    {profile : Except Exception GoogleProfile} {ctx : Context R}
    (hnoKey : ∀ known, profile = .ok known → AuthService.StateMatches ctx.session oauthState →
      (ctx.db.users.rows.find? (·.googleSubId = known.sub)).isSome = true →
        ctx.keys sessionId = none) :
    StaysCovered sessionId ctx (AuthController.googleCallback oauthState profile ctx).2 := by
  intro hcovered
  rw [googleCallback_state]
  rcases hrun : AuthService.handleGoogleCallback oauthState profile ctx with ⟨e | status, ctx'⟩
  · rcases AuthService.handleGoogleCallback_error hrun with rfl | rfl
    · exact hcovered
    · exact hcovered
  · obtain ⟨hmatches, known, rfl, ⟨user, hfind, -, rfl⟩ | ⟨-, -, rfl⟩⟩ :=
      AuthService.handleGoogleCallback_ok_iff.mp hrun
    · exact fun _ => hnoKey known rfl hmatches (by simp [hfind])
    · exact hcovered

/-- Every request keeps its session covered, except a callback that logs a user
in over an entry. -/
theorem staysCovered_route {server : Server R} (call : ServedCall R)
    (hcallback : CallbackFindsNoKey server call) :
    StaysCovered call.sessionId (server.context call.sessionId)
      (call.request.route call.sessionId call.now (server.context call.sessionId)).2 := by
  rcases call with ⟨sessionId, now, request⟩
  have hsteps := staysCovered_steps (R := R) sessionId now
  cases request with
  | guarded service => exact hsteps.behind_guard (fun _ => hsteps.onDatabase _) _
  | auth request =>
      cases request with
      | googleCallback oauthState profile =>
          have hnoKey : ∀ known, profile = .ok known →
              AuthService.StateMatches (server.sessions sessionId) oauthState →
              (server.db.users.rows.find? (·.googleSubId = known.sub)).isSome = true →
              server.keys sessionId = none := by
            rintro known rfl hmatches hsome
            exact hcallback hmatches.1 hmatches.2 hsome
          apply staysCovered_trans sessionId _ _ _ (staysCovered_googleCallback sessionId hnoKey)
          change StaysCovered sessionId _ ((AuthController.googleCallback oauthState profile >>=
            fun _ => pure ()) (server.context sessionId)).2
          rw [bind_pure_state]
          exact staysCovered_refl sessionId _
      | setupMasterPassword password fresh =>
          exact hsteps.discard (staysCovered_setupMasterPassword sessionId now password fresh) _
      | changeMasterPassword currentPassword newPassword fresh =>
          refine hsteps.discard (hsteps.behind_guard fun admitted => ?_) _
          exact staysCovered_changeMasterPassword sessionId now admitted.1 _ _ fresh
      | unlock password =>
          refine hsteps.bind hsteps.loggedInGuard ?_ _
          exact fun userId => staysCovered_unlock sessionId now userId password
      | logout => exact staysCovered_logout sessionId _
      | webauthnAuthenticate response password =>
          refine hsteps.bind (hsteps.takeChallenge _) (fun challenge => ?_) _
          refine hsteps.bind (hsteps.onDatabase _) fun device => ?_
          refine hsteps.bind (fun _ hcovered => hcovered) fun _ => ?_
          exact staysCovered_unlock sessionId now device.userId password
      | googleStart | lock | me | settings | updateAutoLockMinutes | webauthnDevices
      | webauthnRegisterOptions | webauthnRegister | webauthnAuthenticateOptions
      | webauthnRemove => exact hsteps.route rfl _

end Routes

/-! ## Whole runs -/

/-- A request of a session does not touch the entries of the others. -/
theorem servedRoute_otherKeys (request : ServedRequest R) {sessionId other : String} {now : Int}
    {ctx : Context R} (hne : other ≠ sessionId) :
    (request.route sessionId now ctx).2.keys other = ctx.keys other := by
  cases request with
  | guarded service =>
      have hsteps := weakens_steps (R := R) sessionId now
      exact (hsteps.behind_guard (fun _ => hsteps.onDatabase _) ctx).otherKeys other hne
  | auth request =>
      rcases hrun : request.route sessionId now ctx with ⟨result, ctx'⟩
      change (request.route sessionId now ctx).2.keys other = _
      rw [hrun]
      exact effect_otherKeys (route_effect request hrun) hne

/-- Every session is covered. -/
def AllCovered (server : Server R) : Prop :=
  ∀ sessionId, Covered sessionId (server.context sessionId)

theorem allCovered_step (server : Server R) (call : ServedCall R) (hcovered : AllCovered server)
    (hcallback : CallbackFindsNoKey server call) : AllCovered (server.servedStep call) := by
  intro sessionId
  by_cases hsession : sessionId = call.sessionId
  · subst hsession
    have hstays := staysCovered_route call hcallback (hcovered call.sessionId)
    have hcontext : (server.servedStep call).context call.sessionId =
        (call.request.route call.sessionId call.now (server.context call.sessionId)).2 :=
      server.context_save call.sessionId _
    rwa [hcontext]
  · intro hlocked
    have hsame : (server.servedStep call).sessions sessionId = server.sessions sessionId :=
      server.save_session_of_ne call.sessionId _ hsession
    have hkeys : (server.servedStep call).keys sessionId = server.keys sessionId :=
      servedRoute_otherKeys call.request hsession
    rw [Server.context_session, hsame] at hlocked
    rw [Server.context_keys, hkeys]
    exact hcovered sessionId hlocked

theorem lockedWithoutKey_of_covered {server : Server R} (hcovered : AllCovered server) :
    LockedWithoutKey server := by
  refine ⟨hcovered, ?_⟩
  intro sessionId now e ctx' hrefused entry hentry
  rcases unlockedGuard_refused sessionId now (hcovered sessionId) hrefused with rfl | hnone
  · exact hentry
  · exact absurd (hnone.symm.trans hentry) (by simp)

/-- In every run from a process without keys in which no callback logs a user
in over an entry, locked sessions have no key. -/
theorem lockedWithoutKey_of_callbacks (init : Server R) (calls : List (ServedCall R))
    (hinit : init.keys = UnlockKeyStore.empty)
    (hcallbacks : Along Server.servedStep CallbackFindsNoKey init calls) :
    LockedWithoutKey (run Server.servedStep init calls) := by
  apply lockedWithoutKey_of_covered
  refine run_invariant allCovered_step ?_ hcallbacks
  intro sessionId _
  rw [Server.context_keys, hinit]
  rfl

/-! ## A second login in an unlocked session -/

namespace SecondLogin

/-- A login of the first user of `Takeover.server`. -/
def login (start finish : Int) : List (ServedCall symbolicRuntime) :=
  [⟨"sid", start, .auth (.googleStart "state")⟩,
    ⟨"sid", finish, .auth (.googleCallback (some "state") (.ok ⟨"sub-u", "u@example.com"⟩))⟩]

def unlock : ServedCall symbolicRuntime :=
  ⟨"sid", 3, .auth (.unlock (some "user-password"))⟩

end SecondLogin

open SecondLogin in
/-- After a second login the flag is down and the key is still there. -/
theorem lockedWithoutKey_fails : ¬ LockedWithoutKey
    (run Server.servedStep Takeover.server (login 1 2 ++ unlock :: login 4 5)) := by
  intro hlocked
  have hflag : ((run Server.servedStep Takeover.server
      (login 1 2 ++ unlock :: login 4 5)).sessions "sid").isUnlocked = false := by decide +kernel
  have hentry : ((run Server.servedStep Takeover.server
      (login 1 2 ++ unlock :: login 4 5)).keys "sid").isSome = true := by decide +kernel
  rw [hlocked.noEntry "sid" hflag] at hentry
  contradiction

open SecondLogin in
/-- One login and an unlock: the callback finds no key. -/
theorem lockedWithoutKey_of_callbacks_example : LockedWithoutKey
    (run Server.servedStep Takeover.server (login 1 2 ++ [unlock])) := by
  refine lockedWithoutKey_of_callbacks Takeover.server _ rfl ⟨trivial, ?_, trivial, trivial⟩
  intro _ _ _
  rfl

end MyAccountController
