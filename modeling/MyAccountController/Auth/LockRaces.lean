import MyAccountController.Auth.RequestTurns
import MyAccountController.Auth.SessionEffect
import MyAccountController.Common.SymbolicRuntime

/-! # Locking a session while it is being unlocked

The requests of one session take turns. Each has its own copy of the session,
loaded when it begins and written back as a whole when its response ends, if it
was modified. A request that began before a lock can store its key after it, and
one that began before a logout can write the session back.
-/

namespace MyAccountController

open Foundation

variable {R : Runtime}

/-- The requests of the session. -/
inductive SessionRequest (R : Runtime) where
  | unlock (password : Option String)
  | webauthnAuthenticate (response : AuthenticationResponse) (password : Option String)
  | changeMasterPassword (currentPassword newPassword : Option String) (fresh : FreshSecrets R)
  | lock
  | logout

/-- Where the handler of a request is. -/
inductive SessionStage (R : Runtime) where
  /-- The session has been loaded and the handler is next. -/
  | arrived (request : SessionRequest R)
  | unlocking (password : Option String) (phase : UnlockPhase)
  | authenticating (response : AuthenticationResponse) (password : Option String)
      (phase : AuthenticatePhase)
  | changing (userId : String) (currentPassword newPassword : Option String)
      (fresh : FreshSecrets R) (phase : ChangePhase R)

namespace SessionStage

/-- The guard and the first part of the handler, or its next turn. -/
def turn (sessionId : String) (now : Int) : SessionStage R → Route R (Option (SessionStage R))
  | .arrived (.unlock password) => do
      let userId ← loggedInGuard
      pure (some (.unlocking password (.findUser userId)))
  | .arrived (.webauthnAuthenticate response password) => do
      let expectedChallenge ← AuthController.takeChallenge
        (.unauthorized "먼저 authenticate-options를 호출해주세요.")
      pure (some (.authenticating response password (.findDevice expectedChallenge)))
  | .arrived (.changeMasterPassword currentPassword newPassword fresh) => do
      let (userId, _) ← unlockedGuard sessionId now
      pure (some (.changing userId currentPassword newPassword fresh .findUser))
  | .arrived .lock => do
      AuthController.lock sessionId
      pure none
  | .arrived .logout => do
      AuthController.logout sessionId
      pure none
  | .unlocking password phase => do
      let next ← phase.turn sessionId now password
      pure (next.map (.unlocking password))
  | .authenticating response password phase => do
      let next ← phase.turn sessionId now response password
      pure (next.map (.authenticating response password))
  | .changing userId currentPassword newPassword fresh phase => do
      let next ← phase.turn sessionId now userId currentPassword newPassword fresh
      pure (next.map (.changing userId currentPassword newPassword fresh))

/-- The next turn puts a key into the store. -/
def storesKey : SessionStage R → Bool
  | .unlocking _ (.derivingKey _ _) => true
  | .authenticating _ _ (.unlocking (.derivingKey _ _)) => true
  | .changing _ _ _ _ (.committed _ _) => true
  | _ => false

/-- The handler is past the guard of `changeMasterPassword`. -/
def isChange : SessionStage R → Bool
  | .changing _ _ _ _ _ => true
  | _ => false

end SessionStage

/-- What a request is doing. -/
inductive SessionWork (R : Runtime) where
  | handling (stage : SessionStage R)
  /-- The response ends and the session is saved next. -/
  | ending
  | returned

/-- A request with its copy of the session. The counts of the locks and logouts
at its beginning are not read by the program. -/
structure SessionTask (R : Runtime) where
  work : SessionWork R
  loaded : SessionData
  session : SessionData
  locksBefore : Nat
  logoutsBefore : Nat

/-- The database, the key store and the stored session. The last three fields
are not read by the program: how many locks and logouts have dropped the key,
how many of them were logouts, and whether no unlock that began after the last
of them has succeeded since. -/
structure SessionState (R : Runtime) where
  db : Database
  keys : UnlockKeyStore R.Key
  stored : Option SessionData
  locks : Nat := 0
  logouts : Nat := 0
  lockedOut : Bool := false

/-- What starts: a request of the session, or a write of other requests. -/
inductive SessionStart (R : Runtime) where
  | request (request : SessionRequest R)
  | otherRequest (db : Database)

namespace SessionState

/-- A request with the id of a stored session begins. Without a stored session
the request gets a session of another id. -/
def start : SessionStart R → SessionState R → SessionState R × Option (SessionTask R)
  | .request request, state =>
      (state, state.stored.map fun session =>
        { work := .handling (.arrived request), loaded := session, session
          locksBefore := state.locks, logoutsBefore := state.logouts })
  | .otherRequest db, state => ({ state with db }, none)

/-- What the end of a stage means for the lock. -/
def record (task : SessionTask R) (stage : SessionStage R) (state : SessionState R) :
    SessionState R :=
  match stage with
  | .arrived .lock => { state with locks := state.locks + 1, lockedOut := true }
  | .arrived .logout =>
      -- `req.session.destroy` also removes the stored session.
      { state with stored := none, locks := state.locks + 1, logouts := state.logouts + 1,
                   lockedOut := true }
  | .unlocking _ _ | .authenticating _ _ _ =>
      { state with lockedOut := state.lockedOut && decide (task.locksBefore < state.locks) }
  | _ => state

/-- What a request does after its handler has ended. -/
def afterHandler : SessionStage R → SessionWork R
  | .arrived .logout => .returned
  | _ => .ending

/-- One turn of a request. -/
def turn (sessionId : String) (now : Int) (state : SessionState R) (task : SessionTask R) :
    SessionState R × SessionTask R :=
  match task.work with
  | .handling stage =>
      match stage.turn sessionId now ⟨state.db, state.keys, task.session⟩ with
      | (.ok (some next), ctx) =>
          ({ state with db := ctx.db, keys := ctx.keys },
            { task with work := .handling next, session := ctx.session })
      | (.ok none, ctx) =>
          (record task stage { state with db := ctx.db, keys := ctx.keys },
            { task with work := afterHandler stage, session := ctx.session })
      | (.error _, ctx) =>
          ({ state with db := ctx.db, keys := ctx.keys },
            { task with work := .ending, session := ctx.session })
  | .ending =>
      (if task.session = task.loaded then state else { state with stored := some task.session },
        { task with work := .returned })
  | .returned => (state, task)

/-- The lock holds: after a lock or logout there is no key, the guard rejects
the session, and after a logout the session is not logged in. -/
structure LockHolds (sessionId : String) (state : SessionState R) : Prop where
  noKey : state.lockedOut = true → state.keys sessionId = none
  rejected : state.lockedOut = true → ∀ session ∈ state.stored, ∀ now admitted ctx,
    unlockedGuard sessionId now ⟨state.db, state.keys, session⟩ ≠ (.ok admitted, ctx)
  loggedOut : 0 < state.logouts → ∀ session ∈ state.stored, session.loggedInAs = none

/-- No lock or logout has intervened since the request began, when it stores a
key, and no logout, when it writes the session back. -/
def InTime (_now : Int) (state : SessionState R) (task : SessionTask R) : Prop :=
  match task.work with
  | .handling stage => stage.storesKey = true → task.locksBefore = state.locks
  | .ending => task.session ≠ task.loaded → task.logoutsBefore = state.logouts
  | .returned => True

instance (now : Int) (state : SessionState R) :
    ∀ task : SessionTask R, Decidable (InTime now state task)
  | ⟨.handling stage, _, _, locksBefore, _⟩ =>
      inferInstanceAs (Decidable (stage.storesKey = true → locksBefore = state.locks))
  | ⟨.ending, loaded, session, _, logoutsBefore⟩ =>
      inferInstanceAs (Decidable (session ≠ loaded → logoutsBefore = state.logouts))
  | ⟨.returned, _, _, _, _⟩ => isTrue trivial

end SessionState

/-! ## What a turn does to the key store -/

section Keys

variable {sessionId : String} {now : Int}

theorem UnlockPhase.turn_keys {password : Option String} {phase : UnlockPhase} {ctx : Context R}
    (hphase : ∀ user current, phase ≠ .derivingKey user current) :
    (phase.turn sessionId now password ctx).2.keys = ctx.keys := by
  cases phase with
  | findUser userId => rfl
  | userFound found => cases found <;> rfl
  | verifying user =>
      cases password with
      | none => rfl
      | some current =>
          rw [UnlockPhase.turn, Handler.expect_some_bind, Handler.ensure_bind]
          split <;> rfl
  | derivingKey user current => exact absurd rfl (hphase user current)

theorem AuthenticatePhase.turn_keys {response : AuthenticationResponse}
    {password : Option String} {phase : AuthenticatePhase} {ctx : Context R}
    (hphase : ∀ user current, phase ≠ .unlocking (.derivingKey user current)) :
    (phase.turn sessionId now response password ctx).2.keys = ctx.keys := by
  cases phase with
  | findDevice challenge => rfl
  | deviceFound challenge found => cases found <;> rfl
  | asserting challenge device => rw [AuthenticatePhase.turn, Handler.bind_pure_state]; rfl
  | countUse device counter => rw [AuthenticatePhase.turn, Handler.bind_pure_state]; rfl
  | useCounted device => rfl
  | unlocking phase =>
      rw [AuthenticatePhase.turn, Handler.bind_pure_state]
      apply UnlockPhase.turn_keys
      exact fun user current heq => hphase user current (by rw [heq])

theorem ChangePhase.turn_keys {userId : String} {currentPassword newPassword : Option String}
    {fresh : FreshSecrets R} {phase : ChangePhase R} {ctx : Context R}
    (hphase : ∀ user newKey, phase ≠ .committed user newKey) :
    (phase.turn sessionId now userId currentPassword newPassword fresh ctx).2.keys = ctx.keys := by
  cases phase with
  | findUser => rfl
  | userFound found => cases found <;> rfl
  | verifying user =>
      cases currentPassword with
      | none => rfl
      | some current =>
          rw [ChangePhase.turn, Handler.expect_some_bind, Handler.ensure_bind]
          split
          · rw [Handler.bind_pure_state]
            cases newPassword with
            | none => rfl
            | some new =>
                rw [AuthService.newMasterPassword, Handler.expect_some_bind, Handler.ensure_bind]
                split <;> rfl
          · rfl
  | derivingOldKey user current new => rfl
  | derivingNewKey user oldKey new => rfl
  | findAccounts user oldKey newKey newHash => rfl
  | transaction user oldKey newKey newHash accounts =>
      rw [ChangePhase.turn, Handler.bind_pure_state]
      rfl
  | committed user newKey => exact absurd rfl (hphase user newKey)

/-- A turn that stores no key makes none appear. -/
theorem SessionStage.turn_noKey {stage : SessionStage R} {ctx : Context R}
    (hstage : stage.storesKey = false) (hnone : ctx.keys sessionId = none) :
    (stage.turn sessionId now ctx).2.keys sessionId = none := by
  -- What runs here renews or deletes the entry of the session, and there is none to renew.
  have hweakens : ∀ {ctx' : Context R}, Weakens sessionId ctx ctx' →
      ctx'.keys sessionId = none := by
    intro ctx' h
    cases hentry : ctx'.keys sessionId with
    | none => rfl
    | some entry =>
        obtain ⟨before, hbefore, -⟩ := h.key entry hentry
        rw [hnone] at hbefore
        contradiction
  cases stage with
  | arrived request =>
      cases request with
      | unlock password =>
          rw [SessionStage.turn, Handler.bind_pure_state]
          exact hweakens (weakens_loggedInGuard sessionId ctx)
      | webauthnAuthenticate response password =>
          rw [SessionStage.turn, Handler.bind_pure_state]
          exact hweakens ((weakens_steps sessionId now).takeChallenge _ ctx)
      | changeMasterPassword currentPassword newPassword fresh =>
          rw [SessionStage.turn, Handler.bind_pure_state]
          exact hweakens (weakens_unlockedGuard sessionId now ctx)
      | lock =>
          rw [SessionStage.turn, Handler.bind_pure_state]
          have hlock : Handler.Keeps (Weakens sessionId)
              ((AuthRequest.lock (R := R)).route sessionId now) :=
            (weakens_steps sessionId now).route rfl
          exact hweakens (hlock ctx)
      | logout =>
          rw [SessionStage.turn, Handler.bind_pure_state]
          exact hweakens (weakens_logout sessionId ctx)
  | unlocking password phase =>
      rw [SessionStage.turn, Handler.bind_pure_state, UnlockPhase.turn_keys]
      · exact hnone
      · rintro user current rfl
        contradiction
  | authenticating response password phase =>
      rw [SessionStage.turn, Handler.bind_pure_state, AuthenticatePhase.turn_keys]
      · exact hnone
      · rintro user current rfl
        contradiction
  | changing userId currentPassword newPassword fresh phase =>
      rw [SessionStage.turn, Handler.bind_pure_state, ChangePhase.turn_keys]
      · exact hnone
      · rintro user newKey rfl
        contradiction

/-- A change only gets past its guard while there is a key. -/
theorem SessionStage.turn_isChange {stage next : SessionStage R} {ctx ctx' : Context R}
    (hturn : stage.turn sessionId now ctx = (.ok (some next), ctx')) (hnext : next.isChange = true) :
    stage.isChange = true ∨ ctx.keys sessionId ≠ none := by
  -- Every other turn ends, or answers a stage of another request.
  have hother : ∀ {α : Type} {x : Route R α} {f : α → Option (SessionStage R)},
      (∀ a, ∀ other ∈ f a, other.isChange = false) →
        (x >>= fun a => pure (f a)) ctx ≠ (.ok (some next), ctx') := by
    intro α x f hf heq
    obtain ⟨a, _, -, hpure⟩ := Handler.bind_ok_iff.mp heq
    have hsome : f a = some next := Except.ok.inj (Prod.mk.inj hpure).1
    have hfalse := hf a next hsome
    rw [hnext] at hfalse
    contradiction
  cases stage with
  | arrived request =>
      cases request with
      | changeMasterPassword currentPassword newPassword fresh =>
          obtain ⟨⟨userId, key⟩, _, hguard, -⟩ := Handler.bind_ok_iff.mp hturn
          obtain ⟨-, -, hkey, -⟩ := unlockedGuard_ok_iff.mp hguard
          obtain ⟨entry, hentry, -⟩ := UnlockKeyStore.touch_key _ _ _ hkey
          exact .inr (by rw [hentry]; simp)
      | unlock password => exact absurd hturn (hother (by simp [SessionStage.isChange]))
      | webauthnAuthenticate response password =>
          exact absurd hturn (hother (by simp [SessionStage.isChange]))
      | lock => exact absurd hturn (hother (by simp))
      | logout => exact absurd hturn (hother (by simp))
  | changing userId currentPassword newPassword fresh phase => exact .inl rfl
  | unlocking password phase => exact absurd hturn (hother (by simp [SessionStage.isChange]))
  | authenticating response password phase =>
      exact absurd hturn (hother (by simp [SessionStage.isChange]))

theorem SessionStage.turn_of_storesKey {stage : SessionStage R} {ctx : Context R}
    (hstage : stage.storesKey = true) :
    ∃ ctx', stage.turn sessionId now ctx = (.ok none, ctx') := by
  cases stage with
  | arrived request => contradiction
  | unlocking password phase =>
      cases phase with
      | derivingKey user current => exact ⟨_, rfl⟩
      | _ => contradiction
  | authenticating response password phase =>
      cases phase with
      | unlocking phase =>
          cases phase with
          | derivingKey user current => exact ⟨_, rfl⟩
          | _ => contradiction
      | _ => contradiction
  | changing userId currentPassword newPassword fresh phase =>
      cases phase with
      | committed user newKey => exact ⟨_, rfl⟩
      | _ => contradiction

/-- A lock that succeeds drops the key. -/
theorem lock_noKey {ctx ctx' : Context R} {answer : Option (SessionStage R)}
    (hturn : (SessionStage.arrived .lock).turn sessionId now ctx = (.ok answer, ctx')) :
    ctx'.keys sessionId = none := by
  obtain ⟨_, _, hlock, hpure⟩ := Handler.bind_ok_iff.mp hturn
  obtain ⟨-, rfl⟩ := Prod.mk.inj hpure
  obtain ⟨_, _, -, hdelete⟩ := Handler.bind_ok_iff.mp hlock
  obtain ⟨-, rfl⟩ := Prod.mk.inj hdelete
  exact UnlockKeyStore.delete_self _ _

theorem logout_noKey {ctx ctx' : Context R} {answer : Option (SessionStage R)}
    (hturn : (SessionStage.arrived .logout).turn sessionId now ctx = (.ok answer, ctx')) :
    ctx'.keys sessionId = none := by
  obtain ⟨-, rfl⟩ := Prod.mk.inj hturn
  exact UnlockKeyStore.delete_self _ _

end Keys

/-! ## The invariant -/

namespace SessionState

/-- What holds of the shared state between turns. -/
structure LockInvariant (sessionId : String) (state : SessionState R) : Prop where
  noKey : state.lockedOut = true → state.keys sessionId = none
  noSession : 0 < state.logouts → state.stored = none

/-- What holds of each request: it began at most as late as now, before any
logout, and a change that no lock has overtaken still finds the session
unlocked. -/
structure Tracked (state : SessionState R) (task : SessionTask R) : Prop where
  locks : task.locksBefore ≤ state.locks
  logouts : task.logoutsBefore ≤ state.logouts
  beforeLogout : 0 < state.logouts → task.logoutsBefore < state.logouts
  change : ∀ stage, task.work = .handling stage → stage.isChange = true →
    task.locksBefore = state.locks → state.lockedOut = false

/-- The counts of locks and logouts do not fall, and a lock counts. -/
def Advances (state state' : SessionState R) : Prop :=
  (state'.locks = state.locks ∧ state'.logouts = state.logouts ∧
    (state.lockedOut = false → state'.lockedOut = false)) ∨
  (state'.locks = state.locks + 1 ∧
    (state'.logouts = state.logouts ∨ state'.logouts = state.logouts + 1))

theorem Tracked.advance {state state' : SessionState R} {task : SessionTask R}
    (htracked : Tracked state task) (hadvances : Advances state state') :
    Tracked state' task := by
  obtain ⟨hlocks, hlogouts, hbefore, hchange⟩ := htracked
  rcases hadvances with ⟨hsame, hsame', hlocked⟩ | ⟨hmore, hcount⟩
  · refine ⟨by omega, by omega, by omega, fun stage hwork hstage heq => ?_⟩
    exact hlocked (hchange stage hwork hstage (by omega))
  · refine ⟨by omega, by omega, by omega, fun stage hwork hstage heq => ?_⟩
    omega

variable {sessionId : String} {now : Int} {state : SessionState R} {task : SessionTask R}

theorem record_advances (stage : SessionStage R) : Advances state (record task stage state) := by
  cases stage with
  | arrived request =>
      cases request with
      | lock => exact .inr ⟨rfl, .inl rfl⟩
      | logout => exact .inr ⟨rfl, .inr rfl⟩
      | _ => exact .inl ⟨rfl, rfl, id⟩
  | unlocking password phase =>
      exact .inl ⟨rfl, rfl, fun h => by simp [record, h]⟩
  | authenticating response password phase =>
      exact .inl ⟨rfl, rfl, fun h => by simp [record, h]⟩
  | changing userId currentPassword newPassword fresh phase => exact .inl ⟨rfl, rfl, id⟩

theorem turn_advances : Advances state (turn sessionId now state task).1 := by
  unfold turn
  split
  next stage hwork =>
    split
    · exact .inl ⟨rfl, rfl, id⟩
    next next' ctx hturn =>
      exact record_advances stage
    · exact .inl ⟨rfl, rfl, id⟩
  next =>
    split
    · exact .inl ⟨rfl, rfl, id⟩
    · exact .inl ⟨rfl, rfl, id⟩
  next => exact .inl ⟨rfl, rfl, id⟩

/-- After a lock, a turn that stores no key leaves none. -/
theorem LockInvariant.noKey_turn {stage : SessionStage R} {session : SessionData}
    {ctx : Context R} {result : Except Exception (Option (SessionStage R))}
    (hinvariant : LockInvariant sessionId state) (hstage : stage.storesKey = false)
    (hlocked : state.lockedOut = true)
    (hturn : stage.turn sessionId now ⟨state.db, state.keys, session⟩ = (result, ctx)) :
    ctx.keys sessionId = none := by
  have hnone : (stage.turn sessionId now ⟨state.db, state.keys, session⟩).2.keys sessionId =
      none := stage.turn_noKey hstage (hinvariant.noKey hlocked)
  rwa [hturn] at hnone

/-- The end of a handler keeps the invariant. -/
theorem record_invariant {stage : SessionStage R} {ctx : Context R}
    (hinvariant : LockInvariant sessionId state) (htracked : Tracked state task)
    (hwork : task.work = .handling stage)
    (hintime : stage.storesKey = true → task.locksBefore = state.locks)
    (hturn : stage.turn sessionId now ⟨state.db, state.keys, task.session⟩ = (.ok none, ctx)) :
    LockInvariant sessionId
      (record task stage { state with db := ctx.db, keys := ctx.keys }) := by
  have hkept : stage.storesKey = false → state.lockedOut = true → ctx.keys sessionId = none :=
    fun hstage hlocked => hinvariant.noKey_turn hstage hlocked hturn
  -- An unlock that stores a key in time lifts the lock.
  have hlifted : stage.storesKey = true →
      (state.lockedOut && decide (task.locksBefore < state.locks)) = false := by
    intro hstage
    simp [hintime hstage]
  cases stage with
  | arrived request =>
      cases request with
      | lock => exact ⟨fun _ => lock_noKey hturn, hinvariant.noSession⟩
      | logout => exact ⟨fun _ => logout_noKey hturn, fun _ => rfl⟩
      | _ => exact ⟨hkept rfl, hinvariant.noSession⟩
  | changing userId currentPassword newPassword fresh phase =>
      refine ⟨fun hlocked => ?_, hinvariant.noSession⟩
      cases hstage : SessionStage.storesKey
          (.changing userId currentPassword newPassword fresh phase) with
      | false => exact hkept hstage hlocked
      | true =>
          have hopen := htracked.change _ hwork rfl (hintime hstage)
          rw [show state.lockedOut = true from hlocked] at hopen
          contradiction
  | unlocking password phase =>
      refine ⟨fun hlocked => ?_, hinvariant.noSession⟩
      cases hstage : SessionStage.storesKey (R := R) (.unlocking password phase) with
      | false => exact hkept hstage (Bool.and_eq_true_iff.mp hlocked).1
      | true => exact absurd (hlocked.symm.trans (hlifted hstage)) (by decide)
  | authenticating response password phase =>
      refine ⟨fun hlocked => ?_, hinvariant.noSession⟩
      cases hstage : SessionStage.storesKey (R := R) (.authenticating response password phase) with
      | false => exact hkept hstage (Bool.and_eq_true_iff.mp hlocked).1
      | true => exact absurd (hlocked.symm.trans (hlifted hstage)) (by decide)

/-- A turn that does not end the handler with success stores no key. -/
theorem unfinished_invariant {stage : SessionStage R} {ctx : Context R}
    {result : Except Exception (Option (SessionStage R))}
    (hinvariant : LockInvariant sessionId state) (hresult : result ≠ .ok none)
    (hturn : stage.turn sessionId now ⟨state.db, state.keys, task.session⟩ = (result, ctx)) :
    LockInvariant sessionId { state with db := ctx.db, keys := ctx.keys } := by
  refine ⟨fun hlocked => ?_, hinvariant.noSession⟩
  cases hstage : stage.storesKey with
  | false => exact hinvariant.noKey_turn hstage hlocked hturn
  | true =>
      obtain ⟨ctx', hends⟩ : ∃ ctx', stage.turn sessionId now
          ⟨state.db, state.keys, task.session⟩ = (.ok none, ctx') :=
        stage.turn_of_storesKey hstage
      exact absurd (congrArg Prod.fst (hturn.symm.trans hends)) hresult

theorem turn_invariant (hinvariant : LockInvariant sessionId state)
    (htracked : Tracked state task) (hintime : InTime now state task) :
    LockInvariant sessionId (turn sessionId now state task).1 := by
  unfold turn
  unfold InTime at hintime
  split
  next stage hwork =>
    simp only [hwork] at hintime
    split
    next next' ctx hturn => exact unfinished_invariant hinvariant (by simp) hturn
    next ctx hturn => exact record_invariant hinvariant htracked hwork hintime hturn
    next e ctx hturn => exact unfinished_invariant hinvariant (by simp) hturn
  next hwork =>
    simp only [hwork] at hintime
    split
    · exact hinvariant
    next hmodified =>
      refine ⟨hinvariant.noKey, fun hlogouts => ?_⟩
      have hbefore := htracked.beforeLogout hlogouts
      have hnow := hintime hmodified
      omega
  next => exact hinvariant

/-- A request stays tracked when its work changes, once a change it now
handles is known to find the session unlocked. -/
theorem Tracked.carry {task' : SessionTask R} (htracked : Tracked state task)
    (hlocks : task'.locksBefore = task.locksBefore)
    (hlogouts : task'.logoutsBefore = task.logoutsBefore)
    (hchange : ∀ stage, task'.work = .handling stage → stage.isChange = true →
      task.locksBefore = state.locks → state.lockedOut = false) :
    Tracked state task' where
  locks := by
    rw [hlocks]
    exact htracked.locks
  logouts := by
    rw [hlogouts]
    exact htracked.logouts
  beforeLogout := by
    rw [hlogouts]
    exact htracked.beforeLogout
  change := by
    rw [hlocks]
    exact hchange

/-- The request that takes the turn stays tracked. -/
theorem turn_tracked (hinvariant : LockInvariant sessionId state) (htracked : Tracked state task) :
    Tracked (turn sessionId now state task).1 (turn sessionId now state task).2 := by
  have hadvances : Advances state (turn sessionId now state task).1 := turn_advances
  have hadvanced := htracked.advance hadvances
  unfold turn at hadvanced ⊢
  split at hadvanced
  next stage hwork =>
    split at hadvanced
    next next' ctx hturn =>
      refine hadvanced.carry rfl rfl ?_
      rintro _ ⟨⟩ hnext hlocks
      show state.lockedOut = false
      rcases SessionStage.turn_isChange hturn hnext with hstage | hkey
      · exact htracked.change stage hwork hstage hlocks
      · by_contra hlocked
        exact hkey (hinvariant.noKey (by simpa using hlocked))
    next ctx hturn =>
      refine hadvanced.carry rfl rfl ?_
      intro next' hnext
      unfold afterHandler at hnext
      split at hnext <;> contradiction
    next e ctx hturn =>
      exact hadvanced.carry rfl rfl (by simp)
  next hwork =>
    exact hadvanced.carry rfl rfl (by simp)
  next hwork =>
    exact htracked

theorem lock_stable (sessionId : String) :
    Pool.Stable (start (R := R)) (turn sessionId) InTime (LockInvariant sessionId) Tracked where
  start_invariant := by
    intro what state hinvariant
    cases what with
    | request request => exact hinvariant
    | otherRequest db => exact ⟨hinvariant.noKey, hinvariant.noSession⟩
  start_own := by
    intro what state hinvariant task htask
    cases what with
    | otherRequest db => contradiction
    | request request =>
        obtain ⟨session, hstored, rfl⟩ := Option.map_eq_some_iff.mp htask
        refine ⟨Nat.le_refl _, Nat.le_refl _, fun hlogouts => ?_, ?_⟩
        · -- After a logout there is no session to begin with.
          rw [hinvariant.noSession hlogouts] at hstored
          contradiction
        · rintro _ ⟨⟩ hchange
          contradiction
  start_other := by
    intro what state other _ htracked
    cases what with
    | request request => exact htracked
    | otherRequest db => exact htracked.advance (.inl ⟨rfl, rfl, id⟩)
  turn_invariant := fun _ _ _ => turn_invariant
  turn_own := fun _ _ _ hinvariant htracked _ => turn_tracked hinvariant htracked
  turn_other := fun _ _ _ _ _ _ _ hother => hother.advance turn_advances

/-- The invariant says what a lock promises. -/
theorem LockInvariant.lockHolds (hinvariant : LockInvariant sessionId state) :
    LockHolds sessionId state where
  noKey := hinvariant.noKey
  rejected := by
    rintro hlocked session - now ⟨userId, key⟩ ctx hguard
    obtain ⟨-, -, hkey, -⟩ := unlockedGuard_ok_iff.mp hguard
    obtain ⟨entry, hentry, -⟩ := UnlockKeyStore.touch_key _ _ _ hkey
    exact absurd ((hinvariant.noKey hlocked).symm.trans hentry) (by simp)
  loggedOut := by
    intro hlogouts session hstored
    rw [hinvariant.noSession hlogouts] at hstored
    contradiction

end SessionState

/-- In every interleaving in which no request stores a key after a later lock or
writes the session back after a later logout, the lock holds. -/
theorem lockHolds_of_inTime (sessionId : String) (db : Database) (keys : UnlockKeyStore R.Key)
    (stored : Option SessionData) (moves : List (Move (SessionStart R) Int))
    (hintime : Along (Pool.step SessionState.start (SessionState.turn sessionId))
      (Pool.TurnMeets SessionState.InTime) ⟨{ db, keys, stored }, []⟩ moves) :
    SessionState.LockHolds sessionId
      (run (Pool.step SessionState.start (SessionState.turn sessionId)) ⟨{ db, keys, stored }, []⟩
        moves).shared := by
  have hinit : Pool.Holds (SessionState.LockInvariant sessionId) SessionState.Tracked
      ⟨({ db, keys, stored } : SessionState R), []⟩ := by
    refine ⟨⟨fun hlocked => ?_, fun hlogouts => ?_⟩, fun task htask => absurd htask (by simp)⟩
    · contradiction
    · exact absurd hlogouts (by simp)
  exact ((SessionState.lock_stable sessionId).run hinit hintime).1.lockHolds

/-! ## An unlock that finishes after a lock -/

namespace LateUnlock

def user : User :=
  ⟨"u", "sub", "u@example.com", symbolicRuntime.hashMasterPassword "h" "master-password", "k", 15, 0⟩

def db : Database := { Database.empty with users := ⟨[user], by decide⟩ }

/-- A session that is logged in. -/
def stored : Option SessionData := some { userId := some "u" }

def unlock : Move (SessionStart symbolicRuntime) Int :=
  .start (.request (.unlock (some "master-password")))

/-- The unlock waits for the key while the other request is served. -/
def overtakenBy (request : SessionRequest symbolicRuntime) :
    List (Move (SessionStart symbolicRuntime) Int) :=
  [unlock, .turn 0 1, .turn 0 2, .turn 0 3, .turn 0 4, .start (.request request), .turn 1 5,
    .turn 1 6, .turn 0 7, .turn 0 8]

/-- The other request is served after the unlock. -/
def followedBy (request : SessionRequest symbolicRuntime) :
    List (Move (SessionStart symbolicRuntime) Int) :=
  [unlock, .turn 0 1, .turn 0 2, .turn 0 3, .turn 0 4, .turn 0 5, .turn 0 6,
    .start (.request request), .turn 1 7, .turn 1 8]

def final (moves : List (Move (SessionStart symbolicRuntime) Int)) :
    SessionState symbolicRuntime :=
  (run (Pool.step SessionState.start (SessionState.turn "sid"))
    ⟨{ db, keys := UnlockKeyStore.empty, stored }, []⟩ moves).shared

end LateUnlock

open LateUnlock in
/-- The unlock puts its key into the store after the lock has returned, and
after a logout it also brings the session back. -/
theorem lockHolds_fails :
    ¬ SessionState.LockHolds "sid" (final (overtakenBy .lock)) ∧
      ¬ SessionState.LockHolds "sid" (final (overtakenBy .logout)) := by
  constructor
  · intro hholds
    have hnone := hholds.noKey (by decide +kernel)
    have hsome : ((final (overtakenBy .lock)).keys "sid").isSome = true := by decide +kernel
    rw [hnone] at hsome
    contradiction
  · intro hholds
    have hstored : (final (overtakenBy .logout)).stored =
        some { userId := some "u", unlocked := some true } := by decide +kernel
    have hlogged := hholds.loggedOut (by decide +kernel) _ hstored
    exact absurd hlogged (by decide)

open LateUnlock in
/-- A lock and a logout that follow the unlock hold. -/
theorem lockHolds_of_inTime_example :
    SessionState.LockHolds "sid" (final (followedBy .lock)) ∧
      SessionState.LockHolds "sid" (final (followedBy .logout)) :=
  ⟨lockHolds_of_inTime "sid" db UnlockKeyStore.empty stored _ (by decide +kernel),
    lockHolds_of_inTime "sid" db UnlockKeyStore.empty stored _ (by decide +kernel)⟩

end MyAccountController
