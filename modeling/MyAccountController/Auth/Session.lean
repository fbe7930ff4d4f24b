import MyAccountController.Auth.UnlockKeyStore
import MyAccountController.Prisma.Client

/-! # Sessions and the state of a request

A request works on its own copy of the session, on the database and on the key
store of the process. The guards read the copy and may write it before they
refuse a request.
-/

namespace MyAccountController

open Foundation

structure GoogleProfile where
  sub : String
  email : String
  deriving DecidableEq, Repr

/-- `SessionData` of express-session, as `session.types.ts` extends it. -/
structure SessionData where
  userId : Option String := none
  unlocked : Option Bool := none
  oauthState : Option String := none
  gmailOAuthState : Option String := none
  pendingGoogle : Option GoogleProfile := none
  currentWebauthnChallenge : Option String := none
  deriving DecidableEq, Repr, Inhabited

namespace SessionData

/-- The user id of a session in which `!session.userId` is false. -/
def loggedInAs (session : SessionData) : Option String :=
  session.userId.filter fun id => id ≠ ""

/-- `session.unlocked` as a condition. -/
def isUnlocked (session : SessionData) : Bool := session.unlocked = some true

theorem userId_of_loggedInAs {session : SessionData} {userId : String}
    (hlogged : session.loggedInAs = some userId) : session.userId = some userId := by
  unfold loggedInAs at hlogged
  exact (Option.filter_eq_some_iff.mp hlogged).1

end SessionData

/-- What a route handler reads and writes. -/
@[ext] structure Context (R : Runtime) where
  db : Database
  keys : UnlockKeyStore R.Key
  session : SessionData

/-- A route handler or a service method. -/
abbrev Route (R : Runtime) (α : Type) := Handler Exception (Context R) α

namespace Context

variable {R : Runtime}

def withDb (ctx : Context R) (db : Database) : Context R := { ctx with db }

def withKeys (ctx : Context R) (keys : UnlockKeyStore R.Key) : Context R := { ctx with keys }

def withSession (ctx : Context R) (f : SessionData → SessionData) : Context R :=
  { ctx with session := f ctx.session }

@[simp] theorem withDb_db (ctx : Context R) (db : Database) : (ctx.withDb db).db = db := rfl
@[simp] theorem withDb_keys (ctx : Context R) (db : Database) :
    (ctx.withDb db).keys = ctx.keys := rfl
@[simp] theorem withDb_session (ctx : Context R) (db : Database) :
    (ctx.withDb db).session = ctx.session := rfl
@[simp] theorem withKeys_db (ctx : Context R) (keys : UnlockKeyStore R.Key) :
    (ctx.withKeys keys).db = ctx.db := rfl
@[simp] theorem withKeys_keys (ctx : Context R) (keys : UnlockKeyStore R.Key) :
    (ctx.withKeys keys).keys = keys := rfl
@[simp] theorem withKeys_session (ctx : Context R) (keys : UnlockKeyStore R.Key) :
    (ctx.withKeys keys).session = ctx.session := rfl
@[simp] theorem withSession_db (ctx : Context R) (f : SessionData → SessionData) :
    (ctx.withSession f).db = ctx.db := rfl
@[simp] theorem withSession_keys (ctx : Context R) (f : SessionData → SessionData) :
    (ctx.withSession f).keys = ctx.keys := rfl
@[simp] theorem withSession_session (ctx : Context R) (f : SessionData → SessionData) :
    (ctx.withSession f).session = f ctx.session := rfl

end Context

/-- Run a database method inside a request. -/
def onDatabase {R : Runtime} {α : Type} (query : Query α) : Route R α :=
  Handler.zoom Context.db Context.withDb query

theorem onDatabase_run {R : Runtime} {α : Type} {query : Query α} {ctx ctx' : Context R}
    {result : Except Exception α} : onDatabase query ctx = (result, ctx') ↔
      ∃ db', query ctx.db = (result, db') ∧ ctx' = ctx.withDb db' := by
  rw [onDatabase, Handler.zoom_run, Prod.mk.injEq]
  constructor
  · rintro ⟨hresult, rfl⟩
    exact ⟨_, Prod.ext hresult rfl, rfl⟩
  · rintro ⟨db', hquery, rfl⟩
    rw [hquery]
    exact ⟨rfl, rfl⟩

/-! ## Guards -/

variable {R : Runtime}

/-- `LoggedInGuard`, answering the `CurrentUserId` of the request. -/
def loggedInGuard : Route R String := do
  let ctx ← Handler.state
  Handler.expect ctx.session.loggedInAs (.unauthorized "로그인이 필요합니다.")

/-- The refusal of `UnlockedGuard`, which also clears the flag. -/
def refuseLocked {α : Type} : Route R α := do
  Handler.modify (·.withSession fun session => { session with unlocked := some false })
  Handler.raise (.unauthorized "마스터 비밀번호로 잠금 해제가 필요합니다.")

/-- `UnlockedGuard`, answering the `CurrentUserId` and the `EncryptionKey` of
the request. The entry of the session is touched even when the flag then
refuses the request. -/
def unlockedGuard (sessionId : String) (now : Int) : Route R (String × R.Key) := do
  let userId ← loggedInGuard
  let ctx ← Handler.state
  let touched := ctx.keys.touch sessionId now
  Handler.modify (·.withKeys touched.2)
  match touched.1 with
  | some key => if ctx.session.isUnlocked then pure (userId, key) else refuseLocked
  | none => refuseLocked

theorem loggedInGuard_ok_iff {ctx ctx' : Context R} {userId : String} :
    loggedInGuard ctx = (.ok userId, ctx') ↔
      ctx.session.loggedInAs = some userId ∧ ctx = ctx' := by
  simp [loggedInGuard, and_comm]

/-- The guard admits exactly the sessions that are logged in, flagged unlocked
and hold a live key. -/
theorem unlockedGuard_ok_iff {sessionId : String} {now : Int} {ctx ctx' : Context R}
    {userId : String} {key : R.Key} :
    unlockedGuard sessionId now ctx = (.ok (userId, key), ctx') ↔
      ctx.session.loggedInAs = some userId ∧ ctx.session.isUnlocked = true ∧
        (ctx.keys.touch sessionId now).1 = some key ∧
        ctx' = ctx.withKeys (ctx.keys.touch sessionId now).2 := by
  unfold unlockedGuard
  rw [Handler.bind_ok_iff]
  simp only [loggedInGuard_ok_iff, Handler.bind_run, Handler.state_run, Handler.modify_run]
  constructor
  · rintro ⟨userId', _, ⟨hlogged, rfl⟩, hrun⟩
    cases hkey : (ctx.keys.touch sessionId now).1 with
    | none => simp [hkey, refuseLocked, Handler.bind_run] at hrun
    | some key' =>
        cases hunlocked : ctx.session.isUnlocked with
        | false => simp [hkey, hunlocked, refuseLocked, Handler.bind_run] at hrun
        | true =>
            simp only [hkey, hunlocked, if_true, Handler.pure_run, Prod.mk.injEq,
              Except.ok.injEq] at hrun
            obtain ⟨⟨rfl, rfl⟩, rfl⟩ := hrun
            exact ⟨hlogged, rfl, rfl, rfl⟩
  · rintro ⟨hlogged, hunlocked, hkey, rfl⟩
    refine ⟨userId, ctx, ⟨hlogged, rfl⟩, ?_⟩
    rw [hkey]
    simp [hunlocked]

theorem loggedInGuard_state (ctx : Context R) : (loggedInGuard ctx).2 = ctx := by
  rw [loggedInGuard, Handler.state_bind]
  cases ctx.session.loggedInAs <;> rfl

/-- The guard leaves the database alone. -/
theorem unlockedGuard_db (sessionId : String) (now : Int) (ctx : Context R) :
    (unlockedGuard sessionId now ctx).2.db = ctx.db := by
  rw [unlockedGuard]
  rcases hguard : loggedInGuard ctx with ⟨e | userId, after⟩
  · rw [Handler.bind_of_error hguard]
    have hstate := loggedInGuard_state ctx
    rw [hguard] at hstate
    rw [← hstate]
  · rw [Handler.bind_of_ok hguard, Handler.state_bind, Handler.modify_bind]
    obtain ⟨-, rfl⟩ := loggedInGuard_ok_iff.mp hguard
    cases (ctx.keys.touch sessionId now).1 with
    | none => rfl
    | some key => cases ctx.session.isUnlocked <;> rfl

end MyAccountController
