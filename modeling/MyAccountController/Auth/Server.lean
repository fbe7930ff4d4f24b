import MyAccountController.Auth.Session
import MyAccountController.Foundation.Run

/-! # The server process

The process holds the database, the key store and the stored sessions. A
request that runs alone loads its session, runs its route and saves the session
again, also when the route ends with an exception. A session without a stored
entry is the empty session.
-/

namespace MyAccountController

open Foundation

variable {R : Runtime}

/-- The state between requests. -/
@[ext] structure Server (R : Runtime) where
  db : Database
  keys : UnlockKeyStore R.Key
  sessions : String → SessionData

namespace Server

/-- What a request of the session starts from. -/
def context (server : Server R) (sessionId : String) : Context R where
  db := server.db
  keys := server.keys
  session := server.sessions sessionId

/-- Save the session of a request and keep what it wrote. -/
def save (server : Server R) (sessionId : String) (ctx : Context R) : Server R where
  db := ctx.db
  keys := ctx.keys
  sessions := Function.update server.sessions sessionId ctx.session

/-- Run a route for the session. -/
def serve {α : Type} (server : Server R) (sessionId : String) (route : Route R α) :
    Except Exception α × Server R :=
  let out := route (server.context sessionId)
  (out.1, server.save sessionId out.2)

variable (server : Server R) (sessionId : String)

@[simp] theorem context_db : (server.context sessionId).db = server.db := rfl
@[simp] theorem context_keys : (server.context sessionId).keys = server.keys := rfl
@[simp] theorem context_session :
    (server.context sessionId).session = server.sessions sessionId := rfl
@[simp] theorem save_db (ctx : Context R) : (server.save sessionId ctx).db = ctx.db := rfl
@[simp] theorem save_keys (ctx : Context R) : (server.save sessionId ctx).keys = ctx.keys := rfl

@[simp] theorem save_session (ctx : Context R) :
    (server.save sessionId ctx).sessions sessionId = ctx.session := by
  simp [save]

theorem save_session_of_ne (ctx : Context R) {other : String} (hne : other ≠ sessionId) :
    (server.save sessionId ctx).sessions other = server.sessions other :=
  Function.update_of_ne hne _ _

/-- The request of a session is the context it left behind. -/
theorem context_save (ctx : Context R) : (server.save sessionId ctx).context sessionId = ctx := by
  simp [context, save]

end Server

/-- `UnlockedGuard` admits a request of the session at this time as the user,
and passes the key on. -/
def Admits (server : Server R) (sessionId : String) (now : Int) (userId : String)
    (key : R.Key) : Prop :=
  ∃ ctx, unlockedGuard sessionId now (server.context sessionId) = (.ok (userId, key), ctx)

theorem admits_iff {server : Server R} {sessionId : String} {now : Int} {userId : String}
    {key : R.Key} : Admits server sessionId now userId key ↔
      (server.sessions sessionId).loggedInAs = some userId ∧
        (server.sessions sessionId).isUnlocked = true ∧
        (server.keys.touch sessionId now).1 = some key := by
  constructor
  · rintro ⟨ctx, hguard⟩
    obtain ⟨hlogged, hunlocked, hkey, -⟩ := unlockedGuard_ok_iff.mp hguard
    exact ⟨hlogged, hunlocked, hkey⟩
  · rintro ⟨hlogged, hunlocked, hkey⟩
    exact ⟨_, unlockedGuard_ok_iff.mpr ⟨hlogged, hunlocked, hkey, rfl⟩⟩

end MyAccountController
