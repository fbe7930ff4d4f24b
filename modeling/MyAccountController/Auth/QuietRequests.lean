import MyAccountController.Auth.AuthController

/-! # Requests that neither log in nor set a key

Most routes under `/auth` are made of the same few steps: a guard, a query, a
write of a one-time value. A relation between contexts that these steps keep is
kept by all of these routes.
-/

namespace MyAccountController

open Foundation Handler

variable {R : Runtime}

/-- The requests that neither log the session in or out nor put a key into the store. -/
def AuthRequest.quiet : AuthRequest R → Bool
  | .googleCallback _ _ | .setupMasterPassword _ _ | .changeMasterPassword _ _ _ | .unlock _
  | .logout | .webauthnAuthenticate _ _ => false
  | _ => true

/-- A relation that the steps of the quiet routes keep. -/
structure KeptBySteps (sessionId : String) (now : Int) (related : Context R → Context R → Prop) :
    Prop where
  refl : ∀ ctx, related ctx ctx
  trans : ∀ a b c, related a b → related b c → related a c
  withDb : ∀ ctx db, related ctx (Context.withDb ctx db)
  unlockedGuard : Keeps related (unlockedGuard sessionId now)
  oauthState : ∀ ctx state,
    related ctx (ctx.withSession fun session => { session with oauthState := state })
  challenge : ∀ ctx challenge, related ctx
    (ctx.withSession fun session => { session with currentWebauthnChallenge := challenge })
  checkStillUnlocked : Keeps related (AuthService.checkStillUnlocked sessionId now)
  updateAutoLockMinutes : ∀ ctx minutes,
    related ctx (ctx.withKeys (ctx.keys.updateAutoLockMinutes sessionId minutes))
  lock : Keeps related (AuthService.lock sessionId)

namespace KeptBySteps

variable {α β : Type} {sessionId : String} {now : Int}
  {related : Context R → Context R → Prop}

theorem bind (hsteps : KeptBySteps sessionId now related) {x : Route R α} {f : α → Route R β}
    (hx : Keeps related x) (hf : ∀ a, Keeps related (f a)) : Keeps related (x >>= f) :=
  keeps_bind hsteps.trans hx fun a _ ctx _ => hf a ctx

theorem pure (hsteps : KeptBySteps sessionId now related) (a : α) :
    Keeps related (Pure.pure a : Route R α) :=
  keeps_pure hsteps.refl a

/-- A route that drops its answer. -/
theorem discard (hsteps : KeptBySteps sessionId now related) {x : Route R α}
    (hx : Keeps related x) : Keeps related (x >>= fun _ => Pure.pure ()) :=
  hsteps.bind hx fun _ => hsteps.pure ()

theorem onDatabase (hsteps : KeptBySteps sessionId now related) (query : Query α) :
    Keeps related (onDatabase (R := R) query) :=
  fun ctx => hsteps.withDb ctx _

theorem loggedInGuard (hsteps : KeptBySteps sessionId now related) :
    Keeps related (loggedInGuard (R := R)) :=
  Keeps.of_state_eq hsteps.refl loggedInGuard_state

theorem behind_guard (hsteps : KeptBySteps sessionId now related)
    {body : String × R.Key → Route R α} (hbody : ∀ admitted, Keeps related (body admitted)) :
    Keeps related (MyAccountController.unlockedGuard sessionId now >>= body) :=
  hsteps.bind hsteps.unlockedGuard hbody

theorem takeChallenge (hsteps : KeptBySteps sessionId now related) (missing : Exception) :
    Keeps related (AuthController.takeChallenge (R := R) missing) := by
  intro ctx
  rw [AuthController.takeChallenge, state_bind]
  cases ctx.session.currentWebauthnChallenge.filter (· ≠ "") with
  | none => exact hsteps.refl ctx
  | some challenge =>
      rw [expect_some_bind]
      exact hsteps.challenge ctx none

theorem setAutoLockMinutes (hsteps : KeptBySteps sessionId now related) (userId : String)
    (autoLockMinutes : Option Int) :
    Keeps related (AuthService.updateAutoLockMinutes (R := R) sessionId userId autoLockMinutes) := by
  intro ctx
  rw [AuthService.updateAutoLockMinutes]
  cases autoLockMinutes with
  | none => exact hsteps.refl ctx
  | some minutes =>
      rw [expect_some_bind, ensure_bind]
      split
      · refine hsteps.bind (hsteps.onDatabase _) ?_ ctx
        exact fun _ stored => hsteps.updateAutoLockMinutes stored minutes
      · exact hsteps.refl ctx

/-- Every quiet route keeps the relation. -/
theorem route (hsteps : KeptBySteps sessionId now related) {request : AuthRequest R}
    (hquiet : request.quiet = true) : Keeps related (request.route sessionId now) := by
  cases request with
  | googleCallback oauthState profile => contradiction
  | setupMasterPassword password fresh => contradiction
  | changeMasterPassword currentPassword newPassword fresh => contradiction
  | unlock password => contradiction
  | logout => contradiction
  | webauthnAuthenticate response password => contradiction
  | googleStart generatedState =>
      refine hsteps.discard (hsteps.bind ?_ fun _ => hsteps.pure _)
      exact fun ctx => hsteps.oauthState ctx (some generatedState)
  | lock => exact hsteps.bind hsteps.loggedInGuard fun _ => hsteps.lock
  | me =>
      refine hsteps.discard (hsteps.bind hsteps.loggedInGuard fun userId => ?_)
      exact hsteps.bind hsteps.checkStillUnlocked fun _ => hsteps.pure _
  | settings =>
      refine hsteps.discard (hsteps.bind hsteps.loggedInGuard ?_)
      exact fun userId => hsteps.onDatabase _
  | updateAutoLockMinutes autoLockMinutes =>
      exact hsteps.behind_guard fun admitted => hsteps.setAutoLockMinutes admitted.1 autoLockMinutes
  | webauthnDevices => exact hsteps.discard (hsteps.behind_guard fun _ => hsteps.onDatabase _)
  | webauthnRegisterOptions challenge =>
      refine hsteps.discard (hsteps.behind_guard fun admitted => ?_)
      refine hsteps.bind (hsteps.onDatabase _) fun options => hsteps.bind ?_ fun _ => hsteps.pure _
      exact fun ctx => hsteps.challenge ctx (some options.1)
  | webauthnRegister freshId deviceLabel response =>
      refine hsteps.discard (hsteps.behind_guard fun admitted => ?_)
      exact hsteps.bind (hsteps.takeChallenge _) fun _ => hsteps.onDatabase _
  | webauthnAuthenticateOptions challenge =>
      refine hsteps.discard (hsteps.bind ?_ fun _ => hsteps.pure _)
      exact fun ctx => hsteps.challenge ctx (some challenge)
  | webauthnRemove deviceId => exact hsteps.behind_guard fun _ => hsteps.onDatabase _

end KeptBySteps

end MyAccountController
