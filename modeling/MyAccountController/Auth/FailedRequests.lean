import MyAccountController.Auth.KeyProvenance
import MyAccountController.Auth.RequestTurns

/-! # What a failed request leaves behind

The handlers that log in, unlock or change a key wait for the database, for
Google and for Argon2, and every wait may fail. All of them write the session
after their last wait, except the WebAuthn unlock: it writes the user id of the
device before it looks at the master password.
-/

namespace MyAccountController

open Foundation

variable {R : Runtime}

/-- How the waits of a handler end: the exception of each one that fails. -/
abbrev Waits := Nat → Option Exception

/-- A call of one of the handlers, after its guard, with the waits that fail. -/
inductive AuthHandler (R : Runtime) where
  | googleCallback (waits : Waits) (oauthState : Option String)
      (profile : Except Exception GoogleProfile)
  | setupMasterPassword (waits : Waits) (password : Option String) (fresh : FreshSecrets R)
  | unlock (waits : Waits) (userId : String) (password : Option String)
  | webauthnAuthenticate (waits : Waits) (response : AuthenticationResponse)
      (password : Option String)
  | changeMasterPassword (waits : Waits) (userId : String)
      (currentPassword newPassword : Option String) (fresh : FreshSecrets R)

def AuthHandler.run (sessionId : String) (now : Int) : AuthHandler R → Route R Unit
  | .googleCallback waits oauthState profile => do
      let ctx ← Handler.state
      Handler.ensure (oauthState.any (· ≠ "") ∧ oauthState = ctx.session.oauthState)
        (.badRequest "OAuth state가 일치하지 않습니다.")
      Handler.modify (·.withSession fun session => { session with oauthState := none })
      inRowFailing (CallbackPhase.turn profile) 3 waits .exchanging
  | .setupMasterPassword waits password fresh => do
      let ctx ← Handler.state
      Handler.ensure (ctx.session.loggedInAs = none)
        (.conflict "이미 마스터 비밀번호가 설정된 계정입니다.")
      let pending ← Handler.expect ctx.session.pendingGoogle
        (.unauthorized "Google 로그인을 먼저 진행해주세요.")
      let password ← AuthService.newMasterPassword password
      inRowFailing (SetupPhase.turn sessionId now fresh) 3 waits (.derivingKey pending password)
  | .unlock waits userId password =>
      inRowFailing (UnlockPhase.turn sessionId now password) 4 waits (.findUser userId)
  | .webauthnAuthenticate waits response password => do
      let expectedChallenge ← AuthController.takeChallenge
        (.unauthorized "먼저 authenticate-options를 호출해주세요.")
      inRowFailing (AuthenticatePhase.turn sessionId now response password) 9 waits
        (.findDevice expectedChallenge)
  | .changeMasterPassword waits userId currentPassword newPassword fresh =>
      inRowFailing (ChangePhase.turn sessionId now userId currentPassword newPassword fresh) 8
        waits .findUser

/-- When no wait fails, a handler is the method of the service or the controller. -/
theorem AuthHandler.run_of_no_failure (sessionId : String) (now : Int) :
    (∀ oauthState profile,
      (AuthHandler.googleCallback (fun _ => none) oauthState profile).run sessionId now =
        (do let _ ← AuthService.handleGoogleCallback oauthState profile : Route R Unit)) ∧
    (∀ password fresh,
      (AuthHandler.setupMasterPassword (fun _ => none) password fresh).run sessionId now =
        (do let _ ← AuthService.setupMasterPassword sessionId now password fresh : Route R Unit)) ∧
    (∀ userId password, (AuthHandler.unlock (fun _ => none) userId password).run sessionId now =
      (AuthService.unlock sessionId now userId password : Route R Unit)) ∧
    (∀ response password,
      (AuthHandler.webauthnAuthenticate (fun _ => none) response password).run sessionId now =
        (AuthController.webauthnAuthenticate sessionId now response password : Route R Unit)) ∧
    ∀ userId currentPassword newPassword fresh,
      (AuthHandler.changeMasterPassword (fun _ => none) userId currentPassword newPassword
        fresh).run sessionId now = (do
          let _ ← AuthService.changeMasterPassword sessionId now userId currentPassword
            newPassword fresh : Route R Unit) := by
  simp only [AuthHandler.run, inRowFailing_eq_inRow (fun _ _ => rfl)]
  refine ⟨handleGoogleCallback_inRow, setupMasterPassword_inRow, unlock_inRow,
    webauthnAuthenticate_inRow, changeMasterPassword_inRow⟩

/-! ## What may change -/

/-- Nothing of the session and the key store is different but that a one-time
value may be gone. -/
structure OnlyConsumes (ctx ctx' : Context R) : Prop where
  userId : ctx'.session.userId = ctx.session.userId
  unlocked : ctx'.session.unlocked = ctx.session.unlocked
  keys : ctx'.keys = ctx.keys
  gmailOAuthState : ctx'.session.gmailOAuthState = ctx.session.gmailOAuthState
  pendingGoogle : ctx'.session.pendingGoogle = ctx.session.pendingGoogle
  oauthState : ctx'.session.oauthState = ctx.session.oauthState ∨ ctx'.session.oauthState = none
  challenge : ctx'.session.currentWebauthnChallenge = ctx.session.currentWebauthnChallenge ∨
    ctx'.session.currentWebauthnChallenge = none

namespace OnlyConsumes

theorem refl (ctx : Context R) : OnlyConsumes ctx ctx :=
  ⟨rfl, rfl, rfl, rfl, rfl, .inl rfl, .inl rfl⟩

theorem trans (a b c : Context R) (hab : OnlyConsumes a b) (hbc : OnlyConsumes b c) :
    OnlyConsumes a c := by
  constructor
  case userId => exact hbc.userId.trans hab.userId
  case unlocked => exact hbc.unlocked.trans hab.unlocked
  case keys => exact hbc.keys.trans hab.keys
  case gmailOAuthState => exact hbc.gmailOAuthState.trans hab.gmailOAuthState
  case pendingGoogle => exact hbc.pendingGoogle.trans hab.pendingGoogle
  case oauthState =>
    rcases hbc.oauthState with h | h
    · rw [h]
      exact hab.oauthState
    · exact .inr h
  case challenge =>
    rcases hbc.challenge with h | h
    · rw [h]
      exact hab.challenge
    · exact .inr h

/-- A write to the database alone. -/
theorem withDb (ctx : Context R) (db : Database) : OnlyConsumes ctx (ctx.withDb db) :=
  ⟨rfl, rfl, rfl, rfl, rfl, .inl rfl, .inl rfl⟩

theorem forgetState (ctx : Context R) :
    OnlyConsumes ctx (ctx.withSession fun session => { session with oauthState := none }) :=
  ⟨rfl, rfl, rfl, rfl, rfl, .inr rfl, .inl rfl⟩

theorem forgetChallenge (ctx : Context R) : OnlyConsumes ctx
    (ctx.withSession fun session => { session with currentWebauthnChallenge := none }) :=
  ⟨rfl, rfl, rfl, rfl, rfl, .inl rfl, .inr rfl⟩

end OnlyConsumes

/-! ## One turn -/

/-- A turn that asks the database and goes on with its answer writes nothing else. -/
theorem onlyConsumes_query {α β : Type} {query : Query α} {next : α → β} {ctx ctx' : Context R}
    {result : Except Exception β}
    (hrun : (onDatabase query >>= fun a => pure (next a) : Route R β) ctx = (result, ctx')) :
    OnlyConsumes ctx ctx' := by
  have hstate := Handler.bind_pure_state (onDatabase query : Route R α) next ctx
  rw [hrun] at hstate
  change ctx' = ctx.withDb (query ctx.db).2 at hstate
  rw [hstate]
  exact OnlyConsumes.withDb ctx _

/-- A turn that checks something and goes on writes nothing. -/
theorem onlyConsumes_expect {α β : Type} {value : Option α} {e : Exception} {next : α → β}
    {ctx ctx' : Context R} {result : Except Exception β}
    (hrun : (Handler.expect value e >>= fun a => pure (next a) : Route R β) ctx =
      (result, ctx')) : OnlyConsumes ctx ctx' := by
  have hctx : ctx' = ctx := by
    cases value with
    | none => exact (Prod.mk.inj hrun).2.symm
    | some a => exact (Prod.mk.inj hrun).2.symm
  rw [hctx]
  exact OnlyConsumes.refl ctx

section Turns

variable {sessionId : String} {now : Int} {ctx ctx' : Context R}

theorem unlockTurn_onlyConsumes {password : Option String} (phase : UnlockPhase)
    {result : Except Exception (Option UnlockPhase)}
    (hrun : phase.turn sessionId now password ctx = (result, ctx')) (hlast : result ≠ .ok none) :
    OnlyConsumes ctx ctx' := by
  cases phase with
  | findUser userId => exact onlyConsumes_query hrun
  | userFound found => exact onlyConsumes_expect hrun
  | verifying user =>
      rw [UnlockPhase.turn] at hrun
      cases password with
      | none =>
          obtain ⟨-, rfl⟩ := Prod.mk.inj hrun
          exact OnlyConsumes.refl ctx
      | some password =>
          rw [Handler.expect_some_bind, Handler.ensure_bind] at hrun
          split at hrun
          · obtain ⟨-, rfl⟩ := Prod.mk.inj hrun
            exact OnlyConsumes.refl ctx
          · obtain ⟨-, rfl⟩ := Prod.mk.inj hrun
            exact OnlyConsumes.refl ctx
  | derivingKey user password =>
      obtain ⟨rfl, -⟩ := Prod.mk.inj hrun
      exact absurd rfl hlast

theorem callbackTurn_onlyConsumes {profile : Except Exception GoogleProfile}
    (phase : CallbackPhase) {result : Except Exception (Option CallbackPhase)}
    (hrun : phase.turn profile ctx = (result, ctx')) (hlast : result ≠ .ok none) :
    OnlyConsumes ctx ctx' := by
  cases phase with
  | exchanging =>
      have hctx : ctx' = ctx := by
        cases profile with
        | error e => exact (Prod.mk.inj hrun).2.symm
        | ok known => exact (Prod.mk.inj hrun).2.symm
      rw [hctx]
      exact OnlyConsumes.refl ctx
  | findUser known => exact onlyConsumes_query hrun
  | userFound known found =>
      cases found with
      | none =>
          obtain ⟨rfl, -⟩ := Prod.mk.inj hrun
          exact absurd rfl hlast
      | some user =>
          obtain ⟨rfl, -⟩ := Prod.mk.inj hrun
          exact absurd rfl hlast

theorem setupTurn_onlyConsumes {fresh : FreshSecrets R} (phase : SetupPhase R)
    {result : Except Exception (Option (SetupPhase R))}
    (hrun : phase.turn sessionId now fresh ctx = (result, ctx')) (hlast : result ≠ .ok none) :
    OnlyConsumes ctx ctx' := by
  cases phase with
  | derivingKey pending password =>
      obtain ⟨-, rfl⟩ := Prod.mk.inj hrun
      exact OnlyConsumes.refl ctx
  | createUser user encryptionKey => exact onlyConsumes_query hrun
  | userCreated user encryptionKey =>
      obtain ⟨rfl, -⟩ := Prod.mk.inj hrun
      exact absurd rfl hlast

theorem changeTurn_onlyConsumes {userId : String} {currentPassword newPassword : Option String}
    {fresh : FreshSecrets R} (phase : ChangePhase R)
    {result : Except Exception (Option (ChangePhase R))}
    (hrun : phase.turn sessionId now userId currentPassword newPassword fresh ctx =
      (result, ctx')) (hlast : result ≠ .ok none) : OnlyConsumes ctx ctx' := by
  cases phase with
  | findUser => exact onlyConsumes_query hrun
  | userFound found => exact onlyConsumes_expect hrun
  | verifying user =>
      have hctx : ctx' = ctx := by
        rw [ChangePhase.turn] at hrun
        cases currentPassword with
        | none => exact (Prod.mk.inj hrun).2.symm
        | some current =>
            rw [Handler.expect_some_bind, Handler.ensure_bind] at hrun
            split at hrun
            · rcases hnew : AuthService.newMasterPassword newPassword ctx with ⟨e | new, after⟩
              · rw [Handler.bind_of_error hnew] at hrun
                exact (Prod.mk.inj hrun).2.symm.trans
                  (AuthService.newMasterPassword_error hnew).1.symm
              · rw [Handler.bind_of_ok hnew] at hrun
                exact (Prod.mk.inj hrun).2.symm.trans
                  (AuthService.newMasterPassword_ok_iff.mp hnew).2.2.symm
            · exact (Prod.mk.inj hrun).2.symm
      rw [hctx]
      exact OnlyConsumes.refl ctx
  | derivingOldKey user currentPassword newPassword =>
      obtain ⟨-, rfl⟩ := Prod.mk.inj hrun
      exact OnlyConsumes.refl ctx
  | derivingNewKey user oldKey newPassword =>
      obtain ⟨-, rfl⟩ := Prod.mk.inj hrun
      exact OnlyConsumes.refl ctx
  | findAccounts user oldKey newKey newHash => exact onlyConsumes_query hrun
  | transaction user oldKey newKey newHash accounts => exact onlyConsumes_query hrun
  | committed user newKey =>
      obtain ⟨rfl, -⟩ := Prod.mk.inj hrun
      exact absurd rfl hlast

end Turns

/-! ## The WebAuthn unlock -/

section Authenticate

variable {sessionId : String} {now : Int} {response : AuthenticationResponse}
  {password : Option String} {waits : Waits} {ctx ctx' : Context R}

/-- The turns of the unlock inside the WebAuthn request are those of the unlock. -/
theorem unlocking_inRow (count : Nat) (waits : Waits) (phase : UnlockPhase) :
    inRowFailing (AuthenticatePhase.turn (R := R) sessionId now response password) count waits
      (.unlocking phase) =
      inRowFailing (UnlockPhase.turn sessionId now password) count waits phase := by
  induction count generalizing waits phase with
  | zero => rfl
  | succ count ih =>
      have : LawfulMonad (Handler Exception (Context R)) := Handler.lawfulMonad
      unfold inRowFailing
      cases waits 0 with
      | some e => rfl
      | none =>
          simp only [AuthenticatePhase.turn, bind_assoc, pure_bind]
          refine congrArg (fun rest => phase.turn sessionId now password >>= rest) ?_
          funext next
          cases next with
          | none => rfl
          | some next => exact ih _ next

/-- The context in which the unlock of a device's user starts. -/
def switchedTo (ctx : Context R) (device : TrustedDevice) (counter now : Int) : Context R :=
  (ctx.withDb (Prisma.trustedDevice.withTable ctx.db (ctx.db.trustedDevices.modify device.id
    (WebAuthnService.setCounter counter now)
    (WebAuthnService.setCounter_unindexed counter now)))).withSession
    fun session => { session with userId := some device.userId }

/-- The library verifies the response for a device that is found, and the counter fits its column. -/
def Verified (ctx : Context R) (challenge : String) (response : AuthenticationResponse)
    (device : TrustedDevice) (counter : Int) : Prop :=
  ctx.db.trustedDevices.rows.find? (·.webauthnCredentialId = response.id) = some device ∧
    response.verify challenge device = .ok (some counter) ∧ Prisma.Int4 counter

theorem findDevice_turn (challenge : String) :
    (AuthenticatePhase.findDevice challenge).turn sessionId now response password ctx =
      (.ok (some (.deviceFound challenge
        (ctx.db.trustedDevices.rows.find? (·.webauthnCredentialId = response.id)))), ctx) := rfl

theorem asserting_turn {challenge : String} {device : TrustedDevice} {counter : Int}
    (hverify : response.verify challenge device = .ok (some counter)) :
    (AuthenticatePhase.asserting challenge device).turn sessionId now response password ctx =
      (.ok (some (.countUse device counter)), ctx) := by
  rw [AuthenticatePhase.turn, hverify]
  rfl

/-- An assertion that goes on has been verified. -/
theorem asserting_ok {challenge : String} {device : TrustedDevice} {next : AuthenticatePhase}
    (hturn : (AuthenticatePhase.asserting challenge device).turn sessionId now response password
      ctx = (.ok (some next), ctx')) :
    ∃ counter, response.verify challenge device = .ok (some counter) ∧
      next = .countUse device counter ∧ ctx' = ctx := by
  obtain ⟨counter, _, hquery, hpure⟩ := Handler.bind_ok_iff.mp hturn
  obtain ⟨db, hverification, rfl⟩ := onDatabase_run.mp hquery
  obtain ⟨hverify, rfl⟩ := WebAuthnService.verification_ok_iff.mp hverification
  obtain ⟨hnext, rfl⟩ := Prod.mk.inj hpure
  exact ⟨counter, hverify, (Option.some.inj (Except.ok.inj hnext)).symm, rfl⟩

/-- A device that has been found is still there when its counter is written. -/
theorem countUse_turn {device : TrustedDevice} {counter : Int}
    (hfind : ctx.db.trustedDevices.find? device.id = some device)
    (hcounter : Prisma.Int4 counter) :
    (AuthenticatePhase.countUse device counter).turn sessionId now response password ctx =
      (.ok (some (.useCounted device)), ctx.withDb (Prisma.trustedDevice.withTable ctx.db
        (ctx.db.trustedDevices.modify device.id (WebAuthnService.setCounter counter now)
          (WebAuthnService.setCounter_unindexed counter now)))) := by
  have hupdate : (onDatabase (WebAuthnService.countUse device.id counter now) :
      Route R TrustedDevice) ctx = (.ok (WebAuthnService.setCounter counter now device), _) :=
    onDatabase_run.mpr ⟨_, (WebAuthnService.countUse_of_int4 hcounter now ctx.db).trans
      ((Model.update_ok_iff _).mpr ⟨⟨device, hfind, rfl⟩, rfl⟩), rfl⟩
  rw [AuthenticatePhase.turn, Handler.bind_of_ok hupdate]
  rfl

/-- A counter that has been written fits its column. -/
theorem countUse_int4 {device : TrustedDevice} {counter : Int} {next : Option AuthenticatePhase}
    (hturn : (AuthenticatePhase.countUse device counter).turn sessionId now response password ctx =
      (.ok next, ctx')) : Prisma.Int4 counter := by
  obtain ⟨_, _, hquery, -⟩ := Handler.bind_ok_iff.mp hturn
  obtain ⟨_, hupdate, -⟩ := onDatabase_run.mp hquery
  exact (WebAuthnService.countUse_ok hupdate).1

/-- With the first five waits over and the assertion verified, the request goes
on with the unlock of the device's user. -/
theorem authenticate_reaches_unlock {challenge : String} {device : TrustedDevice} {counter : Int}
    (hverified : Verified ctx challenge response device counter)
    (hwaits : ∀ i < 5, waits i = none) :
    inRowFailing (AuthenticatePhase.turn sessionId now response password) 9 waits
      (.findDevice challenge) ctx =
      inRowFailing (UnlockPhase.turn sessionId now password) 4 (fun i => waits (i + 5))
        (.findUser device.userId) (switchedTo ctx device counter now) := by
  obtain ⟨hfind, hverify, hcounter⟩ := hverified
  have hstored : ctx.db.trustedDevices.find? device.id = some device :=
    Table.find?_eq_some_iff.mpr ⟨List.mem_of_find?_eq_some hfind, rfl⟩
  have hfound : (AuthenticatePhase.deviceFound challenge (some device)).turn sessionId now
      response password ctx = (.ok (some (.asserting challenge device)), ctx) := rfl
  have hswitch : ∀ before : Context R, (AuthenticatePhase.useCounted device).turn sessionId now
      response password before = (.ok (some (.unlocking (.findUser device.userId))),
        before.withSession fun session => { session with userId := some device.userId }) :=
    fun _ => rfl
  rw [inRowFailing_next (hwaits 0 (by decide)) (findDevice_turn challenge), hfind,
    inRowFailing_next (hwaits 1 (by decide)) hfound,
    inRowFailing_next (hwaits 2 (by decide)) (asserting_turn hverify),
    inRowFailing_next (hwaits 3 (by decide)) (countUse_turn hstored hcounter),
    inRowFailing_next (hwaits 4 (by decide)) (hswitch _), unlocking_inRow]
  rfl

/-- A WebAuthn request that fails before the unlock has written nothing. -/
theorem authenticate_error {challenge : String} {e : Exception}
    (hrun : inRowFailing (AuthenticatePhase.turn sessionId now response password) 9 waits
      (.findDevice challenge) ctx = (.error e, ctx')) :
    OnlyConsumes ctx ctx' ∨ ∃ device counter, Verified ctx challenge response device counter ∧
      ∀ i < 5, waits i = none := by
  -- Each turn fails in its wait, fails in its work, or hands over to the next one.
  rcases inRowFailing_error_cases hrun with rfl | ⟨h0, hfailed | ⟨_, _, hturn, hrun⟩⟩
  · exact .inl (.refl _)
  · exact absurd (congrArg Prod.fst hfailed) (by simp [findDevice_turn])
  obtain ⟨hnext, rfl⟩ := Prod.mk.inj ((findDevice_turn challenge).symm.trans hturn)
  obtain rfl := Option.some.inj (Except.ok.inj hnext)
  cases hfind : ctx.db.trustedDevices.rows.find? (·.webauthnCredentialId = response.id) with
  | none =>
      rw [hfind] at hrun
      rcases inRowFailing_error_cases hrun with rfl | ⟨-, hfailed | ⟨_, _, hturn, -⟩⟩
      · exact .inl (.refl _)
      · exact .inl (onlyConsumes_expect hfailed)
      · exact absurd (congrArg Prod.fst hturn) (by simp [AuthenticatePhase.turn])
  | some device =>
      rw [hfind] at hrun
      rcases inRowFailing_error_cases hrun with rfl | ⟨h1, hfailed | ⟨_, _, hturn, hrun⟩⟩
      · exact .inl (.refl _)
      · exact .inl (onlyConsumes_expect hfailed)
      obtain ⟨hnext, rfl⟩ := Prod.mk.inj hturn
      obtain rfl := Option.some.inj (Except.ok.inj hnext)
      rcases inRowFailing_error_cases hrun with rfl | ⟨h2, hfailed | ⟨_, _, hturn, hrun⟩⟩
      · exact .inl (.refl _)
      · exact .inl (onlyConsumes_query hfailed)
      obtain ⟨counter, hverify, rfl, hsame⟩ := asserting_ok hturn
      rw [hsame] at hrun
      rcases inRowFailing_error_cases hrun with rfl | ⟨h3, hfailed | ⟨_, _, hturn, hrun⟩⟩
      · exact .inl (.refl _)
      · exact .inl (onlyConsumes_query hfailed)
      have hquiet := onlyConsumes_query hturn
      have hcounter := countUse_int4 hturn
      have hstored : ctx.db.trustedDevices.find? device.id = some device :=
        Table.find?_eq_some_iff.mpr ⟨List.mem_of_find?_eq_some hfind, rfl⟩
      obtain ⟨hnext, -⟩ := Prod.mk.inj ((countUse_turn hstored hcounter).symm.trans hturn)
      obtain rfl := Option.some.inj (Except.ok.inj hnext)
      rcases inRowFailing_error_cases hrun with rfl | ⟨h4, -⟩
      · exact .inl hquiet
      refine .inr ⟨device, counter, ⟨hfind, hverify, hcounter⟩, fun i hi => ?_⟩
      obtain rfl | rfl | rfl | rfl | rfl : i = 0 ∨ i = 1 ∨ i = 2 ∨ i = 3 ∨ i = 4 := by
        omega
      · exact h0
      · exact h1
      · exact h2
      · exact h3
      · exact h4

/-- An unlock that ends has waited without failure for the right password. -/
theorem unlock_ended {userId : String} {u : Unit}
    (hrun : inRowFailing (UnlockPhase.turn sessionId now password) 4 waits (.findUser userId) ctx =
      (.ok u, ctx')) :
    (∀ i < 4, waits i = none) ∧
      ∃ user current, AuthService.CurrentPassword R ctx.db userId password user current := by
  have hwaits : ∀ i < 4, waits i = none := by
    obtain ⟨h0, _, _, hturn, hrest⟩ := inRowFailing_ok_cases hrun
    obtain ⟨hnext, rfl⟩ := Prod.mk.inj hturn
    obtain rfl := Except.ok.inj hnext
    obtain ⟨h1, _, _, hturn, hrest⟩ := inRowFailing_ok_cases (hrest _ rfl)
    rw [UnlockPhase.turn, Handler.bind_ok_iff] at hturn
    obtain ⟨user, _, -, hpure⟩ := hturn
    obtain ⟨hanswer, rfl⟩ := Prod.mk.inj hpure
    obtain rfl := Except.ok.inj hanswer
    obtain ⟨h2, _, _, hturn, hrest⟩ := inRowFailing_ok_cases (hrest _ rfl)
    rw [UnlockPhase.turn, Handler.bind_ok_iff] at hturn
    obtain ⟨accepted, _, -, hturn⟩ := hturn
    obtain ⟨_, _, -, hpure⟩ := Handler.bind_ok_iff.mp hturn
    obtain ⟨hverifying, rfl⟩ := Prod.mk.inj hpure
    obtain rfl := Except.ok.inj hverifying
    obtain ⟨h3, -⟩ := inRowFailing_ok_cases (hrest _ rfl)
    intro i hi
    obtain rfl | rfl | rfl | rfl : i = 0 ∨ i = 1 ∨ i = 2 ∨ i = 3 := by omega
    · exact h0
    · exact h1
    · exact h2
    · exact h3
  rw [inRowFailing_eq_inRow hwaits, unlock_inRow] at hrun
  obtain ⟨user, current, hfound, hsome, hverify, -⟩ := AuthService.unlock_ok_iff.mp hrun
  exact ⟨hwaits, user, current, hfound, hsome, hverify⟩

end Authenticate

/-! ## When a failed call leaves the session as it was -/

/-- The call does not switch the session to another user and then fail: a
WebAuthn request that asserts a device of another user, and whose waits up to
there do not fail, carries that user's master password and fails in no wait. -/
def AuthHandler.SwitchesToUnlock (ctx : Context R) : AuthHandler R → Prop
  | .webauthnAuthenticate waits response password =>
      ∀ device, Asserts ctx response device → (∀ i < 5, waits i = none) →
        ctx.session.userId ≠ some device.userId →
        (∀ i < 4, waits (i + 5) = none) ∧
          ∃ user current, AuthService.CurrentPassword R ctx.db device.userId password user current
  | _ => True

/-- A call that ends in an exception leaves the user id, the flag and the entry
of the session as they were. -/
def FailsWithoutTrace (sessionId : String) (now : Int) (handler : AuthHandler R)
    (ctx : Context R) : Prop :=
  ∀ e ctx', handler.run sessionId now ctx = (.error e, ctx') → OnlyConsumes ctx ctx'

section Handlers

variable {sessionId : String} {now : Int}

theorem unlock_failsWithoutTrace {waits : Waits} {userId : String} {password : Option String}
    {ctx ctx' : Context R} {e : Exception}
    (hrun : inRowFailing (UnlockPhase.turn sessionId now password) 4 waits (.findUser userId) ctx =
      (.error e, ctx')) : OnlyConsumes ctx ctx' := by
  refine inRowFailing_error OnlyConsumes.refl OnlyConsumes.trans ?_ hrun
  exact fun phase _ _ _ hturn hlast => unlockTurn_onlyConsumes phase hturn hlast

theorem googleCallback_failsWithoutTrace (waits : Waits) (oauthState : Option String)
    (profile : Except Exception GoogleProfile) (ctx : Context R) :
    FailsWithoutTrace sessionId now (.googleCallback waits oauthState profile) ctx := by
  intro e ctx' hrun
  rw [AuthHandler.run, Handler.state_bind, Handler.ensure_bind] at hrun
  split at hrun
  · rw [Handler.modify_bind] at hrun
    apply OnlyConsumes.trans _ _ _ (OnlyConsumes.forgetState ctx)
    refine inRowFailing_error OnlyConsumes.refl OnlyConsumes.trans ?_ hrun
    exact fun phase _ _ _ hturn hlast => callbackTurn_onlyConsumes phase hturn hlast
  · obtain ⟨-, rfl⟩ := Prod.mk.inj hrun
    exact OnlyConsumes.refl ctx

theorem setupMasterPassword_failsWithoutTrace (waits : Waits) (password : Option String)
    (fresh : FreshSecrets R) (ctx : Context R) :
    FailsWithoutTrace sessionId now (.setupMasterPassword waits password fresh) ctx := by
  intro e ctx' hrun
  rw [AuthHandler.run, Handler.state_bind, Handler.ensure_bind] at hrun
  split at hrun
  · rcases Handler.bind_error_iff.mp hrun with hpending | ⟨pending, _, hpending, hrun⟩
    · obtain ⟨-, -, rfl⟩ := Handler.expect_error_iff.mp hpending
      exact OnlyConsumes.refl ctx
    obtain ⟨-, rfl⟩ := Handler.expect_ok_iff.mp hpending
    rcases Handler.bind_error_iff.mp hrun with hrejected | ⟨new, _, haccepted, hrun⟩
    · obtain ⟨rfl, -⟩ := AuthService.newMasterPassword_error hrejected
      exact OnlyConsumes.refl ctx
    obtain ⟨-, -, rfl⟩ := AuthService.newMasterPassword_ok_iff.mp haccepted
    refine inRowFailing_error OnlyConsumes.refl OnlyConsumes.trans ?_ hrun
    exact fun phase _ _ _ hturn hlast => setupTurn_onlyConsumes phase hturn hlast
  · obtain ⟨-, rfl⟩ := Prod.mk.inj hrun
    exact OnlyConsumes.refl ctx

theorem changeMasterPassword_failsWithoutTrace (waits : Waits) (userId : String)
    (currentPassword newPassword : Option String) (fresh : FreshSecrets R) (ctx : Context R) :
    FailsWithoutTrace sessionId now
      (.changeMasterPassword waits userId currentPassword newPassword fresh) ctx := by
  intro e ctx' hrun
  refine inRowFailing_error OnlyConsumes.refl OnlyConsumes.trans ?_ hrun
  exact fun phase _ _ _ hturn hlast => changeTurn_onlyConsumes phase hturn hlast

/-- The context of a device's user has that user's id, and the rest unchanged. -/
theorem onlyConsumes_switchedTo {ctx : Context R} {device : TrustedDevice} {counter : Int}
    (hsame : ctx.session.userId = some device.userId) :
    OnlyConsumes ctx (switchedTo ctx device counter now) :=
  ⟨hsame.symm, rfl, rfl, rfl, rfl, .inl rfl, .inl rfl⟩

theorem webauthnAuthenticate_failsWithoutTrace_iff (waits : Waits)
    (response : AuthenticationResponse) (password : Option String) (ctx : Context R) :
    FailsWithoutTrace sessionId now (.webauthnAuthenticate waits response password) ctx ↔
      (AuthHandler.webauthnAuthenticate (R := R) waits response password).SwitchesToUnlock ctx := by
  constructor
  · rintro hfails device ⟨challenge, counter, hchallenge, hnonempty, hverified⟩ hwaits hother
    have htaken : AuthController.takeChallenge
        (.unauthorized "먼저 authenticate-options를 호출해주세요.") ctx = (.ok challenge, _) :=
      takeChallenge_ok_iff.mpr ⟨⟨hchallenge, hnonempty⟩, rfl⟩
    have hrun := (Handler.bind_of_ok (f := fun expectedChallenge =>
      inRowFailing (AuthenticatePhase.turn sessionId now response password) 9 waits
        (.findDevice expectedChallenge)) htaken).trans
      (authenticate_reaches_unlock hverified hwaits)
    rcases hunlock : inRowFailing (UnlockPhase.turn sessionId now password) 4
      (fun i => waits (i + 5)) (.findUser device.userId) _ with ⟨e | u, ctx'⟩
    · -- The exception leaves the session with the other user's id.
      have hconsumes := hfails e ctx' (hrun.trans hunlock)
      have hkept := unlock_failsWithoutTrace hunlock
      exact absurd (hconsumes.userId.symm.trans hkept.userId) hother
    · obtain ⟨hrest, user, current, hfound, hpassword, hmatches⟩ := unlock_ended hunlock
      exact ⟨hrest, user, current, hfound, hpassword, hmatches⟩
  · intro hswitches e ctx' hrun
    rw [AuthHandler.run] at hrun
    rcases Handler.bind_error_iff.mp hrun with hmissing | ⟨challenge, _, htaken, hrun⟩
    · rw [AuthController.takeChallenge, Handler.state_bind] at hmissing
      rcases Handler.bind_error_iff.mp hmissing with hmissing | ⟨_, _, -, hpure⟩
      · obtain ⟨-, -, rfl⟩ := Handler.expect_error_iff.mp hmissing
        exact OnlyConsumes.refl ctx
      · exact absurd (congrArg Prod.fst hpure) (by simp [Handler.bind_run])
    obtain ⟨⟨hchallenge, hnonempty⟩, rfl⟩ := takeChallenge_ok_iff.mp htaken
    apply OnlyConsumes.trans _ _ _ (OnlyConsumes.forgetChallenge ctx)
    rcases authenticate_error hrun with hquiet | ⟨device, counter, hverified, hwaits⟩
    · exact hquiet
    rw [authenticate_reaches_unlock hverified hwaits] at hrun
    by_cases hsame : ctx.session.userId = some device.userId
    · exact OnlyConsumes.trans _ _ _ (onlyConsumes_switchedTo hsame) (unlock_failsWithoutTrace hrun)
    · -- The unlock of another user does not fail.
      obtain ⟨hrest, user, current, hfound, hpassword, hverify⟩ := hswitches device
        ⟨challenge, counter, hchallenge, hnonempty, hverified⟩ hwaits hsame
      rw [inRowFailing_eq_inRow hrest, unlock_inRow] at hrun
      exact absurd ⟨user, current, hfound, hpassword, hverify⟩
        (AuthService.not_currentPassword_of_unlock_error hrun)

end Handlers

/-- A failed call leaves the session as it was exactly when it did not switch
the session to another user before it failed. -/
theorem failsWithoutTrace_iff (sessionId : String) (now : Int) (handler : AuthHandler R)
    (ctx : Context R) :
    FailsWithoutTrace sessionId now handler ctx ↔ handler.SwitchesToUnlock ctx := by
  cases handler with
  | googleCallback waits oauthState profile =>
      exact iff_of_true (googleCallback_failsWithoutTrace waits oauthState profile ctx) trivial
  | setupMasterPassword waits password fresh =>
      exact iff_of_true (setupMasterPassword_failsWithoutTrace waits password fresh ctx) trivial
  | unlock waits userId password =>
      exact iff_of_true (fun _ _ hrun => unlock_failsWithoutTrace hrun) trivial
  | webauthnAuthenticate waits response password =>
      exact webauthnAuthenticate_failsWithoutTrace_iff waits response password ctx
  | changeMasterPassword waits userId currentPassword newPassword fresh =>
      exact iff_of_true (changeMasterPassword_failsWithoutTrace waits userId currentPassword
        newPassword fresh ctx) trivial

/-- The session of the first user with the challenge of the assertion. -/
def Takeover.context : Context symbolicRuntime where
  db := server.db
  keys := UnlockKeyStore.empty
  session := { userId := some "u", currentWebauthnChallenge := some "challenge" }

/-- After a refused WebAuthn unlock the session is logged in as the device's user. -/
theorem failsWithoutTrace_fails : ¬ FailsWithoutTrace "sid" 5
    (.webauthnAuthenticate (fun _ => none) Takeover.response (some "wrong-password"))
    Takeover.context := by
  intro hfails
  have herror : ((AuthHandler.webauthnAuthenticate (fun _ => none) Takeover.response
      (some "wrong-password")).run "sid" 5 Takeover.context).1 =
      .error (.unauthorized "마스터 비밀번호가 올바르지 않습니다.") := by decide +kernel
  have huser : ((AuthHandler.webauthnAuthenticate (fun _ => none) Takeover.response
      (some "wrong-password")).run "sid" 5 Takeover.context).2.session.userId = some "v" := by
    decide +kernel
  obtain ⟨ctx', hrun⟩ := Handler.exists_run herror
  have hsame := (hfails _ ctx' hrun).userId
  rw [hrun] at huser
  exact absurd (huser.symm.trans hsame) (by decide)

end MyAccountController
