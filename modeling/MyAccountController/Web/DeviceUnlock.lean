import MyAccountController.Auth.ChangeMasterPassword
import MyAccountController.Common.SymbolicRuntime
import MyAccountController.Web.Webauthn

/-! # Unlocking with a registered device

A registration that reports PRF support promises that the device can unlock
later. It keeps the promise if and only if the priming assertion gave a PRF
result and the typed password is the current master password: the registration
checks neither.
-/

namespace MyAccountController

open Foundation AuthService

variable {R : Runtime} {crypto : WebCrypto}

/-! ## The promise -/

/-- Since the registration the browser has kept the entry of the credential, a device of the user
with the credential is registered, and the master password is not changed. -/
structure Kept (userId credentialId : String) (after later : WebApp R) : Prop where
  stored : later.stored credentialId = after.stored credentialId
  device : ∃ device ∈ later.server.db.trustedDevices.rows,
    device.webauthnCredentialId = credentialId ∧ device.userId = userId
  user : ∀ user, after.server.db.users.find? userId = some user →
    ∃ user', later.server.db.users.find? userId = some user' ∧
      user'.masterPasswordHash = user.masterPasswordHash

/-- For the challenge the browser answers with an assertion of the credential and its PRF result,
and the library of the server verifies it, with a counter that its column takes. -/
def AssertsCredential (crypto : WebCrypto) (start : StartAuthentication)
    (credentialId challenge : String) : Prop :=
  ∃ assertion output, start ⟨challenge, [], getPrfEvalSalt crypto⟩ = .ok assertion ∧
    assertion.id = credentialId ∧ assertion.prfOutput = some output ∧
      ∀ device : TrustedDevice, device.webauthnCredentialId = credentialId →
        ∃ counter, assertion.verify challenge device = .ok (some counter) ∧ Prisma.Int4 counter

/-- The session is that of the user, and unlocked. -/
def UnlockedAs (app : WebApp R) (sessionId userId : String) : Prop :=
  (app.server.sessions sessionId).userId = some userId ∧
    (app.server.sessions sessionId).isUnlocked = true ∧
      (app.server.keys.get sessionId).isSome = true

/-- Whatever happens to the rest, the credential unlocks any session of the browser later. -/
def UnlocksLater (crypto : WebCrypto) (prf : String → List UInt8 → List UInt8)
    (userId credentialId : String) (after : WebApp R) : Prop :=
  ∀ later start sessionId challenge now, Kept userId credentialId after later →
    StartAuthentication.Lawful prf start → AssertsCredential crypto start credentialId challenge →
      challenge ≠ "" → ∃ unlocked,
        handleBiometricUnlock crypto start sessionId challenge now later = (.ok (), unlocked) ∧
          UnlockedAs unlocked sessionId userId

/-- The priming assertion gives a PRF result. -/
def Primes (crypto : WebCrypto) (browser : Registering) (credentialId : String) : Prop :=
  ∃ assertion, browser.startAuthentication
    ⟨browser.primingChallenge, [credentialId], getPrfEvalSalt crypto⟩ = .ok assertion ∧
      assertion.prfOutput.isSome = true

/-! ## A registration -/

theorem apiFetch_ok {α : Type} {sessionId : String} {route : Route R α} {app app' : WebApp R}
    {delivery : Delivery} {a : α} (hrun : apiFetch delivery sessionId route app = (.ok a, app')) :
    ∃ ctx, route (app.server.context sessionId) = (.ok a, ctx) ∧
      app' = { app with server := app.server.save sessionId ctx } := by
  unfold apiFetch Server.serve at hrun
  cases delivery with
  | answered =>
      obtain ⟨hresult, rfl⟩ := Prod.mk.inj hrun
      exact ⟨_, Prod.ext hresult rfl, rfl⟩
  | requestLost err => exact absurd (congrArg Prod.fst hrun) (by simp)
  | responseLost err => exact absurd (congrArg Prod.fst hrun) (by simp)

theorem apiFetch_of_run {α : Type} {sessionId : String} {route : Route R α}
    {app : WebApp R} {result : Except Exception α} {ctx : Context R}
    (hrun : route (app.server.context sessionId) = (result, ctx)) :
    apiFetch .answered sessionId route app =
      (result, { app with server := app.server.save sessionId ctx }) := by
  unfold apiFetch Server.serve
  rw [hrun]

/-- The credentials that the registration options of the user exclude. -/
def excludedCredentials (db : Database) (userId : String) : List String :=
  (db.trustedDevices.rows.filter (·.userId = userId)).map TrustedDevice.webauthnCredentialId

/-- The context after `register-options`. -/
def offered (ctx : Context R) (sessionId : String) (now : Int) (challenge : String) : Context R :=
  (ctx.withKeys (ctx.keys.touch sessionId now).2).withSession fun session =>
    { session with currentWebauthnChallenge := some challenge }

theorem webauthnRegisterOptions_ok_iff {sessionId challenge : String} {now : Int}
    {ctx ctx' : Context R} {options : String × List String} :
    AuthController.webauthnRegisterOptions sessionId now challenge ctx = (.ok options, ctx') ↔
      (∃ userId, ctx.session.loggedInAs = some userId ∧ ctx.session.isUnlocked = true ∧
        (ctx.keys.touch sessionId now).1.isSome = true ∧
        (ctx.db.users.find? userId).isSome = true ∧
        options = (challenge, excludedCredentials ctx.db userId)) ∧
        ctx' = offered ctx sessionId now challenge := by
  constructor
  · intro hrun
    rw [AuthController.webauthnRegisterOptions, Handler.bind_ok_iff] at hrun
    obtain ⟨⟨userId, key⟩, admitted, hguard, hrun⟩ := hrun
    obtain ⟨hlogged, hunlocked, hkey, rfl⟩ := unlockedGuard_ok_iff.mp hguard
    obtain ⟨answered, queried, hquery, hrun⟩ := Handler.bind_ok_iff.mp hrun
    obtain ⟨db', hoptions, rfl⟩ := onDatabase_run.mp hquery
    obtain ⟨rfl, ⟨user, huser⟩, rfl⟩ := WebAuthnService.createRegistrationOptions_ok hoptions
    obtain ⟨hanswer, rfl⟩ := Prod.mk.inj hrun
    exact ⟨⟨userId, hlogged, hunlocked, Option.isSome_iff_exists.mpr ⟨key, hkey⟩,
      Option.isSome_iff_exists.mpr ⟨user, huser⟩, (Except.ok.inj hanswer).symm⟩, rfl⟩
  · rintro ⟨⟨userId, hlogged, hunlocked, hkey, huser, rfl⟩, rfl⟩
    obtain ⟨key, hkey⟩ := Option.isSome_iff_exists.mp hkey
    obtain ⟨user, huser⟩ := Option.isSome_iff_exists.mp huser
    rw [AuthController.webauthnRegisterOptions,
      Handler.bind_of_ok (unlockedGuard_ok_iff.mpr ⟨hlogged, hunlocked, hkey, rfl⟩)]
    refine Handler.bind_ok_iff.mpr ⟨_, _, onDatabase_run.mpr ⟨ctx.db, ?_, rfl⟩, rfl⟩
    rw [WebAuthnService.createRegistrationOptions, Model.findUnique_bind]
    have hfind : (Prisma.user.table (ctx.withKeys (ctx.keys.touch sessionId now).2).db).find?
      userId = some user := huser
    rw [hfind]
    rfl

theorem webauthnRegister_ok_iff {sessionId freshId : String} {now : Int}
    {deviceLabel : Option String} {response : RegistrationResponse} {ctx ctx' : Context R}
    {device : TrustedDevice} :
    AuthController.webauthnRegister sessionId now freshId deviceLabel response ctx =
        (.ok device, ctx') ↔
      ∃ userId expectedChallenge db', ctx.session.loggedInAs = some userId ∧
        ctx.session.isUnlocked = true ∧ (ctx.keys.touch sessionId now).1.isSome = true ∧
        (ctx.session.currentWebauthnChallenge = some expectedChallenge ∧
          expectedChallenge ≠ "") ∧
        WebAuthnService.verifyRegistration now freshId userId deviceLabel expectedChallenge
          response ctx.db = (.ok device, db') ∧
        ctx' = ((ctx.withKeys (ctx.keys.touch sessionId now).2).withSession fun session =>
          { session with currentWebauthnChallenge := none }).withDb db' := by
  constructor
  · intro hrun
    rw [AuthController.webauthnRegister, Handler.bind_ok_iff] at hrun
    obtain ⟨⟨userId, key⟩, admitted, hguard, hrun⟩ := hrun
    obtain ⟨hlogged, hunlocked, hkey, rfl⟩ := unlockedGuard_ok_iff.mp hguard
    obtain ⟨expectedChallenge, taken, htake, hrun⟩ := Handler.bind_ok_iff.mp hrun
    obtain ⟨hchallenge, rfl⟩ := takeChallenge_ok_iff.mp htake
    obtain ⟨db', hverify, rfl⟩ := onDatabase_run.mp hrun
    exact ⟨userId, expectedChallenge, db', hlogged, hunlocked,
      Option.isSome_iff_exists.mpr ⟨key, hkey⟩, hchallenge, hverify, rfl⟩
  · rintro ⟨userId, expectedChallenge, db', hlogged, hunlocked, hkey, hchallenge, hverify, rfl⟩
    obtain ⟨key, hkey⟩ := Option.isSome_iff_exists.mp hkey
    rw [AuthController.webauthnRegister,
      Handler.bind_of_ok (unlockedGuard_ok_iff.mpr ⟨hlogged, hunlocked, hkey, rfl⟩)]
    exact Handler.bind_ok_iff.mpr ⟨expectedChallenge, _, takeChallenge_ok_iff.mpr
      ⟨hchallenge, rfl⟩, onDatabase_run.mpr ⟨db', hverify, rfl⟩⟩

theorem saveWrappedMasterPassword_ok_iff {saving : Option Exception} {credentialId : String}
    {entry : WrappedMasterPassword} {app after : WebApp R} :
    saveWrappedMasterPassword saving credentialId entry app = (.ok (), after) ↔
      saving = none ∧
        { app with stored := Function.update app.stored credentialId (some entry) } = after := by
  cases saving <;> simp [saveWrappedMasterPassword]

/-- What a priming that returned has made of the stored entries. -/
inductive Primed (crypto : WebCrypto) (browser : Registering)
    (credentialId masterPassword : String) (stored stored' : String → Option WrappedMasterPassword) :
    Prop where
  | wrapped (assertion : Assertion) (prfOutput : List UInt8) (wrapped : WrappedMasterPassword)
      (hassertion : browser.startAuthentication
        ⟨browser.primingChallenge, [credentialId], getPrfEvalSalt crypto⟩ = .ok assertion)
      (hprf : assertion.prfOutput = some prfOutput)
      (hwrap : wrapMasterPassword crypto prfOutput masterPassword browser.iv = .ok wrapped)
      (hstored : stored' = Function.update stored credentialId (some wrapped))
  | noResult (assertion : Assertion)
      (hassertion : browser.startAuthentication
        ⟨browser.primingChallenge, [credentialId], getPrfEvalSalt crypto⟩ = .ok assertion)
      (hprf : assertion.prfOutput = none) (hstored : stored' = stored)

theorem prime_ok {browser : Registering} {credentialId masterPassword : String}
    {app after : WebApp R}
    (hrun : prime crypto browser credentialId masterPassword app = (.ok (), after)) :
    after.server = app.server ∧
      Primed crypto browser credentialId masterPassword app.stored after.stored := by
  rw [prime, Handler.bind_ok_iff] at hrun
  obtain ⟨assertion, _, hstart, hrun⟩ := hrun
  obtain ⟨hassertion, rfl⟩ := Prod.mk.inj hstart
  cases hprf : assertion.prfOutput with
  | none =>
      rw [hprf] at hrun
      obtain ⟨-, rfl⟩ := Prod.mk.inj hrun
      exact ⟨rfl, .noResult assertion hassertion hprf rfl⟩
  | some prfOutput =>
      rw [hprf] at hrun
      obtain ⟨wrapped, _, hwrapped, hrun⟩ := Handler.bind_ok_iff.mp hrun
      obtain ⟨hwrap, rfl⟩ := Prod.mk.inj hwrapped
      obtain ⟨-, rfl⟩ := saveWrappedMasterPassword_ok_iff.mp hrun
      exact ⟨rfl, .wrapped assertion prfOutput wrapped hassertion hprf hwrap rfl⟩

/-- A registration that reported PRF support: the device is stored, and so is what its priming
assertion wrapped. -/
structure Registered (crypto : WebCrypto) (browser : Registering) (userId masterPassword : String)
    (app after : WebApp R) (device : TrustedDevice) : Prop where
  owner : device.userId = userId
  stored : device ∈ after.server.db.trustedDevices.rows
  users : after.server.db.users = app.server.db.users
  user : ∃ user, app.server.db.users.find? userId = some user
  primed : Primed crypto browser device.webauthnCredentialId masterPassword app.stored after.stored

theorem registerThisDevice_ok {browser : Registering} {sessionId userId : String}
    {times : Int × Int} {challenge freshId deviceLabel masterPassword : String}
    {app after : WebApp R} {result : RegisterResult}
    (hlogged : (app.server.sessions sessionId).loggedInAs = some userId)
    (hrun : registerThisDevice crypto browser sessionId times challenge freshId deviceLabel
      masterPassword app = (.ok result, after)) (hprf : result.prfSupported = true) :
    ∃ device, device.id = result.deviceId ∧
      Registered crypto browser userId masterPassword app after device := by
  rw [registerThisDevice, Handler.bind_ok_iff] at hrun
  obtain ⟨options, optioned, hoptions, hrun⟩ := hrun
  obtain ⟨ctx, hroute, rfl⟩ := apiFetch_ok hoptions
  obtain ⟨⟨offeredTo, hoffered, -, -, huser, rfl⟩, rfl⟩ :=
    webauthnRegisterOptions_ok_iff.mp hroute
  obtain rfl := Option.some.inj (hlogged.symm.trans hoffered)
  obtain ⟨regResponse, _, hcreated, hrun⟩ := Handler.bind_ok_iff.mp hrun
  obtain ⟨-, rfl⟩ := Prod.mk.inj hcreated
  obtain ⟨device, registered, hregister, hrun⟩ := Handler.bind_ok_iff.mp hrun
  obtain ⟨ctx', hroute', rfl⟩ := apiFetch_ok hregister
  rw [Server.context_save] at hroute'
  obtain ⟨owner, expectedChallenge, db', hadmitted, -, -, -, hverify, rfl⟩ :=
    webauthnRegister_ok_iff.mp hroute'
  obtain rfl := Option.some.inj (hlogged.symm.trans hadmitted)
  obtain ⟨-, howner, ⟨info, hinfo, -, hcredential⟩, table, hinsert, rfl⟩ :=
    WebAuthnService.verifyRegistration_ok hverify
  rw [regResponse.reads_id _ _ hinfo] at hcredential
  have hstored : device ∈ table.rows :=
    (Table.find?_eq_some_iff.mp (Table.find?_inserted hinsert)).1
  cases hsupported : regResponse.prfEnabled with
  | false =>
      rw [hsupported] at hrun
      obtain ⟨hresult, -⟩ := Prod.mk.inj hrun
      rw [← Except.ok.inj hresult] at hprf
      contradiction
  | true =>
      rw [hsupported] at hrun
      obtain ⟨_, primed, hprime, hrun⟩ := Handler.bind_ok_iff.mp hrun
      obtain ⟨hresult, rfl⟩ := Prod.mk.inj hrun
      obtain ⟨hserver, hprimed⟩ := prime_ok hprime
      rw [← hcredential] at hprimed
      refine ⟨device, by rw [← Except.ok.inj hresult], howner, ?_, ?_,
        Option.isSome_iff_exists.mp huser, hprimed⟩
      · rw [hserver]
        exact hstored
      · rw [hserver]
        rfl

/-! ## An unlock -/

/-- The context after `authenticate-options`. -/
def challenged (app : WebApp R) (sessionId challenge : String) : Context R :=
  (app.server.context sessionId).withSession fun session =>
    { session with currentWebauthnChallenge := some challenge }

theorem authenticateWithStoredDevice_ok_iff {start : StartAuthentication}
    {sessionId challenge : String} {app app' : WebApp R}
    {response : AuthenticationResponse} {password : String} :
    authenticateWithStoredDevice crypto start sessionId challenge app =
        (.ok (response, password), app') ↔
      (∃ assertion wrapped prfOutput,
        start ⟨challenge, [], getPrfEvalSalt crypto⟩ = .ok assertion ∧
          app.stored assertion.id = some wrapped ∧ assertion.prfOutput = some prfOutput ∧
          unwrapMasterPassword crypto prfOutput wrapped = .ok password ∧
          response = assertion.toAuthenticationResponse) ∧
        app' = { app with
          server := app.server.save sessionId (challenged app sessionId challenge) } := by
  have hoptions : apiFetch .answered sessionId
      (AuthController.webauthnAuthenticateOptions challenge) app = (.ok challenge, { app with
        server := app.server.save sessionId (challenged app sessionId challenge) }) :=
    apiFetch_of_run rfl
  rw [authenticateWithStoredDevice, Handler.bind_of_ok hoptions]
  simp only [Handler.bind_ok_iff, Handler.ofExcept_run, Handler.state_run, Handler.expect_ok_iff,
    Handler.pure_run, Prod.mk.injEq, Except.ok.injEq]
  constructor
  · rintro ⟨assertion, _, ⟨hassertion, rfl⟩, _, _, ⟨rfl, rfl⟩, wrapped, _, ⟨hwrapped, rfl⟩,
      prfOutput, _, ⟨hprf, rfl⟩, _, _, ⟨hunwrap, rfl⟩, ⟨rfl, rfl⟩, rfl⟩
    exact ⟨⟨assertion, wrapped, prfOutput, hassertion, hwrapped, hprf, hunwrap, rfl⟩, rfl⟩
  · rintro ⟨⟨assertion, wrapped, prfOutput, hassertion, hwrapped, hprf, hunwrap, rfl⟩, rfl⟩
    exact ⟨assertion, _, ⟨hassertion, rfl⟩, _, _, ⟨rfl, rfl⟩, wrapped, _, ⟨hwrapped, rfl⟩,
      prfOutput, _, ⟨hprf, rfl⟩, _, _, ⟨hunwrap, rfl⟩, ⟨rfl, rfl⟩, rfl⟩

/-- The password that the browser has unwrapped is the current master password of the user. -/
theorem handleBiometricUnlock_ok {start : StartAuthentication}
    {sessionId challenge : String} {now : Int} {app unlocked : WebApp R}
    (hrun : handleBiometricUnlock crypto start sessionId challenge now app = (.ok (), unlocked)) :
    ∃ assertion wrapped prfOutput password device user,
      start ⟨challenge, [], getPrfEvalSalt crypto⟩ = .ok assertion ∧
        app.stored assertion.id = some wrapped ∧ assertion.prfOutput = some prfOutput ∧
        unwrapMasterPassword crypto prfOutput wrapped = .ok password ∧
        device ∈ app.server.db.trustedDevices.rows ∧
        device.webauthnCredentialId = assertion.id ∧
        CurrentPassword R app.server.db device.userId (some password) user password := by
  rw [handleBiometricUnlock, Handler.bind_ok_iff] at hrun
  obtain ⟨⟨response, password⟩, app', hanswer, hrun⟩ := hrun
  obtain ⟨⟨assertion, wrapped, prfOutput, hassertion, hwrapped, hprf, hunwrap, rfl⟩, rfl⟩ :=
    authenticateWithStoredDevice_ok_iff.mp hanswer
  obtain ⟨ctx, hroute, -⟩ := apiFetch_ok hrun
  rw [Server.context_save] at hroute
  cases webauthnAuthenticate_effect hroute with
  | weakened hquiet _ => exact absurd rfl (hquiet rfl)
  | established hverifies _ =>
      obtain ⟨device, user, current, ⟨_, _, -, -, hfind, -⟩, rfl, hcurrent, -⟩ := hverifies
      obtain rfl := Option.some.inj hcurrent.2.1
      have hselected := List.find?_some hfind
      exact ⟨assertion, wrapped, prfOutput, password, device, user, hassertion, hwrapped, hprf,
        hunwrap, List.mem_of_find?_eq_some hfind, of_decide_eq_true hselected, hcurrent⟩

/-- The current master password of the user of an asserted device unlocks. -/
theorem webauthnAuthenticate_unlocks {sessionId password : String} {now : Int} {ctx : Context R}
    {response : AuthenticationResponse} {device : TrustedDevice} {user : User}
    (hasserts : Asserts ctx response device)
    (hcurrent : CurrentPassword R ctx.db device.userId (some password) user password) :
    ∃ ctx', AuthController.webauthnAuthenticate sessionId now response (some password) ctx =
        (.ok (), ctx') ∧ ctx'.session.userId = some device.userId ∧
      ctx'.session.isUnlocked = true ∧ (ctx'.keys.get sessionId).isSome = true := by
  obtain ⟨expectedChallenge, counter, hchallenge, hnonempty, hfind, hverify, hcounter⟩ := hasserts
  have hquery := @WebAuthnService.verifyAuthentication_of_find now expectedChallenge response ctx.db
    device counter hfind hverify hcounter
  have hverified : onDatabase (WebAuthnService.verifyAuthentication now expectedChallenge response)
      (ctx.withSession fun session => { session with currentWebauthnChallenge := none }) =
        (.ok device, _) := onDatabase_run.mpr ⟨_, hquery, rfl⟩
  rw [AuthController.webauthnAuthenticate,
    Handler.bind_of_ok (takeChallenge_ok_iff.mpr ⟨⟨hchallenge, hnonempty⟩, rfl⟩),
    Handler.bind_of_ok hverified, Handler.modify_bind]
  refine ⟨_, unlock_ok_iff.mpr ⟨user, password, hcurrent.1, rfl, hcurrent.2.2, rfl⟩, rfl, rfl, ?_⟩
  simp [stored, UnlockKeyStore.get, UnlockKeyStore.set]

/-! ## When the promise is kept -/

section Promise

variable {prf : String → List UInt8 → List UInt8} {userId credentialId : String}

theorem Kept.refl {app after : WebApp R} {device : TrustedDevice}
    {browser : Registering} {masterPassword : String}
    (hregistered : Registered crypto browser userId masterPassword app after device) :
    Kept userId device.webauthnCredentialId after after where
  stored := rfl
  device := ⟨device, hregistered.stored, rfl, hregistered.owner⟩
  user user hfind := ⟨user, hfind, rfl⟩

/-- A browser that answers each request with an assertion of the credential, when it may. -/
def obliging (prf : String → List UInt8 → List UInt8) (credentialId : String) :
    StartAuthentication := fun request =>
  if request.allowCredentials = [] then .ok
    { id := credentialId
      verify := fun _ _ => .ok (some 0)
      prfOutput := some (prf credentialId request.prfSalt) }
  else .error (.error "NotAllowedError")

theorem obliging_ok {request : AssertionRequest} {assertion : Assertion}
    (hassertion : obliging prf credentialId request = .ok assertion) :
    request.allowCredentials = [] ∧ assertion.id = credentialId ∧
      assertion.prfOutput = some (prf credentialId request.prfSalt) := by
  unfold obliging at hassertion
  split at hassertion
  next hnone =>
    rw [← Except.ok.inj hassertion]
    exact ⟨hnone, rfl, rfl⟩
  next => contradiction

theorem obliging_lawful : StartAuthentication.Lawful prf (obliging prf credentialId) where
  allowed request assertion hassertion hallowed := absurd (obliging_ok hassertion).1 hallowed
  prf request assertion hassertion output houtput := by
    obtain ⟨-, hid, hprf⟩ := obliging_ok hassertion
    rw [hprf] at houtput
    rw [hid]
    exact (Option.some.inj houtput).symm

theorem obliging_asserts (challenge : String) :
    AssertsCredential crypto (obliging prf credentialId) credentialId challenge :=
  ⟨_, _, rfl, rfl, rfl, fun _ _ => ⟨0, rfl, by decide⟩⟩

/-- The browser cannot unlock more than it has stored. -/
theorem unlocksLater_stored {after : WebApp R} {device : TrustedDevice}
    (hstored : device ∈ after.server.db.trustedDevices.rows)
    (hkept : Kept userId device.webauthnCredentialId after after)
    (hunlocks : UnlocksLater crypto prf userId device.webauthnCredentialId after) :
    ∃ wrapped password user, after.stored device.webauthnCredentialId = some wrapped ∧
      unwrapMasterPassword crypto (prf device.webauthnCredentialId (getPrfEvalSalt crypto)) wrapped =
        .ok password ∧
      CurrentPassword R after.server.db device.userId (some password) user password := by
  obtain ⟨unlocked, hunlock, -⟩ := hunlocks after (obliging prf device.webauthnCredentialId) ""
    "challenge" 0 hkept obliging_lawful (obliging_asserts _) (by decide)
  obtain ⟨assertion, wrapped, output, password, found, user, hassertion, hwrapped, houtput, hunwrap,
    hfound, hcredential, hcurrent⟩ := handleBiometricUnlock_ok hunlock
  obtain ⟨-, hid, hprf⟩ := obliging_ok hassertion
  obtain rfl := Option.some.inj (hprf.symm.trans houtput)
  rw [hid] at hwrapped hcredential
  obtain rfl := after.server.db.trustedDevices.eq_of_clash hfound hstored (.inr hcredential)
  exact ⟨wrapped, password, user, hwrapped, hunwrap, hcurrent⟩

/-- A credential is that of one device. -/
theorem find?_credential {table : Table TrustedDevice} {device : TrustedDevice}
    (hdevice : device ∈ table.rows) : table.rows.find?
      (·.webauthnCredentialId = device.webauthnCredentialId) = some device := by
  cases hfound : table.rows.find? (·.webauthnCredentialId = device.webauthnCredentialId) with
  | none => exact absurd (decide_eq_true rfl) (List.find?_eq_none.mp hfound device hdevice)
  | some other =>
      have hselected := List.find?_some hfound
      rw [table.eq_of_clash (List.mem_of_find?_eq_some hfound) hdevice
        (.inr (of_decide_eq_true hselected))]

/-- What the browser has stored unlocks, when it unwraps to the current master password. -/
theorem unlocksLater_of_stored {after : WebApp R}
    {wrapped : WrappedMasterPassword} {password : String} {user : User}
    (hstored : after.stored credentialId = some wrapped)
    (hunwrap : unwrapMasterPassword crypto (prf credentialId (getPrfEvalSalt crypto)) wrapped =
      .ok password)
    (hcurrent : CurrentPassword R after.server.db userId (some password) user password) :
    UnlocksLater crypto prf userId credentialId after := by
  intro later start sessionId challenge now hkept hlawful hasserts hnonempty
  obtain ⟨assertion, output, hassertion, rfl, houtput, hverifies⟩ := hasserts
  obtain rfl := hlawful.prf _ _ hassertion output houtput
  have hauthenticated : authenticateWithStoredDevice crypto start sessionId challenge later =
      (.ok (assertion.toAuthenticationResponse, password), { later with
        server := later.server.save sessionId (challenged later sessionId challenge) }) :=
    authenticateWithStoredDevice_ok_iff.mpr
      ⟨⟨assertion, wrapped, _, hassertion, hkept.stored.trans hstored, houtput, hunwrap, rfl⟩, rfl⟩
  obtain ⟨device, hdevice, hcredential, rfl⟩ := hkept.device
  obtain ⟨counter, hverify⟩ := hverifies device hcredential
  obtain ⟨user', huser', hhash⟩ := hkept.user user hcurrent.1
  have hfind := find?_credential hdevice
  rw [hcredential] at hfind
  have hcurrent' : CurrentPassword R (challenged later sessionId challenge).db device.userId
      (some password) user' password := ⟨huser', rfl, hhash ▸ hcurrent.2.2⟩
  obtain ⟨ctx, hroute, huserId, hunlocked, hkeys⟩ :=
    @webauthnAuthenticate_unlocks R sessionId password now (challenged later sessionId challenge)
      assertion.toAuthenticationResponse device user'
      ⟨challenge, counter, rfl, hnonempty, hfind, hverify⟩ hcurrent'
  rw [← Server.context_save later.server sessionId (challenged later sessionId challenge)] at hroute
  refine ⟨_, (Handler.bind_of_ok hauthenticated).trans (apiFetch_of_run hroute), ?_, ?_, hkeys⟩
  · rw [Server.save_session]
    exact huserId
  · rw [Server.save_session]
    exact hunlocked

end Promise

/-- A registration that reported PRF support lets the device unlock later if and only if the
priming assertion gave a PRF result, and the typed password, as it will be decoded, is the current
master password. -/
theorem unlocksLater_iff (hcrypto : crypto.RoundTrip)
    {prf : String → List UInt8 → List UInt8} {browser : Registering}
    (hlawful : StartAuthentication.Lawful prf browser.startAuthentication)
    {sessionId userId : String} {times : Int × Int}
    {challenge freshId deviceLabel masterPassword : String} {app after : WebApp R}
    {result : RegisterResult} (hlogged : (app.server.sessions sessionId).loggedInAs = some userId)
    (hrun : registerThisDevice crypto browser sessionId times challenge freshId deviceLabel
      masterPassword app = (.ok result, after)) (hprf : result.prfSupported = true)
    {device : TrustedDevice}
    (hdevice : after.server.db.trustedDevices.find? result.deviceId = some device)
    (hnew : app.stored device.webauthnCredentialId = none) :
    UnlocksLater crypto prf userId device.webauthnCredentialId after ↔
      Primes crypto browser device.webauthnCredentialId ∧
        ∃ user, CurrentPassword R app.server.db userId
          (some (withoutByteOrderMark masterPassword)) user
          (withoutByteOrderMark masterPassword) := by
  obtain ⟨device', hid, hregistered⟩ := registerThisDevice_ok hlogged hrun hprf
  obtain rfl : device' = device := Option.some.inj
    ((Table.find?_eq_some_iff.mpr ⟨hregistered.stored, hid⟩).symm.trans hdevice)
  have hpassword : ∀ assertion output wrapped, browser.startAuthentication
      ⟨browser.primingChallenge, [device'.webauthnCredentialId], getPrfEvalSalt crypto⟩ =
        .ok assertion → assertion.prfOutput = some output →
      wrapMasterPassword crypto output masterPassword browser.iv = .ok wrapped →
        unwrapMasterPassword crypto (prf device'.webauthnCredentialId (getPrfEvalSalt crypto))
          wrapped = .ok (withoutByteOrderMark masterPassword) := by
    intro assertion output wrapped hassertion houtput hwrap
    have hcredential : assertion.id = device'.webauthnCredentialId :=
      List.mem_singleton.mp (hlawful.allowed _ _ hassertion (by simp))
    obtain rfl := hlawful.prf _ _ hassertion output houtput
    obtain ⟨wrapped', hwrap', hunwrap⟩ := unwrap_wrap hcrypto
      (prf assertion.id (getPrfEvalSalt crypto)) masterPassword browser.iv
    rw [hwrap] at hwrap'
    rw [Except.ok.inj hwrap', ← hcredential]
    exact hunwrap
  -- The browser has stored the wrapped password, or nothing at all for a new credential.
  cases hregistered.primed with
  | wrapped assertion output wrapped hassertion houtput hwrap hstored =>
      have hentry : after.stored device'.webauthnCredentialId = some wrapped := by
        rw [hstored, Function.update_self]
      have hunwrap := hpassword assertion output wrapped hassertion houtput hwrap
      constructor
      · intro hunlocks
        obtain ⟨wrapped', password, user, hwrapped, hunwrap', hcurrent⟩ :=
          unlocksLater_stored hregistered.stored (.refl hregistered) hunlocks
        obtain rfl := Option.some.inj (hentry.symm.trans hwrapped)
        rw [hunwrap] at hunwrap'
        obtain rfl := Except.ok.inj hunwrap'
        refine ⟨⟨assertion, hassertion, by rw [houtput]; rfl⟩, user, ?_⟩
        rw [hregistered.owner] at hcurrent
        exact ⟨hregistered.users ▸ hcurrent.1, hcurrent.2⟩
      · rintro ⟨-, user, hcurrent⟩
        exact unlocksLater_of_stored hentry hunwrap
          ⟨hregistered.users ▸ hcurrent.1, hcurrent.2⟩
  | noResult assertion hassertion hnone hstored =>
      constructor
      · intro hunlocks
        obtain ⟨_, _, _, hwrapped, -⟩ :=
          unlocksLater_stored hregistered.stored (.refl hregistered) hunlocks
        rw [hstored, hnew] at hwrapped
        contradiction
      · rintro ⟨⟨assertion', hassertion', hsome⟩, -⟩
        obtain rfl := Except.ok.inj (hassertion.symm.trans hassertion')
        rw [hnone] at hsome
        contradiction

/-! ## A run -/

namespace LaptopRegistration

def prf (credentialId : String) (salt : List UInt8) : List UInt8 := textEncode credentialId ++ salt

def user : User where
  id := "u"
  googleSubId := "sub"
  googleEmail := "u@example.com"
  masterPasswordHash := symbolicRuntime.hashMasterPassword "hash-salt" "password"
  masterKdfSalt := "kdf-salt"
  autoLockMinutes := 10
  createdAt := 0

/-- An unlocked session, and a browser that has stored nothing. -/
def app : WebApp symbolicRuntime where
  stored := fun _ => none
  server :=
    { db := { Database.empty with users := ⟨[user], by decide⟩ }
      keys := UnlockKeyStore.empty.set "sid" 0 ("password", "kdf-salt") 10
      sessions := fun _ => { userId := some "u", unlocked := some true } }

def registration : BrowserRegistration where
  id := "credential"
  verify _ := .ok (some ("credential", "public", 0))
  prfEnabled := true
  reads_id _ info hinfo := by
    rw [← Option.some.inj (Except.ok.inj hinfo)]

/-- The answer to the priming assertion. -/
abbrev Priming := Except Exception (Option (List UInt8))

def primes : Priming := .ok (some (prf "credential" (getPrfEvalSalt spelledCrypto)))

def browser (priming : Priming) : Registering where
  optionsDelivery := .answered
  startRegistration _ _ := .ok registration
  registerDelivery := .answered
  startAuthentication request :=
    if request = ⟨"local", ["credential"], getPrfEvalSalt spelledCrypto⟩ then
      priming.map fun prfOutput =>
        { id := "credential", verify := fun _ _ => .ok none, prfOutput }
    else .error (.error "NotAllowedError")
  primingChallenge := "local"
  iv := Vector.replicate 12 0
  saving := none

theorem lawful : StartAuthentication.Lawful prf (browser primes).startAuthentication where
  allowed request assertion hassertion _ := by
    simp only [browser] at hassertion
    split at hassertion
    next hrequest =>
      rw [← Except.ok.inj hassertion, hrequest]
      exact List.mem_singleton_self _
    next => contradiction
  prf request assertion hassertion output houtput := by
    simp only [browser] at hassertion
    split at hassertion
    next hrequest =>
      rw [← Except.ok.inj hassertion] at houtput ⊢
      rw [hrequest]
      exact (Option.some.inj houtput).symm
    next => contradiction

def register (priming : Priming) : Except Exception RegisterResult × WebApp symbolicRuntime :=
  registerThisDevice spelledCrypto (browser priming) "sid" (0, 0) "challenge" "device" "laptop"
    "password" app

/-- The row that the registration stores. -/
def device : TrustedDevice where
  id := "device"
  userId := "u"
  deviceLabel := "laptop"
  webauthnCredentialId := "credential"
  webauthnPublicKey := "public"
  counter := 0
  createdAt := 0
  lastUsedAt := none

end LaptopRegistration

open LaptopRegistration in
/-- Without a PRF result of the priming assertion nothing is stored, so nothing unlocks. -/
theorem not_unlocksLater_unprimed : (register (.ok none)).1 = .ok ⟨"device", true⟩ ∧
    ¬ UnlocksLater spelledCrypto prf "u" "credential" (register (.ok none)).2 := by
  refine ⟨rfl, fun hunlocks => ?_⟩
  have hstored : device ∈ (register (.ok none)).2.server.db.trustedDevices.rows :=
    List.mem_singleton_self _
  have hkept : Kept "u" device.webauthnCredentialId (register (.ok none)).2
      (register (.ok none)).2 :=
    ⟨rfl, ⟨device, hstored, rfl, rfl⟩, fun user hfind => ⟨user, hfind, rfl⟩⟩
  obtain ⟨wrapped, _, _, hwrapped, -⟩ := unlocksLater_stored hstored hkept hunlocks
  contradiction

open LaptopRegistration in
theorem unlocksLater_iff_example :
    UnlocksLater spelledCrypto prf "u" "credential" (register primes).2 := by
  have hrun : register primes = (.ok ⟨"device", true⟩, (register primes).2) := rfl
  have hiff := @unlocksLater_iff symbolicRuntime spelledCrypto spelledCrypto_roundTrip prf
    (browser primes) lawful "sid" "u" (0, 0) "challenge" "device" "laptop" "password" app _ _ rfl
    hrun rfl device rfl rfl
  refine hiff.mpr ⟨⟨_, rfl, rfl⟩, user, rfl, rfl, ?_⟩
  exact (symbolicRuntime.argon2Laws.verify_hash "hash-salt" "password" _).mpr rfl

end MyAccountController
