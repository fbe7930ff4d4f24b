import MyAccountController.Auth.WebAuthnService

/-! # `AuthController`

One definition for each route under `/auth`, with its guard. The values a
request brings from outside the program are its arguments: the body, the answer
of Google, the answer of the WebAuthn library and the random draws.
-/

namespace MyAccountController

open Foundation

variable {R : Runtime}

namespace AuthController

def googleStart (generatedState : String) : Route R String :=
  AuthService.createGoogleAuthUrl generatedState

/-- Where the callback sends the browser: `/login?step=..` or `/login?error=..`. -/
inductive LoginRedirect where
  | step (name : String)
  | error (err : Exception)
  deriving DecidableEq, Repr

/-- Every exception becomes a redirect. -/
def googleCallback (oauthState : Option String)
    (profile : Except Exception GoogleProfile) : Route R LoginRedirect :=
  Handler.recover
    (do
      let result ← AuthService.handleGoogleCallback oauthState profile
      match result with
      | .needs_master_password_setup _ => pure (.step "setup")
      | .logged_in => pure (.step "unlock"))
    fun err => pure (.error err)

def setupMasterPassword (sessionId : String) (now : Int) (password : Option String)
    (fresh : FreshSecrets R) : Route R User :=
  AuthService.setupMasterPassword sessionId now password fresh

def changeMasterPassword (sessionId : String) (now : Int)
    (currentPassword newPassword : Option String) (fresh : FreshSecrets R) :
    Route R Nat := do
  let (userId, _) ← unlockedGuard sessionId now
  AuthService.changeMasterPassword sessionId now userId currentPassword newPassword fresh

def unlock (sessionId : String) (now : Int) (password : Option String) : Route R Unit := do
  let userId ← loggedInGuard
  AuthService.unlock sessionId now userId password

def lock (sessionId : String) : Route R Unit := do
  let _ ← loggedInGuard
  AuthService.lock sessionId

/-- `req.session.destroy`: nothing of the session is left. -/
def destroySession : Route R Unit :=
  Handler.modify (·.withSession fun _ => {})

def logout (sessionId : String) : Route R Unit := do
  AuthService.logout sessionId
  destroySession

/-- `me`, answering the user id and whether the session is unlocked. -/
def me (sessionId : String) (now : Int) : Route R (String × Bool) := do
  let userId ← loggedInGuard
  let unlocked ← AuthService.checkStillUnlocked sessionId now
  pure (userId, unlocked)

def settings : Route R Int := do
  let userId ← loggedInGuard
  onDatabase (AuthService.getSettings userId)

def updateAutoLockMinutes (sessionId : String) (now : Int) (autoLockMinutes : Option Int) :
    Route R Unit := do
  let (userId, _) ← unlockedGuard sessionId now
  AuthService.updateAutoLockMinutes sessionId userId autoLockMinutes

def webauthnDevices (sessionId : String) (now : Int) : Route R (List TrustedDevice) := do
  let (userId, _) ← unlockedGuard sessionId now
  onDatabase (WebAuthnService.listDevices userId)

/-- Remember the challenge of a WebAuthn ceremony. -/
def setChallenge (challenge : String) : Route R Unit :=
  Handler.modify (·.withSession fun session =>
    { session with currentWebauthnChallenge := some challenge })

/-- Take the remembered challenge, once. -/
def takeChallenge (missing : Exception) : Route R String := do
  let ctx ← Handler.state
  let expectedChallenge ← Handler.expect
    (ctx.session.currentWebauthnChallenge.filter (· ≠ "")) missing
  Handler.modify (·.withSession fun session =>
    { session with currentWebauthnChallenge := none })
  pure expectedChallenge

def webauthnRegisterOptions (sessionId : String) (now : Int) (challenge : String) :
    Route R (String × List String) := do
  let (userId, _) ← unlockedGuard sessionId now
  let options ← onDatabase (WebAuthnService.createRegistrationOptions userId challenge)
  setChallenge options.1
  pure options

def webauthnRegister (sessionId : String) (now : Int) (freshId : String)
    (deviceLabel : Option String) (response : RegistrationResponse) :
    Route R TrustedDevice := do
  let (userId, _) ← unlockedGuard sessionId now
  let expectedChallenge ← takeChallenge (.unauthorized "먼저 register-options를 호출해주세요.")
  onDatabase (WebAuthnService.verifyRegistration now freshId userId deviceLabel
    expectedChallenge response)

/-- `createAuthenticationOptions` draws a challenge. -/
def webauthnAuthenticateOptions (challenge : String) : Route R String := do
  setChallenge challenge
  pure challenge

/-- `webauthnAuthenticate`. The session becomes that of the device's user
before the master password is checked. -/
def webauthnAuthenticate (sessionId : String) (now : Int) (response : AuthenticationResponse)
    (password : Option String) : Route R Unit := do
  let expectedChallenge ← takeChallenge (.unauthorized "먼저 authenticate-options를 호출해주세요.")
  let device ← onDatabase
    (WebAuthnService.verifyAuthentication now expectedChallenge response)
  Handler.modify (·.withSession fun session => { session with userId := some device.userId })
  AuthService.unlock sessionId now device.userId password

def webauthnRemove (sessionId : String) (now : Int) (deviceId : String) : Route R Unit := do
  let (userId, _) ← unlockedGuard sessionId now
  onDatabase (WebAuthnService.removeDevice userId deviceId)

end AuthController

/-- A request to a route under `/auth`. -/
inductive AuthRequest (R : Runtime) where
  | googleStart (generatedState : String)
  | googleCallback (oauthState : Option String) (profile : Except Exception GoogleProfile)
  | setupMasterPassword (password : Option String) (fresh : FreshSecrets R)
  | changeMasterPassword (currentPassword newPassword : Option String) (fresh : FreshSecrets R)
  | unlock (password : Option String)
  | lock
  | logout
  | me
  | settings
  | updateAutoLockMinutes (autoLockMinutes : Option Int)
  | webauthnDevices
  | webauthnRegisterOptions (challenge : String)
  | webauthnRegister (freshId : String) (deviceLabel : Option String)
      (response : RegistrationResponse)
  | webauthnAuthenticateOptions (challenge : String)
  | webauthnAuthenticate (response : AuthenticationResponse) (password : Option String)
  | webauthnRemove (deviceId : String)

/-- The requests that put a key into the store when they succeed. -/
def AuthRequest.setsKey : AuthRequest R → Bool
  | .setupMasterPassword _ _ | .changeMasterPassword _ _ _ | .unlock _
  | .webauthnAuthenticate _ _ => true
  | _ => false

/-- The route a request is dispatched to. The response body is dropped. -/
def AuthRequest.route (sessionId : String) (now : Int) : AuthRequest R → Route R Unit
  | .googleStart generatedState => do
      let _ ← AuthController.googleStart generatedState
  | .googleCallback oauthState profile => do
      let _ ← AuthController.googleCallback oauthState profile
  | .setupMasterPassword password fresh => do
      let _ ← AuthController.setupMasterPassword sessionId now password fresh
  | .changeMasterPassword currentPassword newPassword fresh => do
      let _ ← AuthController.changeMasterPassword sessionId now currentPassword newPassword fresh
  | .unlock password => AuthController.unlock sessionId now password
  | .lock => AuthController.lock sessionId
  | .logout => AuthController.logout sessionId
  | .me => do
      let _ ← AuthController.me sessionId now
  | .settings => do
      let _ ← AuthController.settings
  | .updateAutoLockMinutes autoLockMinutes =>
      AuthController.updateAutoLockMinutes sessionId now autoLockMinutes
  | .webauthnDevices => do
      let _ ← AuthController.webauthnDevices sessionId now
  | .webauthnRegisterOptions challenge => do
      let _ ← AuthController.webauthnRegisterOptions sessionId now challenge
  | .webauthnRegister freshId deviceLabel response => do
      let _ ← AuthController.webauthnRegister sessionId now freshId deviceLabel response
  | .webauthnAuthenticateOptions challenge => do
      let _ ← AuthController.webauthnAuthenticateOptions challenge
  | .webauthnAuthenticate response password =>
      AuthController.webauthnAuthenticate sessionId now response password
  | .webauthnRemove deviceId => AuthController.webauthnRemove sessionId now deviceId

end MyAccountController
