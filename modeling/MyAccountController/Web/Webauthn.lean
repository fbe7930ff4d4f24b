import MyAccountController.Auth.Server
import MyAccountController.Auth.SessionEffect
import MyAccountController.Web.WebauthnCrypto

/-! # `webauthn.ts` of the web application

The browser wraps the master password that was typed at the registration of a
device under a key derived from the PRF output of the credential, and keeps it in
its IndexedDB. The WebAuthn functions of the browser are parameters.
-/

namespace MyAccountController

open Foundation

/-! ## The browser -/

/-- `RegistrationResponseJSON` as the browser answers it. The library of the server reads the
credential id of the browser from it. -/
structure BrowserRegistration extends RegistrationResponse where
  id : String
  /-- `!!clientExtensionResults?.prf?.enabled`. -/
  prfEnabled : Bool
  reads_id : ∀ challenge info, verify challenge = .ok (some info) → info.1 = id

/-- The request options of an assertion. No `allowCredentials` leaves the choice to the user. -/
structure AssertionRequest where
  challenge : String
  allowCredentials : List String
  prfSalt : List UInt8
  deriving DecidableEq, Repr

/-- `AuthenticationResponseJSON` with its PRF result, if there is one. -/
structure Assertion extends AuthenticationResponse where
  prfOutput : Option (List UInt8)

/-- What the browser does when it is asked for an assertion. -/
abbrev StartAuthentication := AssertionRequest → Except Exception Assertion

/-- An assertion is by an allowed credential, and its PRF result is a function of the credential
and the salt. -/
structure StartAuthentication.Lawful (prf : String → List UInt8 → List UInt8)
    (start : StartAuthentication) : Prop where
  allowed : ∀ request assertion, start request = .ok assertion →
    request.allowCredentials ≠ [] → assertion.id ∈ request.allowCredentials
  prf : ∀ request assertion, start request = .ok assertion →
    ∀ output ∈ assertion.prfOutput, output = prf assertion.id request.prfSalt

/-- What becomes of a request: it arrives and is answered, or `fetch` throws before or after the
server has handled it. -/
inductive Delivery where
  | answered
  | requestLost (err : Exception)
  | responseLost (err : Exception)

/-- How the browser and the network behave during a registration, with the random draws of the
browser. `saving` is what IndexedDB fails with. -/
structure Registering where
  optionsDelivery : Delivery
  startRegistration : (challenge : String) → (excludeCredentials : List String) →
    Except Exception BrowserRegistration
  registerDelivery : Delivery
  startAuthentication : StartAuthentication
  primingChallenge : String
  iv : Vector UInt8 12
  saving : Option Exception

/-- The IndexedDB of one browser, and the server. -/
structure WebApp (R : Runtime) where
  stored : String → Option WrappedMasterPassword
  server : Server R

/-- `{ deviceId, prfSupported }`. -/
structure RegisterResult where
  deviceId : String
  prfSupported : Bool
  deriving DecidableEq, Repr

section Functions

variable {R : Runtime}

/-- A request of the session of the browser. -/
def apiFetch {α : Type} (delivery : Delivery) (sessionId : String) (route : Route R α) :
    Handler Exception (WebApp R) α := fun app =>
  let (result, server) := app.server.serve sessionId route
  match delivery with
  | .answered => (result, { app with server })
  | .requestLost err => (.error err, app)
  | .responseLost err => (.error err, { app with server })

def saveWrappedMasterPassword (saving : Option Exception) (credentialId : String)
    (entry : WrappedMasterPassword) : Handler Exception (WebApp R) Unit :=
  match saving with
  | some err => Handler.raise err
  | none => Handler.modify fun app => { app with
      stored := Function.update app.stored credentialId (some entry) }

/-- The local assertion with the new credential, and the password wrapped under its result. -/
def prime (crypto : WebCrypto) (browser : Registering) (credentialId masterPassword : String) :
    Handler Exception (WebApp R) Unit := do
  let primingAssertion ← Handler.ofExcept (browser.startAuthentication
    { challenge := browser.primingChallenge
      allowCredentials := [credentialId]
      prfSalt := getPrfEvalSalt crypto })
  match primingAssertion.prfOutput with
  | some prfOutput => do
      let wrapped ← Handler.ofExcept
        (wrapMasterPassword crypto prfOutput masterPassword browser.iv)
      saveWrappedMasterPassword browser.saving credentialId wrapped
  | none => pure ()

/-- The server handles the two requests at the times `times`, and draws the challenge and the id
of the device. -/
def registerThisDevice (crypto : WebCrypto) (browser : Registering) (sessionId : String)
    (times : Int × Int) (challenge freshId deviceLabel masterPassword : String) :
    Handler Exception (WebApp R) RegisterResult := do
  let options ← apiFetch browser.optionsDelivery sessionId
    (AuthController.webauthnRegisterOptions sessionId times.1 challenge)
  let regResponse ← Handler.ofExcept (browser.startRegistration options.1 options.2)
  let device ← apiFetch browser.registerDelivery sessionId
    (AuthController.webauthnRegister sessionId times.2 freshId (some deviceLabel)
      regResponse.toRegistrationResponse)
  if regResponse.prfEnabled then prime crypto browser regResponse.id masterPassword
  pure { deviceId := device.id, prfSupported := regResponse.prfEnabled }

def nothingStored : Exception :=
  .error "이 기기에 저장된 생체인증 정보를 찾을 수 없습니다. 마스터 비밀번호로 잠금 해제해주세요."

def authenticateWithStoredDevice (crypto : WebCrypto) (start : StartAuthentication)
    (sessionId challenge : String) :
    Handler Exception (WebApp R) (AuthenticationResponse × String) := do
  let challenge ← apiFetch .answered sessionId
    (AuthController.webauthnAuthenticateOptions challenge)
  let assertion ← Handler.ofExcept
    (start { challenge, allowCredentials := [], prfSalt := getPrfEvalSalt crypto })
  let app ← Handler.state
  let wrapped ← Handler.expect (app.stored assertion.id) nothingStored
  let prfOutput ← Handler.expect assertion.prfOutput nothingStored
  let password ← Handler.ofExcept (unwrapMasterPassword crypto prfOutput wrapped)
  pure (assertion.toAuthenticationResponse, password)

/-- `handleBiometricUnlock` of the login page. -/
def handleBiometricUnlock (crypto : WebCrypto) (start : StartAuthentication)
    (sessionId challenge : String) (now : Int) : Handler Exception (WebApp R) Unit := do
  let (response, password) ← authenticateWithStoredDevice crypto start sessionId challenge
  apiFetch .answered sessionId
    (AuthController.webauthnAuthenticate sessionId now response (some password))

end Functions

end MyAccountController
