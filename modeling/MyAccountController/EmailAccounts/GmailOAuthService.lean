import MyAccountController.Auth.Session
import MyAccountController.EmailAccounts.EmailAccountsService
import MyAccountController.Foundation.Interleaving

/-! # `GmailOAuthService` and the callback of a Gmail connection

One Google client serves all requests. The tokens of a callback are set on the
client before the profile is asked for, and the client reads what is set on it
when it authorises that request, which is after an await.
-/

namespace MyAccountController

open Foundation

/-- `Credentials` of the Google client. -/
structure Credentials where
  access_token : Option String := none
  refresh_token : Option String := none
  expiry_date : Option Int := none
  deriving DecidableEq, Repr

/-- What Google answers: the tokens for a code, and the address of the mailbox that two
tokens open. -/
structure Google where
  getToken : (code : Option String) → Except Exception Credentials
  getProfile : (access_token refresh_token : Option String) → Except Exception (Option String)

/-- The database, and what is set on the client. -/
structure GmailState where
  db : Database
  client : Credentials

/-- `!value` is false for the empty string as well. -/
def present (value : Option String) : Option String :=
  value.filter (· ≠ "")

namespace GmailOAuthService

def refreshTokenMissing : Exception :=
  .error ("Google이 refresh_token을 반환하지 않았습니다. 이미 연동된 계정이면 Google 계정 설정에서 " ++
    "앱 연결을 해제한 뒤 다시 시도해주세요.")

def profileMissing : Exception := .error "Gmail 프로필을 확인할 수 없습니다."

def setCredentials (tokens : Credentials) : Handler Exception GmailState Unit :=
  Handler.modify fun state => { state with client := tokens }

/-- `gmail.users.getProfile`, authorised with what is set on the client. -/
def getProfile (google : Google) (client : Credentials) :
    Handler Exception GmailState (Option String) :=
  Handler.ofExcept (google.getProfile client.access_token client.refresh_token)

def exchangeCodeForTokens (google : Google) (code : Option String) :
    Handler Exception GmailState GmailTokens := do
  let tokens ← Handler.ofExcept (google.getToken code)
  let accessToken ← Handler.expect (present tokens.access_token) refreshTokenMissing
  let refreshToken ← Handler.expect (present tokens.refresh_token) refreshTokenMissing
  setCredentials tokens
  let state ← Handler.state
  let profile ← getProfile google state.client
  let email ← Handler.expect (present profile) profileMissing
  pure { email, accessToken, refreshToken, expiryDate := tokens.expiry_date }

end GmailOAuthService

namespace EmailAccountsController

def oauthStart (generatedState : String) : Handler Exception SessionData String := do
  let session ← Handler.state
  let _ ← Handler.expect session.loggedInAs (.unauthorized "로그인이 필요합니다.")
  Handler.modify fun session => { session with gmailOAuthState := some generatedState }
  pure generatedState

/-- The first part of `oauthCallback`, answering the user. -/
def takeState (oauthState : Option String) : Handler Exception SessionData String := do
  let session ← Handler.state
  Handler.ensure (oauthState.any (· ≠ "") ∧ oauthState = session.gmailOAuthState)
    (.error "OAuth state가 일치하지 않습니다.")
  Handler.modify fun session => { session with gmailOAuthState := none }
  Handler.expect session.loggedInAs (.error "로그인이 필요합니다.")

/-- Where the callback sends the browser: `/mail/rules?connected=1` or `/mail/rules?error=..`. -/
inductive ConnectRedirect where
  | connected
  | error (err : Exception)
  deriving DecidableEq, Repr

variable {R : Runtime}

def zoomDatabase {α : Type} (query : Query α) : Handler Exception GmailState α :=
  Handler.zoom GmailState.db (fun state db => { state with db }) query

/-- The rest of `oauthCallback`. Every exception becomes a redirect. -/
def connect (google : Google) (tokenKey : R.Key) (now : Int) (fresh : FreshEmailAccount R)
    (userId : String) (code : Option String) : Handler Exception GmailState Unit := do
  let tokens ← GmailOAuthService.exchangeCodeForTokens google code
  let _ ← zoomDatabase (EmailAccountsService.createFromGmail tokenKey now fresh userId tokens)

end EmailAccountsController

/-! ## The callback in turns -/

/-- What a callback waits for once its state was accepted. -/
inductive ConnectPhase where
  /-- Google is exchanging the code. -/
  | exchanging (code : Option String)
  /-- The client is about to authorise the profile request. -/
  | authorising (tokens : Credentials) (accessToken refreshToken : String)
  /-- Google is answering the profile request, made with the credentials used. -/
  | asking (tokens : Credentials) (accessToken refreshToken : String) (used : Credentials)
  /-- The row is to be created. -/
  | storing (tokens : GmailTokens)

open GmailOAuthService EmailAccountsController in
def ConnectPhase.turn {R : Runtime} (google : Google) (tokenKey : R.Key) (now : Int)
    (fresh : FreshEmailAccount R) (userId : String) :
    ConnectPhase → Handler Exception GmailState (Option ConnectPhase)
  | exchanging code => do
      let tokens ← Handler.ofExcept (google.getToken code)
      let accessToken ← Handler.expect (present tokens.access_token) refreshTokenMissing
      let refreshToken ← Handler.expect (present tokens.refresh_token) refreshTokenMissing
      setCredentials tokens
      pure (some (.authorising tokens accessToken refreshToken))
  | authorising tokens accessToken refreshToken => do
      let state ← Handler.state
      pure (some (.asking tokens accessToken refreshToken state.client))
  | asking tokens accessToken refreshToken used => do
      let profile ← getProfile google used
      let email ← Handler.expect (present profile) profileMissing
      pure (some (.storing
        { email, accessToken, refreshToken, expiryDate := tokens.expiry_date }))
  | storing tokens => do
      let _ ← zoomDatabase (EmailAccountsService.createFromGmail tokenKey now fresh userId tokens)
      pure none

/-- The turns of a callback alone. -/
theorem connect_inRow {R : Runtime} (google : Google) (tokenKey : R.Key) (now : Int)
    (fresh : FreshEmailAccount R) (userId : String) (code : Option String) :
    inRow (ConnectPhase.turn google tokenKey now fresh userId) 4 (.exchanging code) =
      EmailAccountsController.connect google tokenKey now fresh userId code := by
  have : LawfulMonad (Handler Exception GmailState) := Handler.lawfulMonad
  simp only [inRow, ConnectPhase.turn, EmailAccountsController.connect,
    GmailOAuthService.exchangeCodeForTokens, bind_assoc, pure_bind]

end MyAccountController
