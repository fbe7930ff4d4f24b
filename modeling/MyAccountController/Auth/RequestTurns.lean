import MyAccountController.Auth.AuthController
import MyAccountController.Foundation.Interleaving

/-! # Requests in turns

The requests that put a key into the store wait several times: for the session
to be loaded, for each query and for each Argon2 computation. A phase is what
such a request waits for, and a turn is what it does when the wait is over. The
turns of a request that runs alone make up its route.
-/

namespace MyAccountController

open Foundation

variable {R : Runtime}

/-! ## `unlock` -/

/-- What `AuthService.unlock` waits for. -/
inductive UnlockPhase where
  /-- The query for the user is to run. -/
  | findUser (userId : String)
  | userFound (found : Option User)
  /-- `verifyMasterPassword` is computing. -/
  | verifying (user : User)
  /-- `deriveEncryptionKey` is computing. -/
  | derivingKey (user : User) (password : String)
  deriving DecidableEq

def UnlockPhase.turn (sessionId : String) (now : Int) (password : Option String) :
    UnlockPhase → Route R (Option UnlockPhase)
  | .findUser userId => do
      let found ← onDatabase (Prisma.user.findUnique userId)
      pure (some (.userFound found))
  | .userFound found => do
      let user ← Handler.expect found (.unauthorized "사용자를 찾을 수 없습니다.")
      pure (some (.verifying user))
  | .verifying user => do
      let password ← Handler.expect password (.error "password must be a string")
      Handler.ensure (R.verifyMasterPassword password user.masterPasswordHash = true)
        (.unauthorized "마스터 비밀번호가 올바르지 않습니다.")
      pure (some (.derivingKey user password))
  | .derivingKey user password => do
      AuthService.storeKey sessionId now (R.deriveEncryptionKey password user.masterKdfSalt)
        user.autoLockMinutes
      pure none

/-! ## `webauthnAuthenticate` -/

/-- What `AuthController.webauthnAuthenticate` waits for. -/
inductive AuthenticatePhase where
  | findDevice (expectedChallenge : String)
  | deviceFound (expectedChallenge : String) (found : Option TrustedDevice)
  /-- The library is verifying the assertion. -/
  | asserting (expectedChallenge : String) (device : TrustedDevice)
  /-- The update of the signature counter is to run. -/
  | countUse (device : TrustedDevice) (newCounter : Int)
  | useCounted (device : TrustedDevice)
  | unlocking (phase : UnlockPhase)
  deriving DecidableEq

def AuthenticatePhase.turn (sessionId : String) (now : Int) (response : AuthenticationResponse)
    (password : Option String) : AuthenticatePhase → Route R (Option AuthenticatePhase)
  | .findDevice expectedChallenge => do
      let found ← onDatabase
        (Prisma.trustedDevice.findFirst (·.webauthnCredentialId = response.id))
      pure (some (.deviceFound expectedChallenge found))
  | .deviceFound expectedChallenge found => do
      let device ← Handler.expect found (.unauthorized "등록되지 않은 기기입니다.")
      pure (some (.asserting expectedChallenge device))
  | .asserting expectedChallenge device => do
      let newCounter ← onDatabase (WebAuthnService.verification
        (response.verify expectedChallenge device)
        (fun message => "생체인증 검증 실패: " ++ message) "생체인증을 검증할 수 없습니다.")
      pure (some (.countUse device newCounter))
  | .countUse device newCounter => do
      let _ ← onDatabase (WebAuthnService.countUse device.id newCounter now)
      pure (some (.useCounted device))
  | .useCounted device => do
      -- The session is the device user's from here on, still before the password check.
      Handler.modify (·.withSession fun session => { session with userId := some device.userId })
      pure (some (.unlocking (.findUser device.userId)))
  | .unlocking phase => do
      let next ← phase.turn sessionId now password
      pure (next.map .unlocking)

/-! ## `changeMasterPassword` -/

/-- What `AuthService.changeMasterPassword` waits for. The statements of its
transaction touch neither the session nor the key store, so the transaction is
one turn here. -/
inductive ChangePhase (R : Runtime) where
  | findUser
  | userFound (found : Option User)
  | verifying (user : User)
  | derivingOldKey (user : User) (currentPassword newPassword : String)
  /-- `Promise.all` of the new hash and the new key. -/
  | derivingNewKey (user : User) (oldKey : R.Key) (newPassword : String)
  | findAccounts (user : User) (oldKey newKey : R.Key) (newHash : String)
  /-- The transaction is to run on the snapshot. -/
  | transaction (user : User) (oldKey newKey : R.Key) (newHash : String)
      (accounts : List AuthService.AccountSecret)
  | committed (user : User) (newKey : R.Key)

def ChangePhase.turn (sessionId : String) (now : Int) (userId : String)
    (currentPassword newPassword : Option String) (fresh : FreshSecrets R) :
    ChangePhase R → Route R (Option (ChangePhase R))
  | .findUser => do
      let found ← onDatabase (Prisma.user.findUnique userId)
      pure (some (.userFound found))
  | .userFound found => do
      let user ← Handler.expect found (.unauthorized "사용자를 찾을 수 없습니다.")
      pure (some (.verifying user))
  | .verifying user => do
      let currentPassword ← Handler.expect currentPassword (.error "password must be a string")
      Handler.ensure (R.verifyMasterPassword currentPassword user.masterPasswordHash = true)
        (.unauthorized "현재 마스터 비밀번호가 올바르지 않습니다.")
      let newPassword ← AuthService.newMasterPassword newPassword
      pure (some (.derivingOldKey user currentPassword newPassword))
  | .derivingOldKey user currentPassword newPassword =>
      pure (some (.derivingNewKey user (R.deriveEncryptionKey currentPassword user.masterKdfSalt)
        newPassword))
  | .derivingNewKey user oldKey newPassword =>
      pure (some (.findAccounts user oldKey (R.deriveEncryptionKey newPassword fresh.kdfSalt)
        (R.hashMasterPassword fresh.hashSalt newPassword)))
  | .findAccounts user oldKey newKey newHash => do
      let accounts ← onDatabase (Prisma.account.findMany (·.userId = userId))
      pure (some (.transaction user oldKey newKey newHash
        (accounts.map AuthService.AccountSecret.ofAccount)))
  | .transaction user oldKey newKey newHash accounts => do
      let _ ← onDatabase (Handler.transaction
        (AuthService.rotateKeys userId accounts oldKey newKey newHash fresh now))
      pure (some (.committed user newKey))
  | .committed user newKey => do
      AuthService.storeKey sessionId now newKey user.autoLockMinutes
      pure none

/-! ## `setupMasterPassword` -/

/-- What `AuthService.setupMasterPassword` waits for once it has checked the
session and the password. -/
inductive SetupPhase (R : Runtime) where
  /-- `Promise.all` of the hash and the key. -/
  | derivingKey (pending : GoogleProfile) (password : String)
  | createUser (user : User) (encryptionKey : R.Key)
  | userCreated (user : User) (encryptionKey : R.Key)

def SetupPhase.turn (sessionId : String) (now : Int) (fresh : FreshSecrets R) :
    SetupPhase R → Route R (Option (SetupPhase R))
  | .derivingKey pending password =>
      pure (some (.createUser (AuthService.newUser pending password fresh now)
        (R.deriveEncryptionKey password fresh.kdfSalt)))
  | .createUser user encryptionKey => do
      let user ← onDatabase (Prisma.user.create user)
      pure (some (.userCreated user encryptionKey))
  | .userCreated user encryptionKey => do
      Handler.modify (·.withSession fun session =>
        { session with pendingGoogle := none, userId := some user.id })
      AuthService.storeKey sessionId now encryptionKey user.autoLockMinutes
      pure none

/-! ## `handleGoogleCallback` -/

/-- What `AuthService.handleGoogleCallback` waits for once it has checked the state. -/
inductive CallbackPhase where
  /-- Google is exchanging the code for a profile. -/
  | exchanging
  | findUser (profile : GoogleProfile)
  | userFound (profile : GoogleProfile) (found : Option User)

def CallbackPhase.turn (profile : Except Exception GoogleProfile) :
    CallbackPhase → Route R (Option CallbackPhase)
  | .exchanging => do
      let profile ← Handler.ofExcept profile
      pure (some (.findUser profile))
  | .findUser profile => do
      let found ← onDatabase (Prisma.user.findFirst (·.googleSubId = profile.sub))
      pure (some (.userFound profile found))
  | .userFound _ (some user) => do
      Handler.modify (·.withSession fun session =>
        { session with userId := some user.id, unlocked := some false })
      pure none
  | .userFound profile none => do
      Handler.modify (·.withSession fun session =>
        { session with pendingGoogle := some profile })
      pure none

/-! ## Alone, the turns are the route -/

section Alone

variable {sessionId : String} {now : Int}

/-- A database method inside a request may be taken apart at its binds. -/
theorem onDatabase_bind {α β : Type} (query : Query α) (f : α → Query β) :
    (onDatabase (query >>= f) : Route R β) = onDatabase query >>= fun a => onDatabase (f a) := by
  funext ctx
  rcases hquery : query ctx.db with ⟨e | a, db⟩
  · have hfirst : (onDatabase query : Route R α) ctx = (.error e, ctx.withDb db) :=
      onDatabase_run.mpr ⟨db, hquery, rfl⟩
    rw [Handler.bind_of_error hfirst]
    exact onDatabase_run.mpr ⟨db, Handler.bind_of_error hquery, rfl⟩
  · have hfirst : (onDatabase query : Route R α) ctx = (.ok a, ctx.withDb db) :=
      onDatabase_run.mpr ⟨db, hquery, rfl⟩
    rw [Handler.bind_of_ok hfirst, onDatabase, Handler.zoom_run, Handler.bind_of_ok hquery]
    rfl

theorem onDatabase_expect {α : Type} (value : Option α) (e : Exception) :
    (onDatabase (Handler.expect value e) : Route R α) = Handler.expect value e := by
  cases value <;> rfl

theorem onDatabase_pure {α : Type} (a : α) : (onDatabase (pure a) : Route R α) = pure a := rfl

theorem unlock_inRow (userId : String) (password : Option String) :
    inRow (UnlockPhase.turn (R := R) sessionId now password) 4 (.findUser userId) =
      AuthService.unlock sessionId now userId password := by
  have : LawfulMonad (Handler Exception (Context R)) := Handler.lawfulMonad
  simp only [inRow, UnlockPhase.turn, AuthService.unlock, AuthService.verifiedUser, bind_assoc,
    pure_bind]
  rfl

/-- The turns after the challenge was taken. -/
theorem webauthnAuthenticate_inRow (response : AuthenticationResponse)
    (password : Option String) :
    (do
      let expectedChallenge ← AuthController.takeChallenge
        (.unauthorized "먼저 authenticate-options를 호출해주세요.")
      inRow (AuthenticatePhase.turn (R := R) sessionId now response password) 9
        (.findDevice expectedChallenge)) =
      AuthController.webauthnAuthenticate sessionId now response password := by
  have : LawfulMonad (Handler Exception (Context R)) := Handler.lawfulMonad
  simp only [inRow, AuthenticatePhase.turn, UnlockPhase.turn, AuthController.webauthnAuthenticate,
    WebAuthnService.verifyAuthentication, AuthService.unlock, AuthService.verifiedUser,
    onDatabase_bind, onDatabase_expect, onDatabase_pure, bind_assoc, pure_bind, Option.map_some,
    Option.map_none]
  rfl

theorem changeMasterPassword_inRow (userId : String) (currentPassword newPassword : Option String)
    (fresh : FreshSecrets R) :
    inRow (ChangePhase.turn sessionId now userId currentPassword newPassword fresh) 8 .findUser =
      (do
        let _ ← AuthService.changeMasterPassword sessionId now userId currentPassword newPassword
          fresh) := by
  have : LawfulMonad (Handler Exception (Context R)) := Handler.lawfulMonad
  simp only [inRow, ChangePhase.turn, AuthService.changeMasterPassword, AuthService.verifiedUser,
    bind_assoc, pure_bind]

/-- The turns after the session and the password were checked. -/
theorem setupMasterPassword_inRow (password : Option String) (fresh : FreshSecrets R) :
    (do
      let ctx ← Handler.state
      Handler.ensure (ctx.session.loggedInAs = none)
        (.conflict "이미 마스터 비밀번호가 설정된 계정입니다.")
      let pending ← Handler.expect ctx.session.pendingGoogle
        (.unauthorized "Google 로그인을 먼저 진행해주세요.")
      let password ← AuthService.newMasterPassword password
      inRow (SetupPhase.turn sessionId now fresh) 3 (.derivingKey pending password)) =
      (do
        let _ ← AuthService.setupMasterPassword sessionId now password fresh) := by
  have : LawfulMonad (Handler Exception (Context R)) := Handler.lawfulMonad
  simp only [inRow, SetupPhase.turn, AuthService.setupMasterPassword, bind_assoc, pure_bind]

/-- The turns after the state was checked and forgotten. -/
theorem handleGoogleCallback_inRow (oauthState : Option String)
    (profile : Except Exception GoogleProfile) :
    (do
      let ctx ← (Handler.state : Route R (Context R))
      Handler.ensure (oauthState.any (· ≠ "") ∧ oauthState = ctx.session.oauthState)
        (.badRequest "OAuth state가 일치하지 않습니다.")
      Handler.modify (·.withSession fun session => { session with oauthState := none })
      inRow (CallbackPhase.turn profile) 3 .exchanging) =
      (do
        let _ ← AuthService.handleGoogleCallback oauthState profile) := by
  funext ctx
  have : LawfulMonad (Handler Exception (Context R)) := Handler.lawfulMonad
  simp only [inRow, CallbackPhase.turn, AuthService.handleGoogleCallback, bind_assoc, pure_bind]
  rw [Handler.state_bind, Handler.state_bind, Handler.ensure_bind, Handler.ensure_bind]
  split
  · rw [Handler.modify_bind, Handler.modify_bind]
    cases profile with
    | error e => rfl
    | ok profile =>
        rw [Handler.ofExcept_ok_bind, Handler.ofExcept_ok_bind]
        have hquery : ∀ before : Context R, (onDatabase
            (Prisma.user.findFirst (·.googleSubId = profile.sub)) : Route R _) before =
            (.ok (before.db.users.rows.find? (·.googleSubId = profile.sub)), before) :=
          fun _ => rfl
        rw [Handler.bind_of_ok (hquery _)]
        cases hfind : ctx.db.users.rows.find? (·.googleSubId = profile.sub) with
        | none => simp [hfind]
        | some user => simp [hfind]
  · rfl

end Alone

end MyAccountController
