import MyAccountController.Auth.Session

/-! # `AuthService`

The app login, the master password and the lock. A method changes the session
copy and the key store where the source does, so an exception leaves the
writes made before it in place. The random values of a call are its argument.
-/

namespace MyAccountController

open Foundation

variable (R : Runtime)

/-- `MIN_MASTER_PASSWORD_LENGTH`. -/
def minMasterPasswordLength : Nat := 8

/-- The random values drawn when a master password is set: the Argon2 salt of
the hash, the salt of the key, the ids and nonces of the rows written. -/
structure FreshSecrets where
  hashSalt : String
  kdfSalt : String
  userId : String
  iv : String → R.Iv

namespace AuthService

variable {R}

/-- `createGoogleAuthUrl`, answering the state put into the URL. -/
def createGoogleAuthUrl (generatedState : String) : Route R String := do
  Handler.modify (·.withSession fun session =>
    { session with oauthState := some generatedState })
  pure generatedState

/-- The status `handleGoogleCallback` answers with. -/
inductive CallbackStatus where
  | logged_in
  | needs_master_password_setup (email : String)
  deriving DecidableEq, Repr

/-- `handleGoogleCallback`. The exchange of the code with Google is the
argument `profile`. -/
def handleGoogleCallback (oauthState : Option String)
    (profile : Except Exception GoogleProfile) : Route R CallbackStatus := do
  let ctx ← Handler.state
  Handler.ensure (oauthState.any (· ≠ "") ∧ oauthState = ctx.session.oauthState)
    (.badRequest "OAuth state가 일치하지 않습니다.")
  Handler.modify (·.withSession fun session => { session with oauthState := none })
  let profile ← Handler.ofExcept profile
  match ctx.db.users.rows.find? (·.googleSubId = profile.sub) with
  | some user => do
      Handler.modify (·.withSession fun session =>
        { session with userId := some user.id, unlocked := some false })
      pure .logged_in
  | none => do
      Handler.modify (·.withSession fun session =>
        { session with pendingGoogle := some profile })
      pure (.needs_master_password_setup profile.email)

/-- The check of a new master password: present and of at least eight UTF-16
code units. -/
def newMasterPassword (password : Option String) : Route R String := do
  let tooShort : Exception := .badRequest "마스터 비밀번호는 8자 이상이어야 합니다."
  let password ← Handler.expect password tooShort
  Handler.ensure (minMasterPasswordLength ≤ utf16Length password) tooShort
  pure password

/-- Put a key into the store for this session and set its flag. -/
def storeKey (sessionId : String) (now : Int) (key : R.Key) (autoLockMinutes : Int) :
    Route R Unit :=
  Handler.modify fun ctx =>
    (ctx.withKeys (ctx.keys.set sessionId now key autoLockMinutes)).withSession
      fun session => { session with unlocked := some true }

/-- The row `setupMasterPassword` creates. -/
def newUser (pending : GoogleProfile) (password : String) (fresh : FreshSecrets R)
    (now : Int) : User where
  id := fresh.userId
  googleSubId := pending.sub
  googleEmail := pending.email
  masterPasswordHash := R.hashMasterPassword fresh.hashSalt password
  masterKdfSalt := fresh.kdfSalt
  autoLockMinutes := 15
  createdAt := now

def setupMasterPassword (sessionId : String) (now : Int) (password : Option String)
    (fresh : FreshSecrets R) : Route R User := do
  let ctx ← Handler.state
  Handler.ensure (ctx.session.loggedInAs = none)
    (.conflict "이미 마스터 비밀번호가 설정된 계정입니다.")
  let pending ← Handler.expect ctx.session.pendingGoogle
    (.unauthorized "Google 로그인을 먼저 진행해주세요.")
  let password ← newMasterPassword password
  let encryptionKey := R.deriveEncryptionKey password fresh.kdfSalt
  let user ← onDatabase (Prisma.user.create (newUser pending password fresh now))
  Handler.modify (·.withSession fun session =>
    { session with pendingGoogle := none, userId := some user.id })
  storeKey sessionId now encryptionKey user.autoLockMinutes
  pure user

/-- The user row, after its master password has been verified. -/
def verifiedUser (userId : String) (password : Option String) (invalid : Exception) :
    Route R (User × String) := do
  let found ← onDatabase (Prisma.user.findUnique userId)
  let user ← Handler.expect found (.unauthorized "사용자를 찾을 수 없습니다.")
  let password ← Handler.expect password (.error "password must be a string")
  Handler.ensure (R.verifyMasterPassword password user.masterPasswordHash = true) invalid
  pure (user, password)

def unlock (sessionId : String) (now : Int) (userId : String) (password : Option String) :
    Route R Unit := do
  let (user, password) ← verifiedUser userId password
    (.unauthorized "마스터 비밀번호가 올바르지 않습니다.")
  let encryptionKey := R.deriveEncryptionKey password user.masterKdfSalt
  storeKey sessionId now encryptionKey user.autoLockMinutes

def lock (sessionId : String) : Route R Unit := do
  Handler.modify fun ctx => ctx.withKeys (ctx.keys.delete sessionId)
  Handler.modify (·.withSession fun session => { session with unlocked := some false })

def logout (sessionId : String) : Route R Unit :=
  Handler.modify fun ctx => ctx.withKeys (ctx.keys.delete sessionId)

def checkStillUnlocked (sessionId : String) (now : Int) : Route R Bool := do
  let ctx ← Handler.state
  if ctx.session.isUnlocked then do
    Handler.modify (·.withKeys (ctx.keys.touch sessionId now).2)
    if (ctx.keys.touch sessionId now).1.isSome then pure true
    else do
      Handler.modify (·.withSession fun session => { session with unlocked := some false })
      pure false
  else pure false

def getSettings (userId : String) : Query Int := do
  let found ← Prisma.user.findUnique userId
  let user ← Handler.expect found .p2025
  pure user.autoLockMinutes

/-- Write the automatic lock time of a user. -/
def setAutoLockMinutes (minutes : Int) (user : User) : User :=
  { user with autoLockMinutes := minutes }

theorem setAutoLockMinutes_unindexed (minutes : Int) :
    Table.Unindexed (setAutoLockMinutes minutes) :=
  ⟨fun _ => rfl, fun _ _ => Iff.rfl⟩

/-- `updateAutoLockMinutes`; `none` is a value that is not an integer. -/
def updateAutoLockMinutes (sessionId userId : String) (autoLockMinutes : Option Int) :
    Route R Unit := do
  let invalid : Exception := .badRequest "자동 잠금 시간은 1분~240분 사이로 설정해주세요."
  let minutes ← Handler.expect autoLockMinutes invalid
  Handler.ensure (1 ≤ minutes ∧ minutes ≤ 240) invalid
  let _ ← onDatabase (Prisma.user.update userId (setAutoLockMinutes minutes)
    (setAutoLockMinutes_unindexed minutes))
  Handler.modify fun ctx =>
    ctx.withKeys (ctx.keys.updateAutoLockMinutes sessionId minutes)

/-! ## Outcomes -/

/-- The session a callback leaves when its user has an account. -/
def loggedInSession (user : User) (session : SessionData) : SessionData :=
  { session with oauthState := none, userId := some user.id, unlocked := some false }

/-- The session a callback leaves when its user has no account yet. -/
def pendingSession (profile : GoogleProfile) (session : SessionData) : SessionData :=
  { session with oauthState := none, pendingGoogle := some profile }

/-- The state the callback brings back is the one the session remembers. -/
def StateMatches (session : SessionData) (oauthState : Option String) : Prop :=
  oauthState.any (· ≠ "") ∧ oauthState = session.oauthState

instance (session : SessionData) (oauthState : Option String) :
    Decidable (StateMatches session oauthState) := by
  unfold StateMatches
  infer_instance

/-- `handleGoogleCallback` answers in one of two branches. -/
theorem handleGoogleCallback_ok_iff {oauthState : Option String}
    {profile : Except Exception GoogleProfile} {ctx ctx' : Context R} {status : CallbackStatus} :
    handleGoogleCallback oauthState profile ctx = (.ok status, ctx') ↔
      StateMatches ctx.session oauthState ∧ ∃ known, profile = .ok known ∧
        ((∃ user, ctx.db.users.rows.find? (·.googleSubId = known.sub) = some user ∧
            status = .logged_in ∧ ctx' = ctx.withSession (loggedInSession user)) ∨
          (ctx.db.users.rows.find? (·.googleSubId = known.sub) = none ∧
            status = .needs_master_password_setup known.email ∧
            ctx' = ctx.withSession (pendingSession known))) := by
  rw [handleGoogleCallback, Handler.state_bind, Handler.ensure_bind]
  split
  next hstate =>
    have hmatches : StateMatches ctx.session oauthState := hstate
    rw [Handler.modify_bind]
    cases profile with
    | error e => simp
    | ok known =>
        rw [Handler.ofExcept_ok_bind]
        cases hfind : ctx.db.users.rows.find? (·.googleSubId = known.sub) with
        | none =>
            simp only [Handler.modify_bind, Handler.pure_run, Prod.mk.injEq, Except.ok.injEq]
            constructor
            · rintro ⟨rfl, rfl⟩
              exact ⟨hmatches, known, rfl, .inr ⟨hfind, rfl, rfl⟩⟩
            · rintro ⟨-, _, rfl, ⟨user, huser, -⟩ | ⟨-, rfl, rfl⟩⟩
              · exact absurd (hfind.symm.trans huser) (by simp)
              · exact ⟨rfl, rfl⟩
        | some user =>
            simp only [Handler.modify_bind, Handler.pure_run, Prod.mk.injEq, Except.ok.injEq]
            constructor
            · rintro ⟨rfl, rfl⟩
              exact ⟨hmatches, known, rfl, .inl ⟨user, hfind, rfl, rfl⟩⟩
            · rintro ⟨-, _, rfl, ⟨other, hother, rfl, rfl⟩ | ⟨hnone, -⟩⟩
              · obtain rfl := Option.some.inj (hfind.symm.trans hother)
                exact ⟨rfl, rfl⟩
              · exact absurd (hfind.symm.trans hnone) (by simp)
  next hstate =>
    have hmatches : ¬ StateMatches ctx.session oauthState := hstate
    simp [hmatches]

/-- A callback that fails has at most forgotten the state. -/
theorem handleGoogleCallback_error {oauthState : Option String}
    {profile : Except Exception GoogleProfile} {ctx ctx' : Context R} {e : Exception}
    (hrun : handleGoogleCallback oauthState profile ctx = (.error e, ctx')) :
    ctx' = ctx ∨ ctx' = ctx.withSession fun session => { session with oauthState := none } := by
  rw [handleGoogleCallback, Handler.state_bind, Handler.ensure_bind] at hrun
  split at hrun
  · rw [Handler.modify_bind] at hrun
    cases profile with
    | error e' => exact .inr (Prod.mk.inj hrun).2.symm
    | ok known =>
        rw [Handler.ofExcept_ok_bind] at hrun
        cases hfind : ctx.db.users.rows.find? (·.googleSubId = known.sub) with
        | none => simp [hfind] at hrun
        | some user => simp [hfind] at hrun
  · exact .inl (Prod.mk.inj hrun).2.symm

theorem newMasterPassword_ok_iff {password : Option String} {accepted : String}
    {ctx ctx' : Context R} :
    newMasterPassword password ctx = (.ok accepted, ctx') ↔
      password = some accepted ∧ minMasterPasswordLength ≤ utf16Length accepted ∧
        ctx = ctx' := by
  simp only [newMasterPassword, Handler.bind_ok_iff, Handler.expect_ok_iff,
    Handler.ensure_ok_iff, Handler.pure_run, Prod.mk.injEq, Except.ok.injEq]
  constructor
  · rintro ⟨_, _, ⟨hsome, rfl⟩, _, _, ⟨hlength, rfl⟩, rfl, rfl⟩
    exact ⟨hsome, hlength, rfl⟩
  · rintro ⟨hsome, hlength, rfl⟩
    exact ⟨_, _, ⟨hsome, rfl⟩, (), _, ⟨hlength, rfl⟩, rfl, rfl⟩

/-- A master password that is not accepted changes nothing. -/
theorem newMasterPassword_error {password : Option String} {e : Exception}
    {ctx ctx' : Context R} (hrun : newMasterPassword password ctx = (.error e, ctx')) :
    ctx = ctx' ∧ e = .badRequest "마스터 비밀번호는 8자 이상이어야 합니다." := by
  simp only [newMasterPassword, Handler.bind_error_iff, Handler.expect_error_iff,
    Handler.expect_ok_iff, Handler.ensure_error_iff, Handler.pure_run, Prod.mk.injEq] at hrun
  rcases hrun with ⟨_, rfl, rfl⟩ | ⟨_, _, ⟨_, rfl⟩, ⟨_, rfl, rfl⟩ | ⟨_, _, _, hpure⟩⟩
  · exact ⟨rfl, rfl⟩
  · exact ⟨rfl, rfl⟩
  · exact absurd hpure.1 (by simp)

theorem verifiedUser_ok_iff {userId : String} {password : Option String} {invalid : Exception}
    {user : User} {accepted : String} {ctx ctx' : Context R} :
    verifiedUser userId password invalid ctx = (.ok (user, accepted), ctx') ↔
      ctx.db.users.find? userId = some user ∧ password = some accepted ∧
        R.verifyMasterPassword accepted user.masterPasswordHash = true ∧ ctx = ctx' := by
  simp only [verifiedUser, onDatabase, Handler.bind_ok_iff, Handler.zoom_run,
    Model.findUnique_run, Handler.expect_ok_iff, Handler.ensure_ok_iff, Handler.pure_run,
    Prod.mk.injEq, Except.ok.injEq]
  constructor
  · rintro ⟨_, _, ⟨rfl, rfl⟩, _, _, ⟨hfound, rfl⟩, _, _, ⟨hsome, rfl⟩, _, _,
      ⟨hverify, rfl⟩, ⟨rfl, rfl⟩, rfl⟩
    exact ⟨hfound, hsome, hverify, rfl⟩
  · rintro ⟨hfound, hsome, hverify, rfl⟩
    exact ⟨_, _, ⟨rfl, rfl⟩, _, _, ⟨hfound, rfl⟩, _, _, ⟨hsome, rfl⟩, (), _,
      ⟨hverify, rfl⟩, ⟨rfl, rfl⟩, rfl⟩

/-- A failed verification changes nothing. -/
theorem verifiedUser_error {userId : String} {password : Option String} {invalid e : Exception}
    {ctx ctx' : Context R} (hrun : verifiedUser userId password invalid ctx = (.error e, ctx')) :
    ctx' = ctx := by
  simp only [verifiedUser, onDatabase, Handler.bind_error_iff, Handler.zoom_run,
    Model.findUnique_run, Handler.expect_ok_iff, Handler.expect_error_iff,
    Handler.ensure_error_iff, Handler.pure_run, Prod.mk.injEq, Except.ok.injEq] at hrun
  rcases hrun with ⟨h, _⟩ | ⟨_, _, ⟨rfl, rfl⟩, ⟨_, _, rfl⟩ | ⟨_, _, ⟨_, rfl⟩,
    ⟨_, _, rfl⟩ | ⟨_, _, ⟨_, rfl⟩, ⟨_, _, rfl⟩ | ⟨_, _, _, h, _⟩⟩⟩⟩
  · contradiction
  · rfl
  · rfl
  · rfl
  · contradiction

/-- The context after `storeKey`. -/
def stored (ctx : Context R) (sessionId : String) (now : Int) (key : R.Key)
    (autoLockMinutes : Int) : Context R :=
  (ctx.withKeys (ctx.keys.set sessionId now key autoLockMinutes)).withSession
    fun session => { session with unlocked := some true }

@[simp] theorem storeKey_run (sessionId : String) (now : Int) (key : R.Key)
    (autoLockMinutes : Int) (ctx : Context R) :
    storeKey sessionId now key autoLockMinutes ctx =
      (.ok (), stored ctx sessionId now key autoLockMinutes) := rfl

/-- An unlock succeeds exactly with the verified master password of the user,
and stores the key derived from it. -/
theorem unlock_ok_iff {sessionId userId : String} {now : Int} {password : Option String}
    {ctx ctx' : Context R} :
    unlock sessionId now userId password ctx = (.ok (), ctx') ↔
      ∃ user accepted, ctx.db.users.find? userId = some user ∧ password = some accepted ∧
        R.verifyMasterPassword accepted user.masterPasswordHash = true ∧
        ctx' = stored ctx sessionId now (R.deriveEncryptionKey accepted user.masterKdfSalt)
          user.autoLockMinutes := by
  rw [unlock, Handler.bind_ok_iff]
  constructor
  · rintro ⟨⟨user, accepted⟩, _, hverified, hrun⟩
    obtain ⟨hfound, hsome, hverify, rfl⟩ := verifiedUser_ok_iff.mp hverified
    simp only [storeKey_run, Prod.mk.injEq, true_and] at hrun
    exact ⟨user, accepted, hfound, hsome, hverify, hrun.symm⟩
  · rintro ⟨user, accepted, hfound, hsome, hverify, rfl⟩
    exact ⟨(user, accepted), ctx, verifiedUser_ok_iff.mpr ⟨hfound, hsome, hverify, rfl⟩, rfl⟩

/-- A refused unlock changes nothing. -/
theorem unlock_error {sessionId userId : String} {now : Int} {password : Option String}
    {e : Exception} {ctx ctx' : Context R}
    (hrun : unlock sessionId now userId password ctx = (.error e, ctx')) : ctx' = ctx := by
  rw [unlock, Handler.bind_error_iff] at hrun
  rcases hrun with hverified | ⟨⟨_, _⟩, _, _, hstore⟩
  · exact verifiedUser_error hverified
  · simp at hstore

/-! ## Changing the master password -/

/-- Write a ciphertext; Prisma sets `updatedAt`. -/
def setEncryptedPassword (payload : String) (now : Int) (account : Account) : Account :=
  { account with encryptedPassword := payload, updatedAt := now }

theorem setEncryptedPassword_unindexed (payload : String) (now : Int) :
    Table.Unindexed (setEncryptedPassword payload now) :=
  ⟨fun _ => rfl, fun _ _ => Iff.rfl⟩

/-- Write the hash and the salt of a new master password. -/
def setMasterPassword (hash kdfSalt : String) (user : User) : User :=
  { user with masterPasswordHash := hash, masterKdfSalt := kdfSalt }

theorem setMasterPassword_unindexed (hash kdfSalt : String) :
    Table.Unindexed (setMasterPassword hash kdfSalt) :=
  ⟨fun _ => rfl, fun _ _ => Iff.rfl⟩

/-- `select: { id, encryptedPassword }`. -/
structure AccountSecret where
  id : String
  encryptedPassword : String

def AccountSecret.ofAccount (account : Account) : AccountSecret :=
  ⟨account.id, account.encryptedPassword⟩

/-- The body of the loop: decrypt a ciphertext of the snapshot under the old
key and write it under the new one. -/
def reencrypt (oldKey newKey : R.Key) (iv : String → R.Iv) (now : Int)
    (account : AccountSecret) : Query PUnit := do
  let plaintext ← Handler.expect (R.decrypt account.encryptedPassword oldKey)
    (.error "Unsupported state or unable to authenticate data")
  let _ ← Prisma.account.update account.id
    (setEncryptedPassword (R.encrypt plaintext newKey (iv account.id)) now)
    (setEncryptedPassword_unindexed _ _)

/-- The callback of the `$transaction`, answering the number of revoked devices. -/
def rotateKeys (userId : String) (accounts : List AccountSecret) (oldKey newKey : R.Key)
    (newHash : String) (fresh : FreshSecrets R) (now : Int) : Query Nat := do
  accounts.forM (reencrypt oldKey newKey fresh.iv now)
  let _ ← Prisma.user.update userId (setMasterPassword newHash fresh.kdfSalt)
    (setMasterPassword_unindexed _ _)
  Prisma.trustedDevice.deleteMany (·.userId = userId)

/-- `changeMasterPassword`, answering `revokedDevices`. -/
def changeMasterPassword (sessionId : String) (now : Int) (userId : String)
    (currentPassword newPassword : Option String) (fresh : FreshSecrets R) :
    Route R Nat := do
  let (user, currentPassword) ← verifiedUser userId currentPassword
    (.unauthorized "현재 마스터 비밀번호가 올바르지 않습니다.")
  let newPassword ← newMasterPassword newPassword
  let oldKey := R.deriveEncryptionKey currentPassword user.masterKdfSalt
  let newHash := R.hashMasterPassword fresh.hashSalt newPassword
  let newKey := R.deriveEncryptionKey newPassword fresh.kdfSalt
  let accounts ← onDatabase (Prisma.account.findMany (·.userId = userId))
  let revokedDevices ← onDatabase
    (Handler.transaction (rotateKeys userId (accounts.map .ofAccount) oldKey newKey newHash
      fresh now))
  storeKey sessionId now newKey user.autoLockMinutes
  pure revokedDevices

end AuthService

end MyAccountController
