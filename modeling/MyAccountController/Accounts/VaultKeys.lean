import MyAccountController.Accounts.AccountWrites
import MyAccountController.Auth.Server
import MyAccountController.Auth.SessionEffect

/-! # The vault opens under the current master password

Every ciphertext is meant to open under the key of its owner's current master
password. A change of the master password re-encrypts the vault and gives the
new key to its own session; any other unlocked session of the user keeps the
key it had, and what it writes next is under a key nobody can derive any more.
The invariant holds in the runs in which no such session writes a password.
-/

namespace MyAccountController

open Foundation

variable {R : Runtime}

/-! ## Current keys -/

/-- The user row was written with the hash of this password. -/
def MasterPassword (R : Runtime) (user : User) (password : String) : Prop :=
  ∃ hashSalt, user.masterPasswordHash = R.hashMasterPassword hashSalt password

/-- The key is the one derived from the current master password of the user. -/
def CurrentKey (R : Runtime) (db : Database) (userId : String) (key : R.Key) : Prop :=
  ∃ user password, db.users.find? userId = some user ∧ MasterPassword R user password ∧
    key = R.deriveEncryptionKey password user.masterKdfSalt

/-- Every ciphertext opens under the current key of the row's owner. -/
def VaultReadable (R : Runtime) (db : Database) : Prop :=
  ∀ row ∈ db.accounts.rows, ∃ key, CurrentKey R db row.userId key ∧
    (R.decrypt row.encryptedPassword key).isSome

/-- Every user has a master password. -/
def PasswordsSet (R : Runtime) (db : Database) : Prop :=
  ∀ user ∈ db.users.rows, ∃ password, MasterPassword R user password

/-- The password that verifies is the master password. -/
theorem masterPassword_of_verify (hargon2 : R.Argon2Laws) {db : Database}
    (hset : PasswordsSet R db) {userId current : String} {user : User}
    (hfound : db.users.find? userId = some user)
    (hverify : R.verifyMasterPassword current user.masterPasswordHash = true) :
    MasterPassword R user current := by
  obtain ⟨hmem, -⟩ := Table.find?_eq_some_iff.mp hfound
  obtain ⟨password, hashSalt, hhash⟩ := hset user hmem
  rw [hhash] at hverify
  obtain rfl := (hargon2.verify_hash hashSalt password current).mp hverify
  exact ⟨hashSalt, hhash⟩

theorem currentKey_of_password (hargon2 : R.Argon2Laws) {db : Database}
    (hset : PasswordsSet R db) {userId current : String} {password : Option String} {user : User}
    (hcurrent : AuthService.CurrentPassword R db userId password user current) :
    CurrentKey R db userId (R.deriveEncryptionKey current user.masterKdfSalt) :=
  ⟨user, current, hcurrent.1, masterPassword_of_verify hargon2 hset hcurrent.1 hcurrent.2.2, rfl⟩

/-! ## What each kind of write keeps -/

section Writes

variable {db db' : Database} {userId : String} {key : R.Key}

/-- Account writes under the current key of the user. -/
theorem vaultReadable_write (haes : R.AesGcmLaws) {allowed : R.Key → Prop}
    (hallowed : ∀ key, allowed key → CurrentKey R db userId key)
    (hreadable : VaultReadable R db) (hwrite : VaultWrite R userId allowed db db') :
    VaultReadable R db' := by
  intro row' hrow'
  have hkey : ∀ {owner key}, CurrentKey R db owner key → CurrentKey R db' owner key := by
    intro owner key h
    unfold CurrentKey at h ⊢
    rw [hwrite.users]
    exact h
  rcases hwrite.rows row' hrow' with hold | ⟨huser, ⟨row, hrow, huser', hsame⟩ | hnew⟩
  · obtain ⟨key, hcurrent, hopens⟩ := hreadable row' hold
    exact ⟨key, hkey hcurrent, hopens⟩
  · obtain ⟨key, hcurrent, hopens⟩ := hreadable row hrow
    rw [huser'] at hcurrent
    rw [huser, hsame]
    exact ⟨key, hkey hcurrent, hopens⟩
  · obtain ⟨plaintext, key, iv, hok, hencrypted⟩ := hnew
    rw [huser, hencrypted]
    refine ⟨key, hkey (hallowed key hok), ?_⟩
    rw [haes.decrypt_encrypt]
    rfl

/-- A new user leaves the keys of the others in place. -/
theorem currentKey_insert {users : Table User} {user : User}
    (hinsert : db.users.insert? user = some users) (hkey : CurrentKey R db userId key) :
    CurrentKey R { db with users } userId key := by
  obtain ⟨owner, password, hfound, hpassword⟩ := hkey
  exact ⟨owner, password, Table.find?_of_insert hinsert hfound, hpassword⟩

variable {ctx ctx' : Context R} {sessionId newHash newSalt : String} {oldKey newKey : R.Key}
  {revoked : Nat}

/-- A change of one user's password leaves the keys of the others in place. -/
theorem currentKey_change_of_ne {other : String} (hne : other ≠ userId)
    (hchanged : AuthService.MasterPasswordChanged ctx ctx' sessionId userId oldKey newKey newHash
      newSalt revoked) (hkey : CurrentKey R ctx.db other key) : CurrentKey R ctx'.db other key := by
  obtain ⟨owner, password, hfound, hpassword⟩ := hkey
  refine ⟨owner, password, ?_, hpassword⟩
  obtain ⟨hmem, hid⟩ := Table.find?_eq_some_iff.mp hfound
  refine Table.find?_eq_some_iff.mpr ⟨?_, hid⟩
  rw [hchanged.users, List.mem_map]
  refine ⟨owner, hmem, if_neg ?_⟩
  intro heq
  exact hne (hid.symm.trans heq)

/-- After a change the new key is the current one. -/
theorem currentKey_changed {user : User} {new hashSalt : String}
    (hfound : ctx.db.users.find? userId = some user)
    (hchanged : AuthService.MasterPasswordChanged ctx ctx' sessionId userId oldKey
      (R.deriveEncryptionKey new newSalt) (R.hashMasterPassword hashSalt new) newSalt revoked) :
    CurrentKey R ctx'.db userId (R.deriveEncryptionKey new newSalt) :=
  ⟨_, new, hchanged.find_user hfound, ⟨hashSalt, rfl⟩, rfl⟩

/-- A change re-encrypts the rows of its user and leaves the others readable. -/
theorem vaultReadable_change
    (hchanged : AuthService.MasterPasswordChanged ctx ctx' sessionId userId oldKey newKey newHash
      newSalt revoked) (hnew : CurrentKey R ctx'.db userId newKey)
    (hreadable : VaultReadable R ctx.db) : VaultReadable R ctx'.db := by
  intro row' hrow'
  obtain ⟨g, hrows, hrelated⟩ := hchanged.accounts
  rw [hrows] at hrow'
  obtain ⟨row, hrow, rfl⟩ := List.mem_map.mp hrow'
  by_cases huser : row.userId = userId
  · obtain ⟨payload, plaintext, now, heq, -, hopens⟩ := (hrelated row hrow).rotated huser
    rw [heq]
    refine ⟨newKey, ?_, ?_⟩
    · change CurrentKey R ctx'.db row.userId newKey
      rw [huser]
      exact hnew
    · change (R.decrypt payload newKey).isSome
      rw [hopens]
      rfl
  · rw [(hrelated row hrow).untouched huser]
    obtain ⟨key, hcurrent, hopens⟩ := hreadable row hrow
    exact ⟨key, currentKey_change_of_ne huser hchanged hcurrent, hopens⟩

theorem passwordsSet_change {new hashSalt : String}
    (hchanged : AuthService.MasterPasswordChanged ctx ctx' sessionId userId oldKey newKey
      (R.hashMasterPassword hashSalt new) newSalt revoked)
    (hset : PasswordsSet R ctx.db) : PasswordsSet R ctx'.db := by
  intro user' huser'
  rw [hchanged.users] at huser'
  obtain ⟨user, huser, rfl⟩ := List.mem_map.mp huser'
  split
  · exact ⟨new, hashSalt, rfl⟩
  · exact hset user huser

end Writes

/-! ## Requests of many sessions -/

/-- A request under `/auth` or under `/accounts`. -/
inductive VaultRequest (R : Runtime) where
  | auth (request : AuthRequest R)
  | account (request : AccountRequest R)

namespace VaultRequest

/-- The route of the request. -/
def route (sessionId : String) (now : Int) : VaultRequest R → Route R Unit
  | .auth request => request.route sessionId now
  | .account request => request.route sessionId now

/-- The password routes, the login and the account routes, with bodies that name
no hidden column. -/
def Considered : VaultRequest R → Prop
  | .auth (.googleStart _) | .auth (.googleCallback _ _) | .auth (.setupMasterPassword _ _)
  | .auth (.unlock _) | .auth .lock | .auth .logout | .auth (.changeMasterPassword _ _ _) => True
  | .auth _ => False
  | .account request => request.OwnColumns

/-- The requests that put a key into the store when they succeed. -/
def setsKey : VaultRequest R → Bool
  | .auth request => request.setsKey
  | .account _ => false

/-- The requests that encrypt a password when they succeed. -/
def writesPassword : VaultRequest R → Bool
  | .auth _ => false
  | .account request => request.writesPassword

/-- The request is a change of the master password. -/
def isChange : VaultRequest R → Bool
  | .auth (.changeMasterPassword _ _ _) => true
  | _ => false

theorem setsKey_of_isChange {request : VaultRequest R} (hchange : request.isChange = true) :
    request.setsKey = true := by
  cases request with
  | account request => contradiction
  | auth request => cases request <;> first | contradiction | rfl

end VaultRequest

/-- A request of a session at a time. -/
structure VaultCall (R : Runtime) where
  sessionId : String
  now : Int
  request : VaultRequest R

/-- The server, and the sessions whose user had the master password changed by
another session since they last verified it. -/
structure VaultState (R : Runtime) where
  server : Server R
  outdated : String → Bool

namespace VaultState

/-- The outdated sessions after a successful call. -/
def outdatedAfter (state : VaultState R) (call : VaultCall R) : String → Bool :=
  if call.request.isChange then fun other =>
    other ≠ call.sessionId ∧ (state.outdated other = true ∨
      (state.server.sessions other).userId = (state.server.sessions call.sessionId).userId)
  else if call.request.setsKey then Function.update state.outdated call.sessionId false
  else state.outdated

/-- Serve one call. -/
def step (state : VaultState R) (call : VaultCall R) : VaultState R :=
  let out := state.server.serve call.sessionId (call.request.route call.sessionId call.now)
  { server := out.2
    outdated := if out.1 = .ok () then state.outdatedAfter call else state.outdated }

/-- No outdated session writes a password. -/
def WritesWithCurrentKey (state : VaultState R) (call : VaultCall R) : Prop :=
  call.request.writesPassword = true → state.outdated call.sessionId = false

instance (state : VaultState R) (call : VaultCall R) :
    Decidable (WritesWithCurrentKey state call) :=
  inferInstanceAs (Decidable (_ → _))

end VaultState

/-! ## One call -/

section Call

variable {sessionId : String} {now : Int} {ctx ctx' : Context R}
  {result : Except Exception Unit}

/-- An account request weakens its session, and writes under the key of the
guard if it writes a password. -/
theorem account_effect {request : AccountRequest R} (hcolumns : request.OwnColumns)
    (hrun : request.route sessionId now ctx = (result, ctx')) :
    Weakens sessionId ctx ctx' ∧ (ctx'.db = ctx.db ∨ ∃ userId entry,
      ctx.session.userId = some userId ∧ ctx.session.isUnlocked = true ∧
        ctx.keys sessionId = some entry ∧
        VaultWrite R userId (fun key => request.writesPassword = true ∧ key = entry.key)
          ctx.db ctx'.db) := by
  have hweakens : Handler.Keeps (Weakens sessionId) (request.route sessionId now) :=
    (weakens_steps sessionId now).behind_guard fun _ => weakens_onDatabase sessionId _
  have hown := hweakens ctx
  rw [hrun] at hown
  refine ⟨hown, ?_⟩
  rw [AccountRequest.route] at hrun
  rcases hguard : unlockedGuard sessionId now ctx with ⟨e | ⟨userId, key⟩, admitted⟩
  · rw [Handler.bind_of_error hguard] at hrun
    obtain ⟨-, rfl⟩ := Prod.mk.inj hrun
    have hdb := unlockedGuard_db sessionId now ctx
    rw [hguard] at hdb
    exact .inl hdb
  · rw [Handler.bind_of_ok hguard] at hrun
    obtain ⟨hlogged, hunlocked, htouch, rfl⟩ := unlockedGuard_ok_iff.mp hguard
    obtain ⟨entry, hentry, rfl⟩ := UnlockKeyStore.touch_key _ _ _ htouch
    have hwrite : VaultWrite R userId
        (fun key => request.writesPassword = true ∧ key = entry.key) ctx.db
        (request.service userId entry.key now ctx.db).2 :=
      request.service_vaultWrite hcolumns ctx.db
    obtain ⟨-, rfl⟩ := Prod.mk.inj hrun
    exact .inr ⟨userId, entry, SessionData.userId_of_loggedInAs hlogged, hunlocked, hentry, hwrite⟩

/-- What a call leaves behind, for the invariant of the vault. -/
structure Served (sessionId : String) (request : VaultRequest R) (ctx ctx' : Context R)
    (result : Except Exception Unit) : Prop where
  set : PasswordsSet R ctx'.db
  readable : VaultReadable R ctx'.db
  /-- The current keys stay current, but for the user of a successful change. -/
  kept : ∀ userId key, (request.isChange = true → result = .ok () →
    ctx.session.userId ≠ some userId) → CurrentKey R ctx.db userId key →
      CurrentKey R ctx'.db userId key
  otherKeys : ∀ other, other ≠ sessionId → ctx'.keys other = ctx.keys other
  /-- A successful password route leaves the session with a current key; any
  other call weakens it. -/
  session : (Weakens sessionId ctx ctx' ∧ (request.setsKey = true → result ≠ .ok ())) ∨
    ∃ userId key, Establishes sessionId ctx ctx' userId key ∧ CurrentKey R ctx'.db userId key

/-- A call that weakens its session and leaves the database alone. -/
theorem Served.of_db_eq {request : VaultRequest R} (hset : PasswordsSet R ctx.db)
    (hreadable : VaultReadable R ctx.db) (hdb : ctx'.db = ctx.db)
    (hweakens : Weakens sessionId ctx ctx')
    (hquiet : request.setsKey = true → result ≠ .ok ()) :
    Served sessionId request ctx ctx' result where
  set := hdb ▸ hset
  readable := hdb ▸ hreadable
  kept _ _ _ h := hdb ▸ h
  otherKeys := hweakens.otherKeys
  session := .inl ⟨hweakens, hquiet⟩

theorem served_account (haes : R.AesGcmLaws) {request : AccountRequest R}
    (hset : PasswordsSet R ctx.db) (hreadable : VaultReadable R ctx.db)
    (hcolumns : request.OwnColumns)
    (hkey : request.writesPassword = true → ∀ userId entry,
      ctx.session.userId = some userId → ctx.session.isUnlocked = true →
      ctx.keys sessionId = some entry → CurrentKey R ctx.db userId entry.key)
    (hrun : request.route sessionId now ctx = (result, ctx')) :
    Served sessionId (.account request) ctx ctx' result := by
  obtain ⟨hweakens, hdb | ⟨userId, entry, huserId, hunlocked, hentry, hwrite⟩⟩ :=
    account_effect hcolumns hrun
  · exact .of_db_eq hset hreadable hdb hweakens (fun h => by contradiction)
  · have husers : ctx'.db.users = ctx.db.users := hwrite.users
    refine ⟨?_, ?_, ?_, hweakens.otherKeys, .inl ⟨hweakens, fun h => by contradiction⟩⟩
    · intro user huser
      rw [husers] at huser
      exact hset user huser
    · refine vaultReadable_write haes ?_ hreadable hwrite
      rintro key ⟨hwrites, rfl⟩
      exact hkey hwrites userId entry huserId hunlocked hentry
    · rintro other key - ⟨user, password, hfound, hpassword⟩
      exact ⟨user, password, by rw [husers]; exact hfound, hpassword⟩

theorem served_setup {password : Option String} {fresh : FreshSecrets R}
    (hset : PasswordsSet R ctx.db) (hreadable : VaultReadable R ctx.db)
    (hrun : (AuthRequest.setupMasterPassword password fresh).route sessionId now ctx =
      (result, ctx')) :
    Served sessionId (.auth (.setupMasterPassword password fresh)) ctx ctx' result := by
  rcases discard_run hrun with ⟨user, hsetup, rfl⟩ | ⟨e, hsetup, rfl⟩
  · obtain ⟨-, pending, new, users, -, rfl, hinsert, rfl⟩ :=
      AuthService.setupMasterPassword_ok hsetup
    have hpassword : MasterPassword R (AuthService.newUser pending new fresh now) new :=
      ⟨fresh.hashSalt, rfl⟩
    have hrows := (Table.insert?_eq_some_iff.mp hinsert).2
    have hkept : ∀ {userId key}, CurrentKey R ctx.db userId key →
        CurrentKey R { ctx.db with users } userId key := currentKey_insert hinsert
    refine ⟨?_, ?_, fun _ _ _ => hkept, ?_, .inr ⟨_, _, establishes_stored rfl fun _ _ => rfl,
      _, new, Table.find?_inserted hinsert, hpassword, rfl⟩⟩
    · intro owner howner
      have hmem : owner ∈ ctx.db.users.rows ++ [AuthService.newUser pending new fresh now] :=
        hrows ▸ howner
      rcases List.mem_append.mp hmem with hold | hnew
      · exact hset owner hold
      · rw [List.mem_singleton.mp hnew]
        exact ⟨new, hpassword⟩
    · intro row hrow
      obtain ⟨key, hcurrent, hopens⟩ := hreadable row hrow
      exact ⟨key, hkept hcurrent, hopens⟩
    · exact fun other hne => UnlockKeyStore.set_of_ne _ _ _ _ _ hne
  · obtain rfl := AuthService.setupMasterPassword_error hsetup
    exact .of_db_eq hset hreadable rfl (Weakens.refl _) fun _ => by simp

theorem served_unlock (hargon2 : R.Argon2Laws) {password : Option String}
    (hset : PasswordsSet R ctx.db) (hreadable : VaultReadable R ctx.db)
    (hrun : (AuthRequest.unlock password).route sessionId now ctx = (result, ctx')) :
    Served sessionId (.auth (.unlock password)) ctx ctx' result := by
  change AuthController.unlock sessionId now password ctx = _ at hrun
  rw [AuthController.unlock] at hrun
  rcases hguard : loggedInGuard ctx with ⟨e | userId, after⟩
  · rw [Handler.bind_of_error hguard] at hrun
    obtain ⟨rfl, rfl⟩ := Prod.mk.inj hrun
    have hstate := loggedInGuard_state ctx
    rw [hguard] at hstate
    obtain rfl := hstate
    exact .of_db_eq hset hreadable rfl (Weakens.refl _) fun _ => by simp
  · rw [Handler.bind_of_ok hguard] at hrun
    obtain ⟨hlogged, rfl⟩ := loggedInGuard_ok_iff.mp hguard
    rcases result with e | ⟨⟩
    · obtain rfl := AuthService.unlock_error hrun
      exact .of_db_eq hset hreadable rfl (Weakens.refl _) fun _ => by simp
    · obtain ⟨user, current, hfound, hsome, hverify, rfl⟩ := AuthService.unlock_ok_iff.mp hrun
      refine ⟨hset, hreadable, fun _ _ _ h => h, ?_,
        .inr ⟨userId, R.deriveEncryptionKey current user.masterKdfSalt, ?_, ?_⟩⟩
      · exact fun other hne => UnlockKeyStore.set_of_ne _ _ _ _ _ hne
      · exact establishes_stored (SessionData.userId_of_loggedInAs hlogged) fun _ _ => rfl
      · exact currentKey_of_password hargon2 hset ⟨hfound, hsome, hverify⟩

theorem served_change (haes : R.AesGcmLaws)
    {currentPassword newPassword : Option String} {fresh : FreshSecrets R}
    (hset : PasswordsSet R ctx.db) (hreadable : VaultReadable R ctx.db)
    (hrun : (AuthRequest.changeMasterPassword currentPassword newPassword fresh).route
      sessionId now ctx = (result, ctx')) :
    Served sessionId (.auth (.changeMasterPassword currentPassword newPassword fresh))
      ctx ctx' result := by
  have hguarded := weakens_unlockedGuard (R := R) sessionId now ctx
  have hdb := unlockedGuard_db sessionId now ctx
  rcases discard_run hrun with ⟨revoked, hchange, rfl⟩ | ⟨e, hchange, rfl⟩
  · rw [AuthController.changeMasterPassword, Handler.bind_ok_iff] at hchange
    obtain ⟨⟨userId, _⟩, admitted, hguard, hchange⟩ := hchange
    obtain ⟨hlogged, -, -, rfl⟩ := unlockedGuard_ok_iff.mp hguard
    have huserId := SessionData.userId_of_loggedInAs hlogged
    obtain ⟨user, current, new, hcurrent, hnew, hchanged⟩ :=
      AuthService.masterPasswordChanged_of_ok haes hchange
    have hkey := currentKey_changed hcurrent.1 hchanged
    have hrevokes : ∀ other, other ≠ sessionId → ctx'.keys other = ctx.keys other := by
      intro other hne
      rw [hchanged.otherKeys other hne]
      exact UnlockKeyStore.touch_of_ne _ _ _ hne
    constructor
    case set => exact passwordsSet_change hchanged hset
    case readable => exact vaultReadable_change hchanged hkey hreadable
    case kept =>
      intro other key hother hcurrentKey
      refine currentKey_change_of_ne ?_ hchanged hcurrentKey
      rintro rfl
      exact hother rfl rfl huserId
    case otherKeys => exact hrevokes
    case session =>
      refine .inr ⟨userId, _, ⟨?_, hchanged.key, hrevokes⟩, hkey⟩
      rw [hchanged.session]
      exact huserId
  · rw [AuthController.changeMasterPassword, Handler.bind_error_iff] at hchange
    rcases hchange with hguard | ⟨⟨userId, _⟩, admitted, hguard, hchange⟩
    · rw [hguard] at hguarded hdb
      exact .of_db_eq hset hreadable hdb hguarded fun _ => by simp
    · rw [hguard] at hguarded hdb
      obtain rfl := AuthService.changeMasterPassword_error hchange
      exact .of_db_eq hset hreadable hdb hguarded fun _ => by simp

/-- The Google callback only writes the session. -/
theorem googleCallback_db (oauthState : Option String) (profile : Except Exception GoogleProfile)
    (ctx : Context R) :
    ((AuthRequest.googleCallback (R := R) oauthState profile).route sessionId now ctx).2.db =
      ctx.db := by
  have hkeeps : Handler.Keeps (fun before after : Context R => after.db = before.db)
      (AuthService.handleGoogleCallback oauthState profile) := by
    intro ctx
    rw [AuthService.handleGoogleCallback, Handler.state_bind, Handler.ensure_bind]
    split
    · rw [Handler.modify_bind]
      cases profile with
      | error e => rfl
      | ok profile =>
          rw [Handler.ofExcept_ok_bind]
          cases ctx.db.users.rows.find? (·.googleSubId = profile.sub) <;> rfl
    · rfl
  have htrans : ∀ a b c : Context R, b.db = a.db → c.db = b.db → c.db = a.db :=
    fun a b c hab hbc => hbc.trans hab
  refine Handler.keeps_bind htrans (Handler.keeps_recover htrans ?_ ?_) (fun _ _ _ _ => rfl) ctx
  · apply Handler.keeps_bind htrans hkeeps
    intro status _ after _
    cases status <;> rfl
  · exact fun _ _ => rfl

/-- A route under `/auth` that sets no key and leaves the database alone. -/
theorem served_quiet {request : AuthRequest R} (hset : PasswordsSet R ctx.db)
    (hreadable : VaultReadable R ctx.db) (hquiet : request.setsKey = false)
    (hdb : (request.route sessionId now ctx).2.db = ctx.db)
    (hrun : request.route sessionId now ctx = (result, ctx')) :
    Served sessionId (.auth request) ctx ctx' result := by
  rw [hrun] at hdb
  have heffect := route_effect request hrun
  cases heffect with
  | weakened hfailed hweakens => exact .of_db_eq hset hreadable hdb hweakens hfailed
  | established hverifies =>
      cases request <;> contradiction
  | switched hrequest => rw [hrequest] at hquiet; contradiction

theorem served (hargon2 : R.Argon2Laws) (haes : R.AesGcmLaws) {request : VaultRequest R}
    (hset : PasswordsSet R ctx.db) (hreadable : VaultReadable R ctx.db)
    (hconsidered : request.Considered)
    (hkey : request.writesPassword = true → ∀ userId entry,
      ctx.session.userId = some userId → ctx.session.isUnlocked = true →
      ctx.keys sessionId = some entry → CurrentKey R ctx.db userId entry.key)
    (hrun : request.route sessionId now ctx = (result, ctx')) :
    Served sessionId request ctx ctx' result := by
  cases request with
  | account request => exact served_account haes hset hreadable hconsidered hkey hrun
  | auth request =>
      change request.route sessionId now ctx = (result, ctx') at hrun
      cases request with
      | setupMasterPassword password fresh => exact served_setup hset hreadable hrun
      | changeMasterPassword currentPassword newPassword fresh =>
          exact served_change haes hset hreadable hrun
      | unlock password => exact served_unlock hargon2 hset hreadable hrun
      | googleStart generatedState => exact served_quiet hset hreadable rfl rfl hrun
      | googleCallback oauthState profile =>
          exact served_quiet hset hreadable rfl (googleCallback_db oauthState profile ctx) hrun
      | lock =>
          refine served_quiet hset hreadable rfl ?_ hrun
          change (AuthController.lock sessionId ctx).2.db = ctx.db
          rw [AuthController.lock]
          rcases hguard : loggedInGuard ctx with ⟨e | userId, after⟩
          · have hstate := loggedInGuard_state ctx
            rw [hguard] at hstate
            rw [Handler.bind_of_error hguard, ← hstate]
          · obtain ⟨-, rfl⟩ := loggedInGuard_ok_iff.mp hguard
            rw [Handler.bind_of_ok hguard]
            rfl
      | logout => exact served_quiet hset hreadable rfl rfl hrun
      | me | settings | updateAutoLockMinutes _ | webauthnDevices | webauthnRegisterOptions _
      | webauthnRegister _ _ _ | webauthnAuthenticateOptions _ | webauthnAuthenticate _ _
      | webauthnRemove _ => exact hconsidered.elim

end Call

/-! ## Runs -/

/-- The vault is readable, and the unlocked sessions that are not outdated hold
the current key of their user. -/
structure VaultInvariant (state : VaultState R) : Prop where
  set : PasswordsSet R state.server.db
  readable : VaultReadable R state.server.db
  keys : ∀ sessionId userId entry, state.outdated sessionId = false →
    (state.server.sessions sessionId).isUnlocked = true →
    (state.server.sessions sessionId).userId = some userId →
    state.server.keys sessionId = some entry → CurrentKey R state.server.db userId entry.key

/-- A session is up to date after a call that is not a change only if it was
before, or if the call set its key. -/
theorem VaultState.outdated_of_step {state : VaultState R} {call : VaultCall R} {other : String}
    (hother : (state.step call).outdated other = false) (hne : other ≠ call.sessionId) :
    state.outdated other = false ∧ (call.request.isChange = true →
      (state.server.serve call.sessionId (call.request.route call.sessionId call.now)).1 = .ok () →
      (state.server.sessions call.sessionId).userId ≠ (state.server.sessions other).userId) := by
  unfold VaultState.step at hother
  simp only at hother
  split at hother
  next hok =>
    unfold VaultState.outdatedAfter at hother
    split at hother
    next hchange =>
      simp only [decide_eq_false_iff_not, not_and, not_or, Bool.not_eq_true] at hother
      obtain ⟨hold, hdifferent⟩ := hother hne
      exact ⟨hold, fun _ _ heq => hdifferent heq.symm⟩
    next hchange =>
      refine ⟨?_, fun h => absurd h hchange⟩
      split at hother
      · rwa [Function.update_of_ne hne] at hother
      · exact hother
  next hfailed => exact ⟨hother, fun _ hok => absurd hok hfailed⟩

/-- A call that set no key leaves its own session as outdated as it was. -/
theorem VaultState.outdated_own {state : VaultState R} {call : VaultCall R}
    (hquiet : call.request.setsKey = true →
      (state.server.serve call.sessionId (call.request.route call.sessionId call.now)).1 ≠ .ok ()) :
    (state.step call).outdated call.sessionId = state.outdated call.sessionId := by
  unfold VaultState.step
  simp only
  split
  next hok =>
    have hsets : ¬ call.request.setsKey = true := fun h => hquiet h hok
    rw [VaultState.outdatedAfter, if_neg fun h => hsets (VaultRequest.setsKey_of_isChange h),
      if_neg hsets]
  next => rfl

/-- One call keeps the invariant. -/
theorem vaultInvariant_step (hargon2 : R.Argon2Laws) (haes : R.AesGcmLaws)
    (state : VaultState R) (call : VaultCall R) (hinvariant : VaultInvariant state)
    (hcall : call.request.Considered ∧ state.WritesWithCurrentKey call) :
    VaultInvariant (state.step call) := by
  obtain ⟨hconsidered, hwrites⟩ := hcall
  rcases hrun : call.request.route call.sessionId call.now (state.server.context call.sessionId)
    with ⟨result, ctx'⟩
  have hserved : Served call.sessionId call.request (state.server.context call.sessionId) ctx'
      result := by
    refine served hargon2 haes hinvariant.set hinvariant.readable hconsidered ?_ hrun
    intro hwritesPassword userId entry huserId hunlocked hentry
    exact hinvariant.keys _ _ _ (hwrites hwritesPassword) hunlocked huserId hentry
  have hserve : state.server.serve call.sessionId (call.request.route call.sessionId call.now) =
      (result, state.server.save call.sessionId ctx') := by
    rw [Server.serve, hrun]
  have hserver : (state.step call).server = state.server.save call.sessionId ctx' := by
    rw [VaultState.step, hserve]
  constructor
  case set => rw [hserver]; exact hserved.set
  case readable => rw [hserver]; exact hserved.readable
  case keys =>
    intro sessionId userId entry houtdated hunlocked huserId hentry
    rw [hserver] at hunlocked huserId hentry ⊢
    by_cases heq : sessionId = call.sessionId
    · subst heq
      rw [Server.save_session] at hunlocked huserId
      rcases hserved.session with ⟨hweakens, hquiet⟩ | ⟨userId', key, hestablishes, hcurrent⟩
      · -- The session keeps the key it had, so it was up to date before.
        rw [VaultState.outdated_own (by rwa [hserve])] at houtdated
        obtain ⟨before, hbefore, hkey⟩ := hweakens.key entry hentry
        rw [hkey]
        apply hserved.kept
        · intro hchange hok
          exact absurd hok (hquiet (VaultRequest.setsKey_of_isChange hchange))
        · exact hinvariant.keys _ _ before houtdated (hweakens.unlocked hunlocked)
            ((hweakens.userId hunlocked).symm.trans huserId) hbefore
      · -- The session has just been given the current key.
        obtain rfl := Option.some.inj (hestablishes.userId.symm.trans huserId)
        have hkey := hestablishes.key
        rw [Server.save_keys] at hentry
        rw [UnlockKeyStore.get, hentry, Option.map_some, Option.some.injEq] at hkey
        rw [hkey]
        exact hcurrent
    · -- Another session is untouched, and outdated if this call has changed its user's password.
      rw [Server.save_session_of_ne _ _ _ heq] at hunlocked huserId
      rw [Server.save_keys, hserved.otherKeys sessionId heq] at hentry
      obtain ⟨hold, hdifferent⟩ := VaultState.outdated_of_step houtdated heq
      apply hserved.kept
      · intro hchange hok hsame
        refine hdifferent hchange (by rw [hserve]; exact hok) ?_
        exact hsame.trans huserId.symm
      · exact hinvariant.keys _ _ entry hold hunlocked huserId hentry

/-- In every run in which no outdated session writes a password, every stored
password opens under the current master password of its owner. -/
theorem vaultReadable_of_current_writes (hargon2 : R.Argon2Laws) (haes : R.AesGcmLaws)
    (init : Server R) (calls : List (VaultCall R)) (hkeys : init.keys = UnlockKeyStore.empty)
    (hset : PasswordsSet R init.db) (hreadable : VaultReadable R init.db)
    (hconsidered : ∀ call ∈ calls, call.request.Considered)
    (hwrites : Along VaultState.step VaultState.WritesWithCurrentKey ⟨init, fun _ => false⟩ calls) :
    VaultReadable R (run VaultState.step ⟨init, fun _ => false⟩ calls).server.db := by
  have hinit : VaultInvariant (⟨init, fun _ => false⟩ : VaultState R) := by
    refine ⟨hset, hreadable, ?_⟩
    intro sessionId userId entry _ _ _ hentry
    rw [hkeys] at hentry
    contradiction
  have hboth := along_and_forall hconsidered hwrites
  exact (run_invariant (vaultInvariant_step hargon2 haes) hinit hboth).readable

/-! ## A write under the old key -/

namespace OldKey

def server : Server symbolicRuntime := ⟨Database.empty, UnlockKeyStore.empty, fun _ => {}⟩

def profile : GoogleProfile := ⟨"sub", "u@example.com"⟩

def first : FreshSecrets symbolicRuntime := ⟨"h1", "k1", "u", fun id => id⟩

def second : FreshSecrets symbolicRuntime := ⟨"h2", "k2", "unused", fun id => id⟩

def body : JsObject :=
  [("serviceName", .str "Mail"), ("urlOrAppName", .str "mail.example.com"),
    ("category", .str "mail"), ("loginId", .str "me"), ("password", .str "secret")]

/-- The first session registers. -/
def setup : List (VaultCall symbolicRuntime) :=
  [⟨"s1", 1, .auth (.googleStart "state1")⟩,
    ⟨"s1", 2, .auth (.googleCallback (some "state1") (.ok profile))⟩,
    ⟨"s1", 3, .auth (.setupMasterPassword (some "first-password") first)⟩]

/-- The second session unlocks. -/
def secondUnlocks : List (VaultCall symbolicRuntime) :=
  [⟨"s2", 4, .auth (.googleStart "state2")⟩,
    ⟨"s2", 5, .auth (.googleCallback (some "state2") (.ok profile))⟩,
    ⟨"s2", 6, .auth (.unlock (some "first-password"))⟩]

/-- The first session changes the master password. -/
def change : VaultCall symbolicRuntime :=
  ⟨"s1", 8, .auth (.changeMasterPassword (some "first-password") (some "second-password") second)⟩

/-- The second session unlocks, the first one changes the master password, and
the second one stores an account. -/
def calls : List (VaultCall symbolicRuntime) :=
  setup ++ secondUnlocks ++ [change, ⟨"s2", 9, .account (.create body ⟨"a", "iv"⟩)⟩]

/-- Both sessions store and change accounts, and after the change of the master password the
second one unlocks again before it does. -/
def unlockedAgain : List (VaultCall symbolicRuntime) :=
  setup ++ secondUnlocks ++
    [⟨"s2", 7, .account (.create body ⟨"a", "iv"⟩)⟩, change,
      ⟨"s2", 9, .auth (.unlock (some "second-password"))⟩,
      ⟨"s2", 10, .account (.update "a" [("password", .str "renewed")] "iv2")⟩,
      ⟨"s1", 11, .account (.create (("loginId", .str "other") :: body) ⟨"b", "iv3"⟩)⟩]

theorem calls_considered : ∀ call ∈ calls, call.request.Considered := by
  have hbody : OwnColumns body := by decide
  simp [calls, setup, secondUnlocks, change, VaultRequest.Considered, AccountRequest.OwnColumns,
    hbody]

theorem unlockedAgain_considered : ∀ call ∈ unlockedAgain, call.request.Considered := by
  have hbody : OwnColumns body := by decide
  have hother : OwnColumns (("loginId", .str "other") :: body) := by decide
  have hpassword : OwnColumns [("password", .str "renewed")] := by decide
  simp [unlockedAgain, setup, secondUnlocks, change, VaultRequest.Considered,
    AccountRequest.OwnColumns, hbody, hother, hpassword, JsObject.get_cons]

end OldKey

open OldKey in
/-- The account stored last is encrypted under the old key. -/
theorem vaultReadable_fails :
    (∀ call ∈ calls, call.request.Considered) ∧
      ¬ VaultReadable symbolicRuntime
        (run VaultState.step ⟨server, fun _ => false⟩ calls).server.db := by
  refine ⟨calls_considered, fun hreadable => ?_⟩
  have hrows : (run VaultState.step ⟨server, fun _ => false⟩ calls).server.db.accounts.rows.map
      (fun row => (row.userId, row.encryptedPassword)) =
        [("u", symbolicRuntime.encrypt "secret" ("first-password", "k1") "iv")] := by
    decide +kernel
  obtain ⟨row, hrow, hcolumns⟩ := List.mem_map.mp (hrows ▸ List.mem_singleton_self _)
  obtain ⟨huser, hencrypted⟩ := Prod.mk.inj hcolumns
  obtain ⟨key, ⟨owner, password, hfound, ⟨hashSalt, hhash⟩, rfl⟩, hopens⟩ := hreadable row hrow
  have howner : (run VaultState.step ⟨server, fun _ => false⟩ calls).server.db.users.find? "u" =
      some (AuthService.setMasterPassword (symbolicRuntime.hashMasterPassword "h2" "second-password")
        "k2" (AuthService.newUser profile "first-password" first 3)) := by decide +kernel
  rw [huser] at hfound
  obtain rfl := Option.some.inj (howner.symm.trans hfound)
  -- The stored hash fixes the current master password.
  have hcurrent : "second-password" = password := by
    apply (symbolicRuntime.argon2Laws.verify_hash hashSalt password "second-password").mp
    rw [← hhash]
    decide +kernel
  rw [← hcurrent, hencrypted] at hopens
  exact absurd hopens (by decide +kernel)

open OldKey in
/-- The accounts of both sessions stay readable through the change. -/
theorem vaultReadable_of_current_writes_example :
    VaultReadable symbolicRuntime
      (run VaultState.step ⟨server, fun _ => false⟩ unlockedAgain).server.db := by
  refine vaultReadable_of_current_writes symbolicRuntime.argon2Laws symbolicRuntime.aesGcmLaws
    server unlockedAgain rfl ?_ ?_ unlockedAgain_considered ?_
  · exact fun user huser => absurd huser (List.not_mem_nil)
  · exact fun row hrow => absurd hrow (List.not_mem_nil)
  · decide +kernel

end MyAccountController
