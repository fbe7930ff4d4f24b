import MyAccountController.Accounts.PlainVault
import MyAccountController.Accounts.VaultKeys

/-! # The server without encryption

A change of the master password moves every ciphertext of the user to the new
key, row by row, and leaves the opened vault as it was. So in every run in
which no outdated session uses its key, and no body names an owner or a
ciphertext, a server without encryption that is sent the same requests gives
the same answers.
-/

namespace MyAccountController

open Foundation Handler

variable {R : Runtime}

/-! ## The key store without keys -/

/-- The entries without their keys. -/
def UnlockKeyStore.erase {Key : Type} (store : UnlockKeyStore Key) : UnlockKeyStore Unit :=
  fun sessionId => (store sessionId).map fun entry =>
    ⟨(), entry.autoLockMinutes, entry.lastActivityAt⟩

namespace UnlockKeyStore

variable {Key : Type} (store : UnlockKeyStore Key) (sessionId : String) (now : Int)

theorem erase_update (entry : Option (UnlockEntry Key)) :
    erase (Function.update store sessionId entry) =
      Function.update store.erase sessionId (entry.map fun entry =>
        ⟨(), entry.autoLockMinutes, entry.lastActivityAt⟩) := by
  funext other
  unfold erase
  by_cases heq : other = sessionId
  · subst heq
    simp
  · simp [Function.update_of_ne heq]

theorem erase_set (key : Key) (minutes : Int) :
    (store.set sessionId now key minutes).erase = store.erase.set sessionId now () minutes :=
  erase_update store sessionId _

theorem erase_delete : (store.delete sessionId).erase = store.erase.delete sessionId :=
  erase_update store sessionId _

/-- The idle limit does not depend on the key. -/
theorem erase_touch : store.erase.touch sessionId now =
    ((store.touch sessionId now).1.map fun _ => (), (store.touch sessionId now).2.erase) := by
  unfold touch
  cases hentry : store sessionId with
  | none => simp [erase, hentry]
  | some entry =>
      have herased : store.erase sessionId =
          some ⟨(), entry.autoLockMinutes, entry.lastActivityAt⟩ := by
        rw [erase, hentry]
        rfl
      have hidle : UnlockEntry.idleExpired (⟨(), entry.autoLockMinutes, entry.lastActivityAt⟩ :
          UnlockEntry Unit) now = UnlockEntry.idleExpired entry now := rfl
      rw [herased]
      simp only [hidle]
      split
      · rw [erase_delete]
        rfl
      · rw [erase_update]
        rfl

end UnlockKeyStore

/-! ## The rotation on the opened vault -/

section Rotation

variable {keyOf : String → R.Key} {userId : String} {oldKey newKey : R.Key} {now : Int}

/-- The key of a row while the secrets that are listed still wait for their turn. -/
def rotatingKey (keyOf : String → R.Key) (userId : String) (newKey : R.Key)
    (waiting : List AuthService.AccountSecret) (row : Account) : R.Key :=
  if row.userId = userId ∧ row.id ∉ waiting.map AuthService.AccountSecret.id then newKey
  else keyOf row.userId

/-- The loop has done all rows of the user but the waiting ones. -/
structure Rotating (keyOf : String → R.Key) (userId : String) (newKey : R.Key)
    (waiting : List AuthService.AccountSecret) (db plain : Database) : Prop where
  reveals : Reveals (rotatingKey keyOf userId newKey waiting) db plain
  nodup : (waiting.map AuthService.AccountSecret.id).Nodup
  owned : ∀ row ∈ db.accounts.rows, row.id ∈ waiting.map AuthService.AccountSecret.id →
    row.userId = userId

/-- The random values of a change, for the server without encryption. -/
def FreshSecrets.plain (fresh : FreshSecrets R) : FreshSecrets R.plain :=
  ⟨fresh.hashSalt, fresh.kdfSalt, fresh.userId, fun _ => ()⟩

/-- A secret of the snapshot, and the one of the opened snapshot. -/
structure SameSecret (oldKey : R.Key) (secret secret' : AuthService.AccountSecret) : Prop where
  id : secret'.id = secret.id
  opened : unsealPlain secret'.encryptedPassword = R.decrypt secret.encryptedPassword oldKey

/-- An update that also changes the key of its row. -/
theorem update_reveal (before after : Account → R.Key) {db : Database} {id : String}
    {f g : Account → Account} (hf : Table.Unindexed f) (hg : Table.Unindexed g)
    (hrow : ∀ row ∈ (Prisma.account.table db).rows, Entity.key row = id →
      g (row.reveal before) = (f row).reveal after)
    (hothers : ∀ row ∈ (Prisma.account.table db).rows, Entity.key row ≠ id →
      row.reveal before = row.reveal after) :
    SameOutcome (fun _ _ db' plain => Reveals after db' plain ∧
        db' = Prisma.account.withTable db ((Prisma.account.table db).modify id f hf))
      (fun _ _ => True) (Prisma.account.update id f hf db)
      (Prisma.account.update id g hg (db.reveal before)) := by
  unfold Model.update
  rw [table_reveal, Table.find?_mapRows, Table.modify_mapRows _ (Account.reveal_unindexed after) _ _
    hf hg hrow hothers]
  cases (Prisma.account.table db).find? id with
  | none => exact .error trivial
  | some row => exact .ok ⟨rfl, rfl⟩

/-- The key of a row that is not the head of the waiting secrets. -/
theorem rotatingKey_of_ne {secret : AuthService.AccountSecret}
    {rest : List AuthService.AccountSecret} {row : Account} (hne : row.id ≠ secret.id) :
    rotatingKey keyOf userId newKey (secret :: rest) row =
      rotatingKey keyOf userId newKey rest row := by
  simp [rotatingKey, hne]

/-- A row that is written under the new key, opened with it. -/
theorem setEncryptedPassword_reveal (haes : R.AesGcmLaws) {plaintext : String} {iv : R.Iv}
    {row : Account} (before after : Account → R.Key)
    (hkey : after (AuthService.setEncryptedPassword (R.encrypt plaintext newKey iv) now row) =
      newKey) :
    AuthService.setEncryptedPassword (sealPlain plaintext) now (row.reveal before) =
      (AuthService.setEncryptedPassword (R.encrypt plaintext newKey iv) now row).reveal after := by
  unfold Account.reveal
  rw [hkey]
  simp [AuthService.setEncryptedPassword, haes.decrypt_encrypt, revealed]

/-- One turn of the loop moves the head of the waiting secrets to the new key. -/
theorem reencrypt_agrees (haes : R.AesGcmLaws) (iv : String → R.Iv)
    {secret secret' : AuthService.AccountSecret} {rest : List AuthService.AccountSecret}
    (hsame : SameSecret oldKey secret secret') :
    Agrees (Rotating keyOf userId newKey (secret :: rest))
      (AuthService.reencrypt oldKey newKey iv now secret)
      (AuthService.reencrypt (R := R.plain) () () (fun _ => ()) now secret')
      (fun _ _ => Rotating keyOf userId newKey rest) fun _ _ => True := by
  rintro db plain ⟨rfl, hnodup, howned⟩
  obtain ⟨hnotin, hrest⟩ := List.nodup_cons.mp hnodup
  unfold AuthService.reencrypt
  rw [hsame.id, show R.plain.decrypt secret'.encryptedPassword () = _ from hsame.opened]
  cases R.decrypt secret.encryptedPassword oldKey with
  | none => exact .error trivial
  | some plaintext =>
      rw [expect_some_bind, expect_some_bind]
      refine SameOutcome.bind (update_reveal (rotatingKey keyOf userId newKey (secret :: rest))
        (rotatingKey keyOf userId newKey rest) _ _ ?_ ?_) ?_
      · intro row hmem hid
        refine setEncryptedPassword_reveal haes _ _ (if_pos ⟨?_, ?_⟩)
        · exact howned row hmem (by simp [show row.id = secret.id from hid])
        · exact (show row.id = secret.id from hid) ▸ hnotin
      · intro row _ hne
        rw [Account.reveal, Account.reveal, rotatingKey_of_ne hne]
      · rintro _ _ db' plain' ⟨hreveals, rfl⟩
        refine .ok ⟨hreveals, hrest, ?_⟩
        intro row' hrow' hwaiting
        have hmem : row' ∈ (db.accounts.modify secret.id _ (AuthService.setEncryptedPassword_unindexed
            (R.encrypt plaintext newKey (iv secret.id)) now)).rows := hrow'
        rw [Table.rows_modify] at hmem
        obtain ⟨row, hrow, rfl⟩ := List.mem_map.mp hmem
        by_cases hid : Entity.key row = secret.id
        · simp only [if_pos hid] at hwaiting ⊢
          exact howned row hrow (List.mem_cons_of_mem _ hwaiting)
        · simp only [if_neg hid] at hwaiting ⊢
          exact howned row hrow (List.mem_cons_of_mem _ hwaiting)

/-- Both snapshots list the same secrets. -/
theorem sameSecrets {rows : List Account} (howned : ∀ row ∈ rows, row.userId = userId) :
    List.Forall₂ (SameSecret (keyOf userId)) (rows.map AuthService.AccountSecret.ofAccount)
      ((rows.map (Account.reveal (ownerKey keyOf))).map AuthService.AccountSecret.ofAccount) := by
  rw [List.map_map, List.forall₂_map_left_iff, List.forall₂_map_right_iff, List.forall₂_same]
  intro row hrow
  exact ⟨rfl, by simp [AuthService.AccountSecret.ofAccount, Account.reveal, ownerKey, howned row hrow]⟩

/-- The keys after the rotation. -/
theorem rotatingKey_nil :
    rotatingKey keyOf userId newKey [] = ownerKey (Function.update keyOf userId newKey) := by
  funext row
  by_cases huser : row.userId = userId
  · simp [rotatingKey, ownerKey, huser]
  · simp [rotatingKey, ownerKey, huser, Function.update_of_ne]

theorem Database.reveal_congr {before after : Account → R.Key} {db : Database}
    (hsame : ∀ row ∈ db.accounts.rows, before row = after row) :
    db.reveal before = db.reveal after := by
  have htable : db.accounts.mapRows _ (Account.reveal_unindexed before) =
      db.accounts.mapRows _ (Account.reveal_unindexed after) := by
    ext1
    rw [Table.rows_mapRows, Table.rows_mapRows]
    refine List.map_congr_left fun row hrow => ?_
    rw [Account.reveal, Account.reveal, hsame row hrow]
  rw [Database.reveal, Database.reveal, htable]

/-- A write of the users leaves the accounts alone. -/
theorem updateUser_simulates {keys : Account → R.Key} (id : String) {f : User → User}
    (hf : Table.Unindexed f) :
    Simulates (Reveals keys) (Prisma.user.update id f hf) (Prisma.user.update id f hf)
      fun user user' => user' = user := by
  rintro db plain rfl
  have husers : Prisma.user.table (db.reveal keys) = Prisma.user.table db := rfl
  unfold Model.update
  rw [husers]
  cases (Prisma.user.table db).find? id with
  | none => exact .error rfl
  | some user => exact .ok ⟨rfl, rfl⟩

/-- Before the first turn every secret of the user waits. -/
theorem rotating_snapshot (db : Database) :
    Rotating keyOf userId newKey (AuthService.snapshot db userId) db
      (db.reveal (ownerKey keyOf)) where
  reveals := by
    refine Database.reveal_congr fun row hrow => (if_neg ?_).symm
    rintro ⟨huser, hnotin⟩
    exact hnotin ((AuthService.ofSecrets_snapshot hrow).mpr huser)
  nodup := AuthService.nodup_secrets db.accounts _
  owned _ hrow hwaiting := (AuthService.ofSecrets_snapshot hrow).mp hwaiting

/-- The transaction of a change takes the opened vault to the new key. -/
theorem rotateKeys_agrees (haes : R.AesGcmLaws) (newHash : String) (fresh : FreshSecrets R)
    {db : Database} (hold : oldKey = keyOf userId) :
    SameOutcome (fun revoked revoked' db' plain => revoked' = revoked ∧
        Reveals (ownerKey (Function.update keyOf userId newKey)) db' plain)
      (fun _ _ => True)
      (AuthService.rotateKeys userId (AuthService.snapshot db userId) oldKey newKey newHash fresh now
        db)
      (AuthService.rotateKeys (R := R.plain) userId
        (AuthService.snapshot (db.reveal (ownerKey keyOf)) userId) () () newHash fresh.plain now
        (db.reveal (ownerKey keyOf))) := by
  have hsecrets : List.Forall₂ (SameSecret oldKey) (AuthService.snapshot db userId)
      (AuthService.snapshot (db.reveal (ownerKey keyOf)) userId) := by
    have hselect : ∀ row ∈ db.accounts.rows,
        decide ((row.reveal (ownerKey keyOf)).userId = userId) = decide (row.userId = userId) :=
      fun _ _ => rfl
    have hrows : (db.reveal (ownerKey keyOf)).accounts.rows.filter (·.userId = userId) = _ :=
      Table.filter_mapRows (Account.reveal_unindexed (ownerKey keyOf)) db.accounts hselect
    rw [AuthService.snapshot, AuthService.snapshot, hrows, hold]
    exact sameSecrets fun row hrow => by simpa using (List.mem_filter.mp hrow).2
  have hloop : Agrees (Rotating keyOf userId newKey (AuthService.snapshot db userId))
      ((AuthService.snapshot db userId).forM (AuthService.reencrypt oldKey newKey fresh.iv now))
      ((AuthService.snapshot (db.reveal (ownerKey keyOf)) userId).forM
        (AuthService.reencrypt (R := R.plain) () () (fun _ => ()) now))
      (fun _ _ => Rotating keyOf userId newKey []) fun _ _ => True :=
    Agrees.forM hsecrets fun _ _ _ hsame => reencrypt_agrees haes fresh.iv hsame
  unfold AuthService.rotateKeys
  refine SameOutcome.bind (hloop _ _ (rotating_snapshot db)) ?_
  rintro _ _ db' plain' ⟨hreveals, -, -⟩
  rw [rotatingKey_nil] at hreveals
  have hfail : ∀ s t, Reveals (ownerKey (Function.update keyOf userId newKey)) s t → True :=
    fun _ _ _ => trivial
  refine SameOutcome.bind ((updateUser_simulates userId _ db' plain' hreveals).mono
    (fun _ _ _ _ h => h) hfail) ?_
  rintro _ _ db'' plain'' ⟨-, rfl⟩
  exact .ok ⟨rfl, rfl⟩

end Rotation

/-! ## Routes on the opened server -/

/-- Every password that verifies for a user derives the key of the user. -/
def CurrentKeys (R : Runtime) (db : Database) (keyOf : String → R.Key) : Prop :=
  ∀ user ∈ db.users.rows, ∀ password,
    R.verifyMasterPassword password user.masterPasswordHash = true →
      R.deriveEncryptionKey password user.masterKdfSalt = keyOf user.id

theorem CurrentKeys.eq (hargon2 : R.Argon2Laws) {db : Database} {keyOf : String → R.Key}
    (hcurrent : CurrentKeys R db keyOf) {userId : String} {key : R.Key}
    (hkey : CurrentKey R db userId key) : key = keyOf userId := by
  obtain ⟨user, password, hfound, ⟨hashSalt, hhash⟩, rfl⟩ := hkey
  obtain ⟨hmem, rfl⟩ := Table.find?_eq_some_iff.mp hfound
  refine hcurrent user hmem password ?_
  rw [hhash]
  exact (hargon2.verify_hash hashSalt password password).mpr rfl

/-- The request works on the opened database, without keys and with the same session. -/
structure Alongside (keyOf : String → R.Key) (ctx : Context R) (plain : Context R.plain) :
    Prop where
  current : CurrentKeys R ctx.db keyOf
  db : Reveals (ownerKey keyOf) ctx.db plain.db
  keys : plain.keys = ctx.keys.erase
  session : plain.session = ctx.session

namespace Alongside

variable {keyOf : String → R.Key} {ctx : Context R} {plain : Context R.plain}

theorem withSession (h : Alongside keyOf ctx plain) (f : SessionData → SessionData) :
    Alongside keyOf (ctx.withSession f) (plain.withSession f) :=
  ⟨h.current, h.db, h.keys, congrArg f h.session⟩

theorem withKeys (h : Alongside keyOf ctx plain) {keys : UnlockKeyStore R.Key}
    {keys' : UnlockKeyStore Unit} (hkeys : keys' = keys.erase) :
    Alongside keyOf (ctx.withKeys keys) (plain.withKeys keys') :=
  ⟨h.current, h.db, hkeys, h.session⟩

/-- The users are the same. -/
theorem users (h : Alongside keyOf ctx plain) : plain.db.users = ctx.db.users := by
  rw [h.db]
  rfl

end Alongside

section Routes

variable {keyOf : String → R.Key} {sessionId : String} {now : Int}

/-- A change of the session alone. -/
theorem modifySession_simulates (f : SessionData → SessionData) :
    Simulates (Alongside keyOf) (Handler.modify (·.withSession f) : Route R Unit)
      (Handler.modify (·.withSession f) : Route R.plain Unit) fun _ _ => True :=
  Agrees.modify fun _ _ h => ⟨trivial, h.withSession f⟩

theorem loggedInGuard_simulates :
    Simulates (Alongside keyOf) (loggedInGuard (R := R)) (loggedInGuard (R := R.plain))
      fun userId userId' => userId' = userId := by
  intro ctx plain h
  unfold loggedInGuard
  rw [state_bind, state_bind, h.session]
  cases ctx.session.loggedInAs with
  | none => exact .error h
  | some userId => exact .ok ⟨rfl, h⟩

theorem refuseLocked_simulates {α β : Type} {onValue : α → β → Prop} :
    Simulates (Alongside keyOf) (refuseLocked : Route R α) (refuseLocked : Route R.plain β)
      onValue :=
  Simulates.bind (modifySession_simulates _) fun _ _ _ => Simulates.raise

/-- The guard admits the same user. -/
theorem unlockedGuard_simulates :
    Simulates (Alongside keyOf) (unlockedGuard (R := R) sessionId now)
      (unlockedGuard (R := R.plain) sessionId now)
      fun admitted admitted' => admitted' = (admitted.1, ()) := by
  refine Simulates.bind loggedInGuard_simulates ?_
  rintro userId _ rfl ctx plain h
  have htouch := UnlockKeyStore.erase_touch ctx.keys sessionId now
  rw [← h.keys] at htouch
  have hafter : Alongside keyOf (ctx.withKeys (ctx.keys.touch sessionId now).2)
      (plain.withKeys (plain.keys.touch sessionId now).2) := h.withKeys (by rw [htouch])
  rw [state_bind, state_bind, modify_bind, modify_bind]
  cases hkey : (ctx.keys.touch sessionId now).1 with
  | none =>
      have hnone : (plain.keys.touch sessionId now).1 = none := by rw [htouch, hkey]; rfl
      rw [hnone]
      exact refuseLocked_simulates _ _ hafter
  | some key =>
      have hsome : (plain.keys.touch sessionId now).1 = some () := by rw [htouch, hkey]; rfl
      rw [hsome, h.session]
      by_cases hunlocked : ctx.session.isUnlocked = true
      · simp only [if_pos hunlocked]
        exact .ok ⟨rfl, hafter⟩
      · simp only [if_neg hunlocked]
        exact refuseLocked_simulates _ _ hafter

/-- A database method inside a request that leaves the users alone. -/
theorem onDatabase_simulates {α β : Type} {x : Query α} {y : Query β} {onValue : α → β → Prop}
    (hagrees : Simulates (Reveals (ownerKey keyOf)) x y onValue)
    (husers : ∀ db, (x db).2.users = db.users) :
    Simulates (Alongside keyOf) (onDatabase x) (onDatabase y) onValue := by
  rintro ctx plain h
  have hout := hagrees ctx.db plain.db h.db
  have hcurrent : CurrentKeys R (x ctx.db).2 keyOf := fun user huser =>
    h.current user (husers ctx.db ▸ huser)
  unfold onDatabase
  rw [zoom_run, zoom_run]
  generalize x ctx.db = out at hout hcurrent
  generalize y plain.db = out' at hout
  cases hout with
  | ok hpost => exact .ok ⟨hpost.1, hcurrent, hpost.2, h.keys, h.session⟩
  | error hreveals => exact .error ⟨hcurrent, hreveals, h.keys, h.session⟩

theorem findUser_simulates {keys : Account → R.Key} (userId : String) :
    Simulates (Reveals keys) (Prisma.user.findUnique userId) (Prisma.user.findUnique userId)
      fun found found' => found' = found := by
  rintro db plain rfl
  exact .ok ⟨rfl, rfl⟩

theorem storeKey_simulates (key : R.Key) (minutes : Int) :
    Simulates (Alongside keyOf) (AuthService.storeKey sessionId now key minutes)
      (AuthService.storeKey (R := R.plain) sessionId now () minutes) fun _ _ => True := by
  refine Agrees.modify fun ctx plain h => ⟨trivial, ?_⟩
  refine (h.withKeys ?_).withSession _
  rw [h.keys, UnlockKeyStore.erase_set]

/-- Both servers verify the same master password. -/
theorem verifiedUser_agrees {userId : String} {password : Option String} {invalid : Exception} :
    Agrees (Alongside keyOf) (AuthService.verifiedUser (R := R) userId password invalid)
      (AuthService.verifiedUser (R := R.plain) userId password invalid)
      (fun found found' ctx plain => (found' = found ∧ Alongside keyOf ctx plain) ∧
        AuthService.CurrentPassword R ctx.db userId password found.1 found.2)
      (Alongside keyOf) := by
  refine Agrees.of_first ?_ ?_
  · refine Simulates.bind (onDatabase_simulates (findUser_simulates userId) fun _ => rfl) ?_
    rintro found _ rfl
    refine Simulates.bind Simulates.expect_self ?_
    rintro _ user ⟨rfl, -⟩
    refine Simulates.bind Simulates.expect_self ?_
    rintro _ accepted ⟨rfl, -⟩
    exact Simulates.bind Simulates.ensure_self fun _ _ _ => Simulates.pure rfl
  · rintro ctx plain ⟨user, accepted⟩ ctx' h hrun
    obtain ⟨hfound, hsome, hverify, rfl⟩ := AuthService.verifiedUser_ok_iff.mp hrun
    exact ⟨hfound, hsome, hverify⟩

theorem unlock_simulates {userId : String} {password : Option String} :
    Simulates (Alongside keyOf) (AuthService.unlock (R := R) sessionId now userId password)
      (AuthService.unlock (R := R.plain) sessionId now userId password) fun _ _ => True := by
  refine Agrees.bind verifiedUser_agrees ?_
  rintro ⟨user, accepted⟩ _ ctx plain ⟨⟨rfl, h⟩, -⟩
  exact storeKey_simulates _ _ ctx plain h

theorem deleteKey_simulates :
    Simulates (Alongside keyOf)
      (Handler.modify fun ctx => ctx.withKeys (ctx.keys.delete sessionId) : Route R Unit)
      (Handler.modify fun ctx => ctx.withKeys (ctx.keys.delete sessionId) : Route R.plain Unit)
      fun _ _ => True :=
  Agrees.modify fun ctx plain h => ⟨trivial, h.withKeys (by
    rw [h.keys, UnlockKeyStore.erase_delete])⟩

/-- The callback reads the users and writes the session. -/
theorem handleGoogleCallback_simulates (oauthState : Option String)
    (profile : Except Exception GoogleProfile) :
    Simulates (Alongside keyOf) (AuthService.handleGoogleCallback (R := R) oauthState profile)
      (AuthService.handleGoogleCallback (R := R.plain) oauthState profile)
      fun status status' => status' = status := by
  intro ctx plain h
  unfold AuthService.handleGoogleCallback
  rw [state_bind, state_bind, h.session, h.users]
  refine Simulates.bind Simulates.ensure_self ?_ ctx plain h
  rintro _ _ -
  refine Simulates.bind (modifySession_simulates _) ?_
  rintro _ _ -
  refine Simulates.bind Simulates.ofExcept_self ?_
  rintro _ known ⟨rfl, -⟩
  cases ctx.db.users.rows.find? (·.googleSubId = known.sub) with
  | none =>
      exact Simulates.bind (modifySession_simulates _) fun _ _ _ => Simulates.pure rfl
  | some user =>
      exact Simulates.bind (modifySession_simulates _) fun _ _ _ => Simulates.pure rfl

theorem newMasterPassword_simulates (related : Context R → Context R.plain → Prop)
    {password : Option String} :
    Simulates related (AuthService.newMasterPassword (R := R) password)
      (AuthService.newMasterPassword (R := R.plain) password)
      fun new new' => new' = new ∧ password = some new := by
  refine Simulates.bind Simulates.expect_self ?_
  rintro _ new ⟨rfl, hsome⟩
  exact Simulates.bind Simulates.ensure_self fun _ _ _ => Simulates.pure ⟨rfl, hsome⟩

/-! ### A new user -/

section NewUser

variable {db : Database} {users : Table User} {pending : GoogleProfile} {new : String}
  {fresh : FreshSecrets R}

/-- A stored user does not have the new id. -/
theorem ne_of_insert_user {user : User} {userId : String}
    (hinsert : db.users.insert? (AuthService.newUser pending new fresh now) = some users)
    (hfound : db.users.find? userId = some user) : userId ≠ fresh.userId := by
  rintro rfl
  obtain ⟨hmem, hid⟩ := Table.find?_eq_some_iff.mp hfound
  exact (Table.insert?_eq_some_iff.mp hinsert).1 user hmem (Entity.clash_of_key_eq hid)

theorem currentKeys_insert (hargon2 : R.Argon2Laws) (hcurrent : CurrentKeys R db keyOf)
    (hinsert : db.users.insert? (AuthService.newUser pending new fresh now) = some users) :
    CurrentKeys R { db with users }
      (Function.update keyOf fresh.userId (R.deriveEncryptionKey new fresh.kdfSalt)) := by
  intro user huser password hverify
  obtain ⟨hfree, hrows⟩ := Table.insert?_eq_some_iff.mp hinsert
  change user ∈ users.rows at huser
  rw [hrows, List.mem_append, List.mem_singleton] at huser
  rcases huser with hold | rfl
  · have hne : user.id ≠ fresh.userId := fun hid => hfree user hold (Entity.clash_of_key_eq hid)
    rw [Function.update_of_ne hne]
    exact hcurrent user hold password hverify
  · obtain rfl : password = new := (hargon2.verify_hash fresh.hashSalt new password).mp hverify
    exact (@Function.update_self String (fun _ => R.Key) _ fresh.userId _ keyOf).symm

/-- The vault has no row of a user who is not stored yet. -/
theorem reveal_insert (hreadable : VaultReadable R db)
    (hinsert : db.users.insert? (AuthService.newUser pending new fresh now) = some users)
    (key : R.Key) : db.reveal (ownerKey (Function.update keyOf fresh.userId key)) =
      db.reveal (ownerKey keyOf) := by
  refine Database.reveal_congr fun row hrow => ?_
  obtain ⟨-, ⟨user, -, hfound, -⟩, -⟩ := hreadable row hrow
  exact Function.update_of_ne (ne_of_insert_user hinsert hfound) ..

end NewUser

/-- The setup stores the same user, and its key is the current one. -/
theorem setupMasterPassword_agrees (hargon2 : R.Argon2Laws) {password : Option String}
    (fresh : FreshSecrets R) :
    Agrees (fun ctx plain => Alongside keyOf ctx plain ∧ VaultReadable R ctx.db)
      (AuthService.setupMasterPassword sessionId now password fresh)
      (AuthService.setupMasterPassword (R := R.plain) sessionId now password fresh.plain)
      (fun _ _ ctx plain => ∃ keyOf', Alongside keyOf' ctx plain)
      (fun ctx plain => Alongside keyOf ctx plain ∧ VaultReadable R ctx.db) := by
  rintro ctx plain hpre
  unfold AuthService.setupMasterPassword
  rw [state_bind, state_bind, hpre.1.session]
  refine Agrees.bind Simulates.ensure_self ?_ ctx plain hpre
  rintro _ _ ctx plain ⟨-, hpre⟩
  refine Agrees.bind Simulates.expect_self ?_ ctx plain hpre
  rintro _ pending ctx plain ⟨⟨rfl, -⟩, hpre⟩
  refine Agrees.bind (newMasterPassword_simulates _) ?_ ctx plain hpre
  rintro _ new ctx plain ⟨⟨rfl, -⟩, h, hreadable⟩
  have husers : Prisma.user.table plain.db = Prisma.user.table ctx.db := h.users
  have hrow : AuthService.newUser (R := R.plain) pending new fresh.plain now =
    AuthService.newUser pending new fresh now := rfl
  cases hinsert : (Prisma.user.table ctx.db).insert? (AuthService.newUser pending new fresh now) with
  | none =>
      have hrefused : Prisma.user.create (AuthService.newUser pending new fresh now) ctx.db =
          (.error .p2002, ctx.db) := by simp [Model.create, hinsert]
      have hrefused' : Prisma.user.create (AuthService.newUser pending new fresh now) plain.db =
          (.error .p2002, plain.db) := by simp [Model.create, husers, hinsert]
      rw [bind_of_error (onDatabase_run.mpr ⟨_, hrefused, rfl⟩), hrow,
        bind_of_error (onDatabase_run.mpr ⟨_, hrefused', rfl⟩)]
      exact .error ⟨h, hreadable⟩
  | some users =>
      have hstored := (Model.create_ok_iff Prisma.user).mpr ⟨rfl, rfl, users, hinsert, rfl⟩
      have hstored' := (Model.create_ok_iff Prisma.user).mpr
        ⟨rfl, rfl, users, husers ▸ hinsert, rfl⟩
      rw [bind_of_ok (onDatabase_run.mpr ⟨_, hstored, rfl⟩), hrow,
        bind_of_ok (onDatabase_run.mpr ⟨_, hstored', rfl⟩)]
      refine .ok ⟨Function.update keyOf fresh.userId (R.deriveEncryptionKey new fresh.kdfSalt), ?_⟩
      constructor
      case current => exact currentKeys_insert hargon2 h.current hinsert
      case db =>
        change { plain.db with users } =
          { ctx.db.reveal (ownerKey (Function.update keyOf fresh.userId _)) with users }
        rw [reveal_insert hreadable hinsert, show plain.db = _ from h.db]
      case keys =>
        change plain.keys.set sessionId now () _ = _
        rw [h.keys]
        exact (UnlockKeyStore.erase_set ctx.keys sessionId now _ _).symm
      case session =>
        exact congrArg (fun session : SessionData => { session with
          pendingGoogle := none, userId := some fresh.userId, unlocked := some true }) h.session

/-! ### A new master password -/

section Change

variable {db : Database} {userId new : String} {oldKey : R.Key}

/-- The user row after a change of the master password. -/
def ChangedUsers (userId newHash newSalt : String) (db db' : Database) : Prop :=
  db'.users.rows = db.users.rows.map fun user =>
    if user.id = userId then AuthService.setMasterPassword newHash newSalt user else user

theorem currentKeys_change (hargon2 : R.Argon2Laws) {db' : Database} {fresh : FreshSecrets R}
    (hcurrent : CurrentKeys R db keyOf)
    (husers : ChangedUsers userId (R.hashMasterPassword fresh.hashSalt new) fresh.kdfSalt db db') :
    CurrentKeys R db' (Function.update keyOf userId (R.deriveEncryptionKey new fresh.kdfSalt)) := by
  intro user' huser' password hverify
  rw [husers] at huser'
  obtain ⟨user, huser, rfl⟩ := List.mem_map.mp huser'
  by_cases hid : user.id = userId
  · rw [if_pos hid] at hverify ⊢
    obtain rfl : password = new := (hargon2.verify_hash fresh.hashSalt new password).mp hverify
    change _ = Function.update keyOf userId _ user.id
    rw [hid, Function.update_self]
    rfl
  · rw [if_neg hid] at hverify ⊢
    rw [Function.update_of_ne hid]
    exact hcurrent user huser password hverify

/-- The transaction of a change, which is undone on both servers when it fails. -/
theorem transaction_agrees (haes : R.AesGcmLaws) (db : Database) (newHash : String)
    (newKey : R.Key) (fresh : FreshSecrets R) (now : Int) (hold : oldKey = keyOf userId) :
    SameOutcome (fun revoked revoked' db' plain => (revoked' = revoked ∧
        Reveals (ownerKey (Function.update keyOf userId newKey)) db' plain) ∧
          ChangedUsers userId newHash fresh.kdfSalt db db')
      (fun db' plain => db' = db ∧ plain = db.reveal (ownerKey keyOf))
      (Handler.transaction (AuthService.rotateKeys userId (AuthService.snapshot db userId) oldKey
        newKey newHash fresh now) db)
      (Handler.transaction (AuthService.rotateKeys (R := R.plain) userId
        (AuthService.snapshot (db.reveal (ownerKey keyOf)) userId) () () newHash fresh.plain now)
        (db.reveal (ownerKey keyOf))) := by
  refine (rotateKeys_agrees haes newHash fresh hold).transaction.of_first fun revoked db' hrun => ?_
  obtain ⟨-, husers, -⟩ := AuthService.rotateKeys_ok haes (transaction_ok_iff.mp hrun)
  rw [ChangedUsers, husers, Table.rows_modify]
  rfl

/-- A change of the master password changes nothing in the opened vault. -/
theorem changeMasterPassword_agrees (hargon2 : R.Argon2Laws) (haes : R.AesGcmLaws)
    {currentPassword newPassword : Option String} (fresh : FreshSecrets R) :
    Agrees (Alongside keyOf)
      (AuthService.changeMasterPassword sessionId now userId currentPassword newPassword fresh)
      (AuthService.changeMasterPassword (R := R.plain) sessionId now userId currentPassword
        newPassword fresh.plain)
      (fun _ _ ctx plain => ∃ keyOf', Alongside keyOf' ctx plain) (Alongside keyOf) := by
  refine Agrees.bind verifiedUser_agrees ?_
  rintro ⟨user, current⟩ _ ctx plain ⟨⟨rfl, h⟩, hfound, -, hverify⟩
  obtain ⟨huser, hid⟩ := Table.find?_eq_some_iff.mp hfound
  have hold : R.deriveEncryptionKey current user.masterKdfSalt = keyOf userId :=
    (h.current user huser current hverify).trans (congrArg keyOf hid)
  refine SameOutcome.bind ((newMasterPassword_simulates (fun s t => s = ctx ∧ t = plain) ctx plain
    ⟨rfl, rfl⟩).mono (fun _ _ _ _ hpost => hpost) ?_) ?_
  · rintro _ _ ⟨rfl, rfl⟩
    exact h
  rintro _ new ctx plain ⟨⟨rfl, -⟩, rfl, rfl⟩
  have hrotate := transaction_agrees haes ctx.db (R.hashMasterPassword fresh.hashSalt new)
    (R.deriveEncryptionKey new fresh.kdfSalt) fresh now hold
  rw [← show plain.db = _ from h.db] at hrotate
  have hread : ∀ {S : Runtime} {α : Type} (rest : List Account → Route S α) (ctx : Context S),
      (onDatabase (Prisma.account.findMany (·.userId = userId)) >>= rest) ctx =
        rest (ctx.db.accounts.rows.filter (·.userId = userId)) ctx := fun _ _ => rfl
  rw [hread, hread]
  refine SameOutcome.bind (hrotate.zoom.mono (fun _ _ _ _ hpost => hpost) ?_) ?_
  · rintro _ _ ⟨_, _, ⟨rfl, rfl⟩, rfl, rfl⟩
    exact h
  rintro _ _ _ _ ⟨db', plainDb', ⟨⟨rfl, hreveals⟩, husers⟩, rfl, rfl⟩
  refine .ok ⟨_, currentKeys_change hargon2 h.current husers, hreveals, ?_, ?_⟩
  · change plain.keys.set sessionId now () _ = _
    rw [h.keys]
    exact (UnlockKeyStore.erase_set ctx.keys sessionId now _ _).symm
  · exact congrArg (fun session : SessionData => { session with unlocked := some true }) h.session

end Change

end Routes

/-! ## Calls -/

namespace VaultRequest

/-- The route of the request, with its answer. -/
def answer (sessionId : String) (now : Int) : VaultRequest R → Route R VaultReply
  | .auth request => do
      let _ ← request.route sessionId now
      pure .done
  | .account request => do
      let (userId, encryptionKey) ← unlockedGuard sessionId now
      onDatabase (request.reply userId encryptionKey now)

/-- The request uses the key of its guard when it is accepted. -/
def usesKey : VaultRequest R → Bool
  | .auth _ => false
  | .account request => request.usesKey

/-- The request to the server without encryption. -/
def plain : VaultRequest R → VaultRequest R.plain
  | .auth (.googleStart generatedState) => .auth (.googleStart generatedState)
  | .auth (.googleCallback oauthState profile) => .auth (.googleCallback oauthState profile)
  | .auth (.setupMasterPassword password fresh) => .auth (.setupMasterPassword password fresh.plain)
  | .auth (.changeMasterPassword currentPassword newPassword fresh) =>
      .auth (.changeMasterPassword currentPassword newPassword fresh.plain)
  | .auth (.unlock password) => .auth (.unlock password)
  | .auth .lock => .auth .lock
  | .auth .logout => .auth .logout
  | .auth .me => .auth .me
  | .auth .settings => .auth .settings
  | .auth (.updateAutoLockMinutes minutes) => .auth (.updateAutoLockMinutes minutes)
  | .auth .webauthnDevices => .auth .webauthnDevices
  | .auth (.webauthnRegisterOptions challenge) => .auth (.webauthnRegisterOptions challenge)
  | .auth (.webauthnRegister freshId label response) =>
      .auth (.webauthnRegister freshId label response)
  | .auth (.webauthnAuthenticateOptions challenge) => .auth (.webauthnAuthenticateOptions challenge)
  | .auth (.webauthnAuthenticate response password) => .auth (.webauthnAuthenticate response password)
  | .auth (.webauthnRemove deviceId) => .auth (.webauthnRemove deviceId)
  | .account request => .account request.plain

theorem onDatabase_discard {α : Type} (query : Query α) :
    (onDatabase (query >>= fun _ => pure ()) : Route R Unit) =
      onDatabase query >>= fun _ => pure () := by
  funext ctx
  unfold onDatabase
  rw [zoom_run, bind_run, bind_run, zoom_run]
  rcases query ctx.db with ⟨_ | _, _⟩ <;> rfl

/-- The answer only adds to what the route does. -/
theorem route_eq_answer (request : VaultRequest R) (sessionId : String) (now : Int) :
    request.route sessionId now = request.answer sessionId now >>= fun _ => pure () := by
  have hlawful : LawfulMonad (Handler Exception (Context R)) := lawfulMonad
  cases request with
  | auth request => simp [route, answer]
  | account request =>
      simp only [route, AccountRequest.route, answer, AccountRequest.service_eq_reply,
        onDatabase_discard, bind_assoc]

end VaultRequest

/-- An account request leaves the users alone. -/
theorem AccountRequest.reply_users {request : AccountRequest R} (hcolumns : request.OwnColumns)
    (userId : String) (key : R.Key) (now : Int) (db : Database) :
    (request.reply userId key now db).2.users = db.users := by
  have hwrite : (request.service userId key now db).2.users = db.users :=
    (request.service_vaultWrite hcolumns db).users
  rwa [request.service_eq_reply, bind_pure_state] at hwrite

section Calls

variable {sessionId : String} {now : Int}

/-- The request works on the opened database under the current keys of the users. -/
def Opened (ctx : Context R) (plain : Context R.plain) : Prop :=
  ∃ keyOf : String → R.Key, Alongside keyOf ctx plain

/-- A request under `/auth` ends alike on both servers. -/
theorem auth_agrees (hargon2 : R.Argon2Laws) (haes : R.AesGcmLaws) {request : AuthRequest R}
    (hconsidered : (VaultRequest.auth request).Considered) {keyOf : String → R.Key}
    {ctx : Context R} {plain : Context R.plain} (h : Alongside keyOf ctx plain)
    (hreadable : VaultReadable R ctx.db) :
    SameOutcome (fun _ _ => Opened) Opened
      ((VaultRequest.auth request).route sessionId now ctx)
      ((VaultRequest.auth request).plain.route sessionId now plain) := by
  have hsimulated : ∀ {x : Route R Unit} {y : Route R.plain Unit},
      Simulates (Alongside keyOf) x y (fun _ _ => True) →
        SameOutcome (fun _ _ => Opened) Opened (x ctx) (y plain) := fun hx =>
    (hx ctx plain h).mono (fun _ _ _ _ hpost => ⟨keyOf, hpost.2⟩) fun _ _ hfail => ⟨keyOf, hfail⟩
  have hdone : ∀ {α β : Type} (_ : α) (_ : β), Simulates (ε := Exception)
      (Alongside (R := R) keyOf) (pure ()) (pure ()) fun _ _ => True :=
    fun _ _ => Simulates.pure trivial
  cases request with
  | googleStart generatedState =>
      refine hsimulated (Simulates.bind ?_ fun a b (_ : True) => hdone a b)
      exact Simulates.bind (modifySession_simulates _) fun _ _ _ => Simulates.pure trivial
  | googleCallback oauthState profile =>
      refine hsimulated (Simulates.bind ?_ fun a b (_ : True) => hdone a b)
      refine Simulates.recover (Simulates.bind (handleGoogleCallback_simulates oauthState profile) ?_)
        fun e => Simulates.pure trivial
      rintro _ status rfl
      cases status <;> exact Simulates.pure trivial
  | setupMasterPassword password fresh =>
      refine SameOutcome.bind ((setupMasterPassword_agrees hargon2 fresh ctx plain
        ⟨h, hreadable⟩).mono (fun _ _ _ _ hpost => hpost) fun _ _ hfail => ⟨keyOf, hfail.1⟩) ?_
      exact fun _ _ => Agrees.pure fun _ _ hopened => hopened
  | changeMasterPassword currentPassword newPassword fresh =>
      have hchange : Agrees (Alongside keyOf)
          (AuthController.changeMasterPassword sessionId now currentPassword newPassword fresh)
          (AuthController.changeMasterPassword (R := R.plain) sessionId now currentPassword
            newPassword fresh.plain) (fun _ _ => Opened) (Alongside keyOf) := by
        refine Agrees.bind unlockedGuard_simulates ?_
        rintro admitted _ ctx plain ⟨rfl, h⟩
        exact changeMasterPassword_agrees hargon2 haes fresh ctx plain h
      refine SameOutcome.bind ((hchange ctx plain h).mono (fun _ _ _ _ hpost => hpost)
        fun _ _ hfail => ⟨keyOf, hfail⟩) ?_
      exact fun _ _ => Agrees.pure fun _ _ hopened => hopened
  | unlock password =>
      refine hsimulated (Simulates.bind loggedInGuard_simulates ?_)
      rintro userId _ rfl
      exact unlock_simulates
  | lock =>
      refine hsimulated (Simulates.bind loggedInGuard_simulates fun _ _ _ => ?_)
      exact Simulates.bind deleteKey_simulates fun _ _ _ => modifySession_simulates _
  | logout =>
      exact hsimulated (Simulates.bind deleteKey_simulates fun _ _ _ => modifySession_simulates _)
  | _ => exact hconsidered.elim

/-- A request under `/accounts` is answered alike, if its key is current. -/
theorem account_agrees (hargon2 : R.Argon2Laws) (haes : R.AesGcmLaws) {request : AccountRequest R}
    (hcolumns : request.OwnColumns) {keyOf : String → R.Key} {ctx : Context R}
    {plain : Context R.plain} (h : Alongside keyOf ctx plain)
    (hkey : request.usesKey = true → ∀ userId entry,
      ctx.session.userId = some userId → ctx.session.isUnlocked = true →
      ctx.keys sessionId = some entry → CurrentKey R ctx.db userId entry.key) :
    SameOutcome (fun reply reply' ctx plain => reply' = reply ∧ Opened ctx plain) Opened
      ((VaultRequest.account request).answer sessionId now ctx)
      ((VaultRequest.account request).plain.answer sessionId now plain) := by
  have hcurrent : ∀ admitted ctx', unlockedGuard sessionId now ctx = (.ok admitted, ctx') →
      request.usesKey = true → admitted.2 = keyOf admitted.1 := by
    intro admitted ctx' hrun huses
    obtain ⟨hlogged, hunlocked, htouch, -⟩ := unlockedGuard_ok_iff.mp hrun
    obtain ⟨entry, hentry, hsame⟩ := UnlockKeyStore.touch_key _ _ _ htouch
    rw [← hsame]
    exact h.current.eq hargon2 (hkey huses _ entry (SessionData.userId_of_loggedInAs hlogged)
      hunlocked hentry)
  refine SameOutcome.bind (((unlockedGuard_simulates ctx plain h).of_first hcurrent).mono
    (fun _ _ _ _ hpost => hpost) fun _ _ hfail => ⟨keyOf, hfail⟩) ?_
  rintro ⟨userId, key⟩ _ ctx plain ⟨⟨rfl, h⟩, hcurrent⟩
  have hreply := onDatabase_simulates (request.reply_simulates haes hcolumns hcurrent)
    (request.reply_users hcolumns userId key now) ctx plain h
  exact hreply.mono (fun _ _ _ _ hpost => ⟨hpost.1, keyOf, hpost.2⟩) fun _ _ hfail => ⟨keyOf, hfail⟩

/-- A call is answered alike on both servers. -/
theorem answer_agrees (hargon2 : R.Argon2Laws) (haes : R.AesGcmLaws) {request : VaultRequest R}
    (hconsidered : request.Considered) {ctx : Context R} {plain : Context R.plain}
    (h : Opened ctx plain) (hreadable : VaultReadable R ctx.db)
    (hkey : request.usesKey = true → ∀ userId entry,
      ctx.session.userId = some userId → ctx.session.isUnlocked = true →
      ctx.keys sessionId = some entry → CurrentKey R ctx.db userId entry.key) :
    SameOutcome (fun reply reply' ctx plain => reply' = reply ∧ Opened ctx plain) Opened
      (request.answer sessionId now ctx) (request.plain.answer sessionId now plain) := by
  obtain ⟨keyOf, h⟩ := h
  cases request with
  | account request => exact account_agrees hargon2 haes hconsidered h hkey
  | auth request =>
      have hroute : SameOutcome (fun _ _ => Opened) Opened
          ((VaultRequest.auth request).route sessionId now ctx)
          ((VaultRequest.auth request).plain.route sessionId now plain) :=
        auth_agrees hargon2 haes hconsidered h hreadable
      have hdone : ∀ _ _ : Unit, Agrees (ε := Exception) (Opened (R := R)) (pure VaultReply.done)
          (pure VaultReply.done) (fun reply reply' ctx plain => reply' = reply ∧ Opened ctx plain)
          Opened := fun _ _ => Agrees.pure fun _ _ hopened => ⟨rfl, hopened⟩
      cases request <;> exact SameOutcome.bind hroute hdone

end Calls

/-! ## Runs -/

/-- The call to the server without encryption. -/
def VaultCall.plain (call : VaultCall R) : VaultCall R.plain :=
  ⟨call.sessionId, call.now, call.request.plain⟩

namespace VaultState

/-- A server that has just started on an empty database. -/
def start (R : Runtime) : VaultState R :=
  ⟨⟨Database.empty, UnlockKeyStore.empty, fun _ => {}⟩, fun _ => false⟩

/-- What the call is answered. -/
def answer (state : VaultState R) (call : VaultCall R) : Except Exception VaultReply :=
  (state.server.serve call.sessionId (call.request.answer call.sessionId call.now)).1

/-- What the calls of a run are answered. -/
def answers : VaultState R → List (VaultCall R) → List (Except Exception VaultReply)
  | _, [] => []
  | state, call :: rest => state.answer call :: (state.step call).answers rest

/-- No outdated session uses its key. -/
def UsesCurrentKey (state : VaultState R) (call : VaultCall R) : Prop :=
  call.request.usesKey = true → state.outdated call.sessionId = false

instance (state : VaultState R) (call : VaultCall R) : Decidable (UsesCurrentKey state call) :=
  inferInstanceAs (Decidable (_ → _))

/-- The server after a call is the one that the answer leaves. -/
theorem step_server (state : VaultState R) (call : VaultCall R) :
    (state.step call).server = state.server.save call.sessionId
      (call.request.answer call.sessionId call.now (state.server.context call.sessionId)).2 := by
  rw [step, Server.serve, VaultRequest.route_eq_answer, bind_pure_state]

theorem writesWithCurrentKey {state : VaultState R} {call : VaultCall R}
    (huses : state.UsesCurrentKey call) : state.WritesWithCurrentKey call := by
  intro hwrites
  refine huses ?_
  obtain ⟨sessionId, now, request⟩ := call
  cases request with
  | auth request => contradiction
  | account request => cases request <;> first | exact hwrites | rfl

end VaultState

/-- The server without encryption holds the opened vault, and the same sessions. -/
def OpenedServer (server : Server R) (plain : Server R.plain) : Prop :=
  (∃ keyOf : String → R.Key, CurrentKeys R server.db keyOf ∧
    Reveals (ownerKey keyOf) server.db plain.db) ∧
  plain.keys = server.keys.erase ∧ plain.sessions = server.sessions

theorem OpenedServer.context {server : Server R} {plain : Server R.plain}
    (h : OpenedServer server plain) (sessionId : String) :
    Opened (server.context sessionId) (plain.context sessionId) := by
  obtain ⟨⟨keyOf, hcurrent, hreveals⟩, hkeys, hsessions⟩ := h
  exact ⟨keyOf, hcurrent, hreveals, hkeys, congrFun hsessions sessionId⟩

theorem OpenedServer.save {server : Server R} {plain : Server R.plain}
    (h : OpenedServer server plain) (sessionId : String) {ctx : Context R}
    {ctx' : Context R.plain} (hopened : Opened ctx ctx') :
    OpenedServer (server.save sessionId ctx) (plain.save sessionId ctx') := by
  obtain ⟨keyOf, hcurrent, hreveals, hkeys, hsession⟩ := hopened
  refine ⟨⟨keyOf, hcurrent, hreveals⟩, hkeys, ?_⟩
  change Function.update plain.sessions _ _ = Function.update server.sessions _ _
  rw [h.2.2, hsession]

/-- One call is answered alike and leaves the server without encryption beside the other. -/
theorem opened_step (hargon2 : R.Argon2Laws) (haes : R.AesGcmLaws) {state : VaultState R}
    {plain : VaultState R.plain} {call : VaultCall R} (hinvariant : VaultInvariant state)
    (h : OpenedServer state.server plain.server) (hconsidered : call.request.Considered)
    (huses : state.UsesCurrentKey call) :
    plain.answer call.plain = state.answer call ∧
      OpenedServer (state.step call).server (plain.step call.plain).server := by
  have hkey : call.request.usesKey = true → ∀ userId entry,
      (state.server.context call.sessionId).session.userId = some userId →
      (state.server.context call.sessionId).session.isUnlocked = true →
      (state.server.context call.sessionId).keys call.sessionId = some entry →
      CurrentKey R (state.server.context call.sessionId).db userId entry.key :=
    fun hkeyed userId entry huserId hunlocked hentry =>
      hinvariant.keys _ _ _ (huses hkeyed) hunlocked huserId hentry
  have hout : SameOutcome _ _ (call.request.answer call.sessionId call.now _)
      (call.request.plain.answer call.sessionId call.now _) :=
    answer_agrees hargon2 haes hconsidered (h.context call.sessionId) hinvariant.readable hkey
  rw [VaultState.step_server, VaultState.step_server, VaultState.answer, VaultState.answer]
  simp only [Server.serve, VaultCall.plain]
  generalize call.request.answer call.sessionId call.now _ = out at hout
  generalize call.request.plain.answer call.sessionId call.now _ = out' at hout
  cases hout with
  | ok hpost => exact ⟨congrArg Except.ok hpost.1, h.save call.sessionId hpost.2⟩
  | error hopened => exact ⟨rfl, h.save call.sessionId hopened⟩

/-- A whole run, from servers that hold the same vault. -/
theorem opened_run (hargon2 : R.Argon2Laws) (haes : R.AesGcmLaws) {state : VaultState R}
    {plain : VaultState R.plain} {calls : List (VaultCall R)} (hinvariant : VaultInvariant state)
    (h : OpenedServer state.server plain.server)
    (hconsidered : ∀ call ∈ calls, call.request.Considered)
    (huses : Along VaultState.step VaultState.UsesCurrentKey state calls) :
    plain.answers (calls.map VaultCall.plain) = state.answers calls ∧
      OpenedServer (run VaultState.step state calls).server
        (run VaultState.step plain (calls.map VaultCall.plain)).server := by
  induction calls generalizing state plain with
  | nil => exact ⟨rfl, h⟩
  | cons call rest ih =>
      obtain ⟨hcurrent, hrest⟩ := huses
      have hfirst := hconsidered call List.mem_cons_self
      obtain ⟨hanswer, hnext⟩ := opened_step hargon2 haes hinvariant h hfirst hcurrent
      obtain ⟨hanswers, hend⟩ := ih (vaultInvariant_step hargon2 haes state call hinvariant
        ⟨hfirst, VaultState.writesWithCurrentKey hcurrent⟩) hnext
        (fun other hother => hconsidered other (List.mem_cons_of_mem _ hother)) hrest
      exact ⟨congrArg₂ List.cons hanswer hanswers, hend⟩

/-- Encryption shows in no answer: in every run of considered calls in which no outdated session
uses its key, the server that stores plain passwords answers every call alike, and lists the same
accounts. -/
theorem answers_without_encryption (hargon2 : R.Argon2Laws) (haes : R.AesGcmLaws)
    (calls : List (VaultCall R)) (hconsidered : ∀ call ∈ calls, call.request.Considered)
    (huses : Along VaultState.step VaultState.UsesCurrentKey (VaultState.start R) calls) :
    (VaultState.start R.plain).answers (calls.map VaultCall.plain) =
        (VaultState.start R).answers calls ∧
      ∀ contains userId category q,
        (AccountsService.findAll contains userId category q
          (run VaultState.step (VaultState.start R.plain) (calls.map VaultCall.plain)).server.db).1 =
        (AccountsService.findAll contains userId category q
          (run VaultState.step (VaultState.start R) calls).server.db).1 := by
  have hinvariant : VaultInvariant (VaultState.start R) := by
    refine ⟨?_, ?_, ?_⟩
    · exact fun user huser => absurd huser List.not_mem_nil
    · exact fun row hrow => absurd hrow List.not_mem_nil
    · intro _ _ _ _ _ _ hentry
      contradiction
  have hopened : OpenedServer (VaultState.start R).server (VaultState.start R.plain).server := by
    refine ⟨⟨fun _ => R.deriveEncryptionKey "" "", ?_, rfl⟩, rfl, rfl⟩
    exact fun user huser => absurd huser List.not_mem_nil
  obtain ⟨hanswers, ⟨keyOf, -, hreveals⟩, -⟩ :=
    opened_run hargon2 haes hinvariant hopened hconsidered huses
  refine ⟨hanswers, fun contains userId category q => ?_⟩
  exact (AccountsService.findAll_simulates contains category q _ _ hreveals).result_eq

/-! ## A run with a change of the master password -/

namespace OldKey

/-- The first session stores an account, changes the master password and reads the account. -/
def rotated : List (VaultCall symbolicRuntime) := setup ++
  [⟨"s1", 4, .account (.create body ⟨"a", "iv"⟩)⟩,
    ⟨"s1", 5, .auth (.changeMasterPassword (some "first-password") (some "second-password")
      second)⟩,
    ⟨"s1", 6, .account (.findOne "a")⟩]

theorem rotated_considered : ∀ call ∈ rotated, call.request.Considered := by
  have hbody : OwnColumns body := by decide
  simp [rotated, setup, VaultRequest.Considered, AccountRequest.OwnColumns, hbody]

end OldKey

open OldKey in
theorem answers_without_encryption_rotated :
    (VaultState.start symbolicRuntime.plain).answers (rotated.map VaultCall.plain) =
        (VaultState.start symbolicRuntime).answers rotated ∧
      ∀ contains userId category q,
        (AccountsService.findAll contains userId category q (run VaultState.step
          (VaultState.start symbolicRuntime.plain) (rotated.map VaultCall.plain)).server.db).1 =
        (AccountsService.findAll contains userId category q
          (run VaultState.step (VaultState.start symbolicRuntime) rotated).server.db).1 :=
  answers_without_encryption symbolicRuntime.argon2Laws symbolicRuntime.aesGcmLaws rotated
    rotated_considered (by decide +kernel)

end MyAccountController
