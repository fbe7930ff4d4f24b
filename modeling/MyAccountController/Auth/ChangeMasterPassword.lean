import MyAccountController.Auth.AuthService
import MyAccountController.Common.SymbolicRuntime

/-! # What a change of the master password does

The transaction re-encrypts the snapshot of the user's accounts one row at a
time. Either every ciphertext opens under the old key and each row ends with
the same plaintext under the new key, or the transaction is undone.
-/

namespace MyAccountController

open Foundation

variable {R : Runtime}

namespace AuthService

/-- A row before and after a rotation: a selected account keeps its plaintext
and every column but the ciphertext and `updatedAt`; any other row is left
alone. -/
structure Reencrypted (R : Runtime) (oldKey newKey : R.Key) (selected : Account → Prop)
    (before after : Account) : Prop where
  rotated : selected before → ∃ payload plaintext now,
    after = setEncryptedPassword payload now before ∧
      R.decrypt before.encryptedPassword oldKey = some plaintext ∧
      R.decrypt payload newKey = some plaintext
  untouched : ¬ selected before → after = before

/-- The rows whose ids are in the list of secrets. -/
def ofSecrets (secrets : List AccountSecret) (row : Account) : Prop :=
  row.id ∈ secrets.map AccountSecret.id

variable {oldKey newKey : R.Key} {iv : String → R.Iv} {now : Int}

/-- One turn of the loop succeeds exactly when the ciphertext opens and the row
is there. -/
theorem reencrypt_ok_iff {secret : AccountSecret} {db db' : Database} {u : PUnit} :
    reencrypt oldKey newKey iv now secret db = (.ok u, db') ↔
      ∃ plaintext, R.decrypt secret.encryptedPassword oldKey = some plaintext ∧
        (∃ row, db.accounts.find? secret.id = some row) ∧
        db' = Prisma.account.withTable db (db.accounts.modify secret.id
          (setEncryptedPassword (R.encrypt plaintext newKey (iv secret.id)) now)
          (setEncryptedPassword_unindexed _ _)) := by
  simp only [reencrypt, Handler.bind_ok_iff, Handler.expect_ok_iff, Model.update_ok_iff,
    Handler.pure_run, Prod.mk.injEq, true_and]
  constructor
  · rintro ⟨plaintext, _, ⟨hdecrypt, rfl⟩, _, _, ⟨⟨row, hrow, _⟩, rfl⟩, rfl⟩
    exact ⟨plaintext, hdecrypt, ⟨row, hrow⟩, rfl⟩
  · rintro ⟨plaintext, hdecrypt, ⟨row, hrow⟩, rfl⟩
    exact ⟨plaintext, db, ⟨hdecrypt, rfl⟩, _, _, ⟨⟨row, hrow, rfl⟩, rfl⟩, rfl⟩

theorem Reencrypted.id_eq {selected : Account → Prop} {before after : Account}
    (h : Reencrypted R oldKey newKey selected before after) : after.id = before.id := by
  by_cases hselected : selected before
  · obtain ⟨payload, plaintext, now, rfl, -⟩ := h.rotated hselected
    rfl
  · rw [h.untouched hselected]

/-- The rest of the loop never comes back to the row of the head. -/
theorem Reencrypted.cons {secret : AccountSecret} {rest : List AccountSecret}
    {row middle after : Account} (hnotin : secret.id ∉ rest.map AccountSecret.id)
    (hhead : Reencrypted R oldKey newKey (fun row => row.id = secret.id) row middle)
    (htail : Reencrypted R oldKey newKey (ofSecrets rest) middle after) :
    Reencrypted R oldKey newKey (ofSecrets (secret :: rest)) row after := by
  by_cases heq : row.id = secret.id
  · have hdone : after = middle := htail.untouched (by
      rw [ofSecrets, hhead.id_eq, heq]
      exact hnotin)
    refine ⟨fun _ => hdone ▸ hhead.rotated heq, fun hnot => absurd ?_ hnot⟩
    simp [ofSecrets, heq]
  · have hselect : ofSecrets (secret :: rest) row ↔ ofSecrets rest row := by
      simp [ofSecrets, heq]
    obtain rfl : middle = row := hhead.untouched heq
    exact ⟨fun h => htail.rotated (hselect.mp h),
      fun h => htail.untouched (mt hselect.mpr h)⟩

/-- Only the accounts differ, and row by row as `Reencrypted` says. -/
def RowsReencrypted (R : Runtime) (oldKey newKey : R.Key) (selected : Account → Prop)
    (db db' : Database) : Prop :=
  ∃ (accounts : Table Account) (g : Account → Account),
    db' = Prisma.account.withTable db accounts ∧
      accounts.rows = db.accounts.rows.map g ∧
      ∀ row ∈ db.accounts.rows, Reencrypted R oldKey newKey selected row (g row)

/-- What one turn of the loop does to the rows. -/
theorem reencrypt_step (haes : R.AesGcmLaws) {secret : AccountSecret} {db db' : Database}
    {u : PUnit}
    (hsnapshot : ∀ row ∈ db.accounts.rows, row.id = secret.id →
      row.encryptedPassword = secret.encryptedPassword)
    (hrun : reencrypt oldKey newKey iv now secret db = (.ok u, db')) :
    RowsReencrypted R oldKey newKey (fun row => row.id = secret.id) db db' := by
  obtain ⟨plaintext, hdecrypt, -, rfl⟩ := reencrypt_ok_iff.mp hrun
  refine ⟨_, _, rfl, Table.rows_modify _ _ _ _, ?_⟩
  intro row hrow
  refine ⟨fun heq => ?_, fun hne => if_neg hne⟩
  refine ⟨_, plaintext, now, if_pos heq, ?_,
    haes.decrypt_encrypt plaintext newKey (iv secret.id)⟩
  rw [hsnapshot row hrow heq]
  exact hdecrypt

/-- The loop, by induction on the snapshot. -/
theorem reencrypt_loop (haes : R.AesGcmLaws) {secrets : List AccountSecret}
    {db db' : Database} {u : PUnit} (hnodup : (secrets.map AccountSecret.id).Nodup)
    (hsnapshot : ∀ secret ∈ secrets, ∀ row ∈ db.accounts.rows, row.id = secret.id →
      row.encryptedPassword = secret.encryptedPassword)
    (hrun : secrets.forM (reencrypt oldKey newKey iv now) db = (.ok u, db')) :
    RowsReencrypted R oldKey newKey (ofSecrets secrets) db db' := by
  induction secrets generalizing db with
  | nil =>
      obtain ⟨-, rfl⟩ := Prod.mk.inj hrun
      exact ⟨db.accounts, id, rfl, by simp, fun row _ =>
        ⟨fun h => absurd h (by simp [ofSecrets]), fun _ => rfl⟩⟩
  | cons secret rest ih =>
      rw [List.forM_eq_forM, List.forM_cons, Handler.bind_ok_iff] at hrun
      obtain ⟨_, middle, hhead, htail⟩ := hrun
      obtain ⟨hnotin, hnodup⟩ := List.nodup_cons.mp hnodup
      obtain ⟨accounts, g, rfl, hmap, hfirst⟩ := reencrypt_step haes
        (hsnapshot secret List.mem_cons_self) hhead
      -- A row the head has changed is not in the rest of the snapshot.
      have hsnapshot' : ∀ other ∈ rest, ∀ row ∈ accounts.rows, row.id = other.id →
          row.encryptedPassword = other.encryptedPassword := by
        intro other hother row hrow heq
        rw [hmap] at hrow
        obtain ⟨before, hbefore, rfl⟩ := List.mem_map.mp hrow
        have hne : before.id ≠ secret.id := by
          rw [← (hfirst before hbefore).id_eq, heq]
          exact fun h => hnotin (h ▸ List.mem_map_of_mem hother)
        rw [(hfirst before hbefore).untouched hne] at heq ⊢
        exact hsnapshot other (List.mem_cons_of_mem _ hother) before hbefore heq
      obtain ⟨accounts', g', rfl, hmap', hrest⟩ := ih hnodup hsnapshot' htail
      refine ⟨accounts', g' ∘ g, rfl, ?_, ?_⟩
      · rw [hmap', ← List.map_map]
        exact congrArg _ hmap
      · intro row hrow
        have hmem : g row ∈ accounts.rows := hmap ▸ List.mem_map_of_mem hrow
        exact (hfirst row hrow).cons hnotin (hrest (g row) hmem)

/-- The loop ends normally when every row is there and every ciphertext opens. -/
theorem reencrypt_loop_total {secrets : List AccountSecret} {db : Database}
    (hrows : ∀ secret ∈ secrets, ∃ row, db.accounts.find? secret.id = some row)
    (hdecrypt : ∀ secret ∈ secrets, (R.decrypt secret.encryptedPassword oldKey).isSome) :
    ∃ u db', secrets.forM (reencrypt oldKey newKey iv now) db = (.ok u, db') := by
  induction secrets generalizing db with
  | nil => exact ⟨⟨⟩, db, rfl⟩
  | cons secret rest ih =>
      obtain ⟨plaintext, hplain⟩ :=
        Option.isSome_iff_exists.mp (hdecrypt secret List.mem_cons_self)
      have hhead : reencrypt oldKey newKey iv now secret db = (.ok ⟨⟩, _) :=
        reencrypt_ok_iff.mpr ⟨plaintext, hplain, hrows secret List.mem_cons_self, rfl⟩
      rw [List.forM_eq_forM, List.forM_cons, Handler.bind_of_ok hhead]
      refine ih ?_ fun other hother => hdecrypt other (List.mem_cons_of_mem _ hother)
      intro other hother
      obtain ⟨row, hrow⟩ := hrows other (List.mem_cons_of_mem _ hother)
      by_cases heq : other.id = secret.id
      · rw [heq] at hrow ⊢
        exact ⟨_, Table.find?_modify (setEncryptedPassword_unindexed _ _) hrow⟩
      · exact ⟨row, (Table.find?_modify_of_ne (setEncryptedPassword_unindexed _ _) heq).trans hrow⟩

/-! ## The transaction -/

/-- The ids of a snapshot are distinct. -/
theorem nodup_secrets (accounts : Table Account) (select : Account → Bool) :
    (((accounts.rows.filter select).map AccountSecret.ofAccount).map
      AccountSecret.id).Nodup := by
  rw [List.map_map]
  exact accounts.nodup_keys.sublist (List.filter_sublist.map _)

/-- The snapshot of `findMany({ where: { userId } })`. -/
def snapshot (db : Database) (userId : String) : List AccountSecret :=
  (db.accounts.rows.filter (·.userId = userId)).map .ofAccount

theorem mem_snapshot {db : Database} {userId : String} {secret : AccountSecret} :
    secret ∈ snapshot db userId ↔
      ∃ row ∈ db.accounts.rows, row.userId = userId ∧ AccountSecret.ofAccount row = secret := by
  simp [snapshot, and_assoc]

/-- The rows a snapshot selects are the accounts of the user. -/
theorem ofSecrets_snapshot {db : Database} {userId : String} {row : Account}
    (hrow : row ∈ db.accounts.rows) :
    ofSecrets (snapshot db userId) row ↔ row.userId = userId := by
  rw [ofSecrets, List.mem_map]
  constructor
  · rintro ⟨secret, hsecret, heq⟩
    obtain ⟨other, hother, huser, rfl⟩ := mem_snapshot.mp hsecret
    rw [← db.accounts.eq_of_key_eq hother hrow heq]
    exact huser
  · intro huser
    exact ⟨.ofAccount row, mem_snapshot.mpr ⟨row, hrow, huser, rfl⟩, rfl⟩

/-- A ciphertext of the snapshot is that of its row. -/
theorem snapshot_current (db : Database) (userId : String) :
    ∀ secret ∈ snapshot db userId, ∀ row ∈ db.accounts.rows, row.id = secret.id →
      row.encryptedPassword = secret.encryptedPassword := by
  intro secret hsecret row hrow heq
  obtain ⟨other, hother, -, rfl⟩ := mem_snapshot.mp hsecret
  rw [db.accounts.eq_of_key_eq hrow hother heq]
  rfl

/-- A successful callback of the transaction, run on the snapshot of its own
database. -/
theorem rotateKeys_ok (haes : R.AesGcmLaws) {userId newHash : String}
    {fresh : FreshSecrets R} {db db' : Database} {revoked : Nat}
    (hrun : rotateKeys userId (snapshot db userId) oldKey newKey newHash fresh now db =
      (.ok revoked, db')) :
    RowsReencrypted R oldKey newKey (fun row => row.userId = userId) db
        { db' with users := db.users, trustedDevices := db.trustedDevices } ∧
      db'.users = db.users.modify userId (setMasterPassword newHash fresh.kdfSalt)
        (setMasterPassword_unindexed _ _) ∧
      db'.trustedDevices = db.trustedDevices.deleteWhere (·.userId = userId) ∧
      revoked = db.trustedDevices.rows.countP (·.userId = userId) := by
  rw [rotateKeys, Handler.bind_ok_iff] at hrun
  obtain ⟨_, db₁, hloop, hrun⟩ := hrun
  rw [Handler.bind_ok_iff] at hrun
  obtain ⟨_, db₂, hupdate, hrun⟩ := hrun
  obtain ⟨-, rfl⟩ := (Model.update_ok_iff _).mp hupdate
  rw [Model.deleteMany_run] at hrun
  obtain ⟨hcount, rfl⟩ := Prod.mk.inj hrun
  obtain ⟨accounts, g, rfl, hmap, hrelated⟩ := reencrypt_loop haes
    (nodup_secrets db.accounts _) (snapshot_current db userId) hloop
  refine ⟨⟨accounts, g, rfl, hmap, ?_⟩, rfl, rfl, (Except.ok.inj hcount).symm⟩
  intro row hrow
  have hselect : ofSecrets (snapshot db userId) row ↔ row.userId = userId :=
    ofSecrets_snapshot hrow
  exact ⟨fun h => (hrelated row hrow).rotated (hselect.mpr h),
    fun h => (hrelated row hrow).untouched (mt hselect.mp h)⟩

/-! ## The whole method -/

/-- The given password is the current master password of the user. -/
def CurrentPassword (R : Runtime) (db : Database) (userId : String) (password : Option String)
    (user : User) (current : String) : Prop :=
  db.users.find? userId = some user ∧ password = some current ∧
    R.verifyMasterPassword current user.masterPasswordHash = true

/-- The new password is present and long enough. -/
def AcceptedPassword (password : Option String) (new : String) : Prop :=
  password = some new ∧ minMasterPasswordLength ≤ utf16Length new

/-- Every account of the user opens under the key. -/
def VaultOpens (R : Runtime) (db : Database) (userId : String) (key : R.Key) : Prop :=
  ∀ row ∈ db.accounts.rows, row.userId = userId →
    (R.decrypt row.encryptedPassword key).isSome

/-- The state after a successful change, compared with the state before it. -/
structure MasterPasswordChanged (ctx ctx' : Context R) (sessionId userId : String)
    (oldKey newKey : R.Key) (newHash newSalt : String) (revokedDevices : Nat) : Prop where
  /-- Same rows in the same order, re-encrypted where they are the user's. -/
  accounts : ∃ g : Account → Account,
    ctx'.db.accounts.rows = ctx.db.accounts.rows.map g ∧
      ∀ row ∈ ctx.db.accounts.rows,
        Reencrypted R oldKey newKey (fun row => row.userId = userId) row (g row)
  /-- The user row has the new hash and salt; no other user row changes. -/
  users : ctx'.db.users.rows = ctx.db.users.rows.map fun user =>
    if user.id = userId then setMasterPassword newHash newSalt user else user
  /-- The devices of the user are gone and the others are left. -/
  devices : ctx'.db.trustedDevices.rows =
    ctx.db.trustedDevices.rows.filter fun device => !decide (device.userId = userId)
  revoked : revokedDevices =
    (ctx.db.trustedDevices.rows.filter fun device => device.userId = userId).length
  /-- No other table is written. -/
  otherTables : ctx'.db = { ctx.db with
    users := ctx'.db.users, accounts := ctx'.db.accounts,
    trustedDevices := ctx'.db.trustedDevices }
  /-- The session holds the new key, and the other sessions what they held. -/
  key : ctx'.keys.get sessionId = some newKey
  otherKeys : ∀ other, other ≠ sessionId → ctx'.keys other = ctx.keys other
  session : ctx'.session = { ctx.session with unlocked := some true }

/-- The run of the method up to the transaction, and the four values it
derives. -/
theorem changeMasterPassword_ok {sessionId userId : String}
    {currentPassword newPassword : Option String} {fresh : FreshSecrets R}
    {ctx ctx' : Context R} {revoked : Nat}
    (hrun : changeMasterPassword sessionId now userId currentPassword newPassword fresh ctx =
      (.ok revoked, ctx')) :
    ∃ user current new db', CurrentPassword R ctx.db userId currentPassword user current ∧
      AcceptedPassword newPassword new ∧
      rotateKeys userId (snapshot ctx.db userId)
          (R.deriveEncryptionKey current user.masterKdfSalt)
          (R.deriveEncryptionKey new fresh.kdfSalt)
          (R.hashMasterPassword fresh.hashSalt new) fresh now ctx.db = (.ok revoked, db') ∧
      ctx' = stored (ctx.withDb db') sessionId now (R.deriveEncryptionKey new fresh.kdfSalt)
        user.autoLockMinutes := by
  rw [changeMasterPassword, Handler.bind_ok_iff] at hrun
  obtain ⟨⟨user, current⟩, _, hverified, hrun⟩ := hrun
  obtain ⟨hfound, hsome, hverify, rfl⟩ := verifiedUser_ok_iff.mp hverified
  rw [Handler.bind_ok_iff] at hrun
  obtain ⟨new, _, haccepted, hrun⟩ := hrun
  obtain ⟨hnew, hlength, rfl⟩ := newMasterPassword_ok_iff.mp haccepted
  rw [Handler.bind_ok_iff] at hrun
  obtain ⟨accounts, _, hsnapshot, hrun⟩ := hrun
  obtain ⟨_, hfindMany, rfl⟩ := onDatabase_run.mp hsnapshot
  obtain ⟨rfl, rfl⟩ : _ = accounts ∧ _ = _ := by simpa using hfindMany
  rw [Handler.bind_ok_iff] at hrun
  obtain ⟨revoked', _, htransaction, hrun⟩ := hrun
  obtain ⟨db', hrotate, rfl⟩ := onDatabase_run.mp htransaction
  obtain ⟨hrevoked, rfl⟩ := Prod.mk.inj hrun
  obtain rfl := Except.ok.inj hrevoked
  exact ⟨user, current, new, db', ⟨hfound, hsome, hverify⟩, ⟨hnew, hlength⟩,
    Handler.transaction_ok_iff.mp hrotate, rfl⟩

/-- A change that fails leaves the database, the key store and the session as
they were. -/
theorem changeMasterPassword_error {sessionId userId : String}
    {currentPassword newPassword : Option String} {fresh : FreshSecrets R}
    {ctx ctx' : Context R} {e : Exception}
    (hrun : changeMasterPassword sessionId now userId currentPassword newPassword fresh ctx =
      (.error e, ctx')) : ctx' = ctx := by
  rw [changeMasterPassword, Handler.bind_error_iff] at hrun
  rcases hrun with hverified | ⟨⟨user, current⟩, _, hverified, hrun⟩
  · exact verifiedUser_error hverified
  obtain ⟨-, -, -, rfl⟩ := verifiedUser_ok_iff.mp hverified
  rw [Handler.bind_error_iff] at hrun
  rcases hrun with hrejected | ⟨new, _, haccepted, hrun⟩
  · exact (newMasterPassword_error hrejected).1.symm
  obtain ⟨-, -, rfl⟩ := newMasterPassword_ok_iff.mp haccepted
  rw [Handler.bind_error_iff] at hrun
  rcases hrun with hfindMany | ⟨accounts, _, hsnapshot, hrun⟩
  · obtain ⟨_, hquery, -⟩ := onDatabase_run.mp hfindMany
    simp at hquery
  obtain ⟨_, hquery, rfl⟩ := onDatabase_run.mp hsnapshot
  obtain ⟨-, rfl⟩ := Prod.mk.inj hquery
  rw [Handler.bind_error_iff] at hrun
  rcases hrun with htransaction | ⟨_, _, -, hrun⟩
  · obtain ⟨_, hrotate, rfl⟩ := onDatabase_run.mp htransaction
    obtain ⟨-, rfl⟩ := Handler.transaction_error_iff.mp hrotate
    rfl
  · simp [Handler.bind_run] at hrun

/-- The callback of the transaction ends normally on a vault that opens. -/
theorem rotateKeys_total (haes : R.AesGcmLaws) {userId newHash : String}
    {fresh : FreshSecrets R} {db : Database} {user : User}
    (hfound : db.users.find? userId = some user) (hvault : VaultOpens R db userId oldKey) :
    ∃ revoked db', rotateKeys userId (snapshot db userId) oldKey newKey newHash fresh now db =
      (.ok revoked, db') := by
  have htotal : ∃ u db', (snapshot db userId).forM
      (reencrypt oldKey newKey fresh.iv now) db = (.ok u, db') := by
    apply reencrypt_loop_total
    · intro secret hsecret
      obtain ⟨row, hrow, -, rfl⟩ := mem_snapshot.mp hsecret
      exact ⟨row, Table.find?_eq_some_iff.mpr ⟨hrow, rfl⟩⟩
    · intro secret hsecret
      obtain ⟨row, hrow, huser, rfl⟩ := mem_snapshot.mp hsecret
      exact hvault row hrow huser
  obtain ⟨u, db₁, hloop⟩ := htotal
  have husers : db₁.users = db.users := by
    obtain ⟨accounts, g, rfl, -⟩ := reencrypt_loop haes (nodup_secrets db.accounts _)
      (snapshot_current db userId) hloop
    rfl
  rw [← husers] at hfound
  have hupdate : Prisma.user.update userId (setMasterPassword newHash fresh.kdfSalt)
      (setMasterPassword_unindexed _ _) db₁ = (.ok _, _) :=
    (Model.update_ok_iff _).mpr ⟨⟨user, hfound, rfl⟩, rfl⟩
  exact ⟨_, _, Handler.bind_ok_iff.mpr ⟨u, db₁, hloop,
    Handler.bind_ok_iff.mpr ⟨_, _, hupdate, Model.deleteMany_run _ _ _⟩⟩⟩

/-- The method succeeds when its checks and its transaction do. -/
theorem changeMasterPassword_of_rotateKeys {sessionId userId : String}
    {currentPassword newPassword : Option String} {fresh : FreshSecrets R} {ctx : Context R}
    {user : User} {current new : String} {revoked : Nat} {db' : Database}
    (hcurrent : CurrentPassword R ctx.db userId currentPassword user current)
    (hnew : AcceptedPassword newPassword new)
    (hrotate : rotateKeys userId (snapshot ctx.db userId)
      (R.deriveEncryptionKey current user.masterKdfSalt) (R.deriveEncryptionKey new fresh.kdfSalt)
      (R.hashMasterPassword fresh.hashSalt new) fresh now ctx.db = (.ok revoked, db')) :
    changeMasterPassword sessionId now userId currentPassword newPassword fresh ctx =
      (.ok revoked, stored (ctx.withDb db') sessionId now (R.deriveEncryptionKey new fresh.kdfSalt)
        user.autoLockMinutes) := by
  obtain ⟨hfound, hsome, hverify⟩ := hcurrent
  have htransaction := Handler.transaction_ok_iff.mpr hrotate
  rw [changeMasterPassword, Handler.bind_ok_iff]
  refine ⟨(user, current), ctx, verifiedUser_ok_iff.mpr ⟨hfound, hsome, hverify, rfl⟩, ?_⟩
  rw [Handler.bind_ok_iff]
  refine ⟨new, ctx, newMasterPassword_ok_iff.mpr ⟨hnew.1, hnew.2, rfl⟩, ?_⟩
  rw [Handler.bind_ok_iff]
  refine ⟨_, ctx, onDatabase_run.mpr ⟨ctx.db, Model.findMany_run _ _ _, rfl⟩, ?_⟩
  rw [Handler.bind_ok_iff]
  exact ⟨revoked, _, onDatabase_run.mpr ⟨db', htransaction, rfl⟩, rfl⟩

/-- With the right current password, an accepted new one and a vault that opens
the change succeeds. -/
theorem changeMasterPassword_total (haes : R.AesGcmLaws) {sessionId userId : String}
    {currentPassword newPassword : Option String} {fresh : FreshSecrets R} {ctx : Context R}
    {user : User} {current new : String}
    (hcurrent : CurrentPassword R ctx.db userId currentPassword user current)
    (hnew : AcceptedPassword newPassword new)
    (hvault : VaultOpens R ctx.db userId
      (R.deriveEncryptionKey current user.masterKdfSalt)) :
    ∃ revoked ctx', changeMasterPassword sessionId now userId currentPassword newPassword
      fresh ctx = (.ok revoked, ctx') := by
  obtain ⟨revoked, db', hrotate⟩ : ∃ revoked db', rotateKeys userId (snapshot ctx.db userId)
      (R.deriveEncryptionKey current user.masterKdfSalt)
      (R.deriveEncryptionKey new fresh.kdfSalt) (R.hashMasterPassword fresh.hashSalt new)
      fresh now ctx.db = (.ok revoked, db') := rotateKeys_total haes hcurrent.1 hvault
  exact ⟨revoked, _, changeMasterPassword_of_rotateKeys hcurrent hnew hrotate⟩

/-! ## The contract -/

/-- The reasons for which a change is refused. -/
def ChangeRefused (R : Runtime) (db : Database) (userId : String)
    (currentPassword newPassword : Option String) : Prop :=
  (¬ ∃ user current, CurrentPassword R db userId currentPassword user current) ∨
    (¬ ∃ new, AcceptedPassword newPassword new) ∨
    ∃ user current, CurrentPassword R db userId currentPassword user current ∧
      ¬ VaultOpens R db userId (R.deriveEncryptionKey current user.masterKdfSalt)

/-- A successful change does what it should: the accounts, the user row, the
devices, the key store and the session. -/
theorem masterPasswordChanged_of_ok (haes : R.AesGcmLaws) {sessionId userId : String}
    {currentPassword newPassword : Option String} {fresh : FreshSecrets R}
    {ctx ctx' : Context R} {revoked : Nat}
    (hrun : changeMasterPassword sessionId now userId currentPassword newPassword fresh ctx =
      (.ok revoked, ctx')) :
    ∃ user current new, CurrentPassword R ctx.db userId currentPassword user current ∧
      AcceptedPassword newPassword new ∧
      MasterPasswordChanged ctx ctx' sessionId userId
        (R.deriveEncryptionKey current user.masterKdfSalt)
        (R.deriveEncryptionKey new fresh.kdfSalt)
        (R.hashMasterPassword fresh.hashSalt new) fresh.kdfSalt revoked := by
  obtain ⟨user, current, new, db', hcurrent, hnew, hrotate, rfl⟩ :=
    changeMasterPassword_ok hrun
  refine ⟨user, current, new, hcurrent, hnew, ?_⟩
  obtain ⟨⟨accounts, g, hdb, hmap, hrelated⟩, husers, hdevices, hrevoked⟩ :=
    rotateKeys_ok haes hrotate
  have haccounts : db'.accounts = accounts := congrArg Database.accounts hdb
  constructor
  case accounts => exact ⟨g, haccounts ▸ hmap, hrelated⟩
  case users =>
    change db'.users.rows = _
    rw [husers]
    exact Table.rows_modify _ _ _ _
  case devices =>
    change db'.trustedDevices.rows = _
    rw [hdevices]
    rfl
  case revoked => rw [hrevoked, List.countP_eq_length_filter]
  case otherTables =>
    have htables := congrArg (fun db : Database => (db.emailAccounts, db.emailRules,
      db.emailRuleConditions, db.emailCandidates)) hdb
    simp only [Prod.mk.injEq] at htables
    obtain ⟨hemail, hrules, hconditions, hcandidates⟩ := htables
    exact Database.ext rfl rfl rfl hemail hrules hconditions hcandidates
  case key => simp [stored, UnlockKeyStore.get]
  case otherKeys =>
    intro other hne
    exact UnlockKeyStore.set_of_ne _ _ _ _ _ hne
  case session => rfl

/-- A change that went through has opened every ciphertext of the vault. -/
theorem MasterPasswordChanged.vaultOpens {ctx ctx' : Context R} {sessionId userId : String}
    {newHash newSalt : String} {revoked : Nat}
    (h : MasterPasswordChanged ctx ctx' sessionId userId oldKey newKey newHash newSalt revoked) :
    VaultOpens R ctx.db userId oldKey := by
  intro row hrow huser
  obtain ⟨g, -, hrelated⟩ := h.accounts
  obtain ⟨_, plaintext, _, -, hdecrypt, -⟩ := (hrelated row hrow).rotated huser
  rw [hdecrypt]
  rfl

/-- The user row after a change. -/
theorem MasterPasswordChanged.find_user {ctx ctx' : Context R} {sessionId userId : String}
    {newHash newSalt : String} {revoked : Nat} {user : User}
    (h : MasterPasswordChanged ctx ctx' sessionId userId oldKey newKey newHash newSalt revoked)
    (hfound : ctx.db.users.find? userId = some user) :
    ctx'.db.users.find? userId = some (setMasterPassword newHash newSalt user) := by
  obtain ⟨hmem, hid⟩ := Table.find?_eq_some_iff.mp hfound
  refine Table.find?_eq_some_iff.mpr ⟨?_, hid⟩
  rw [h.users, List.mem_map]
  exact ⟨user, hmem, if_pos hid⟩

/-- After a change the new password unlocks, and derives the key the change has
stored. -/
theorem unlock_after_change (hargon2 : R.Argon2Laws) {ctx ctx' : Context R}
    {sessionId userId hashSalt kdfSalt new : String} {revoked : Nat} {user : User}
    (hfound : ctx.db.users.find? userId = some user)
    (h : MasterPasswordChanged ctx ctx' sessionId userId oldKey
      (R.deriveEncryptionKey new kdfSalt) (R.hashMasterPassword hashSalt new) kdfSalt revoked)
    (sessionId' : String) (now' : Int) :
    unlock sessionId' now' userId (some new) ctx' =
      (.ok (), stored ctx' sessionId' now' (R.deriveEncryptionKey new kdfSalt)
        user.autoLockMinutes) := by
  apply unlock_ok_iff.mpr
  refine ⟨_, new, h.find_user hfound, rfl, ?_, rfl⟩
  exact (hargon2.verify_hash hashSalt new new).mpr rfl

/-- What a refused change was refused for. -/
theorem changeRefused_of_error (haes : R.AesGcmLaws) {sessionId userId : String}
    {currentPassword newPassword : Option String} {fresh : FreshSecrets R}
    {ctx ctx' : Context R} {e : Exception}
    (hrun : changeMasterPassword sessionId now userId currentPassword newPassword fresh ctx =
      (.error e, ctx')) :
    ChangeRefused R ctx.db userId currentPassword newPassword := by
  by_contra haccepted
  obtain ⟨hcurrent, hnew, hvault⟩ : (∃ user current,
      CurrentPassword R ctx.db userId currentPassword user current) ∧
      (∃ new, AcceptedPassword newPassword new) ∧
      ∀ user current, CurrentPassword R ctx.db userId currentPassword user current →
        VaultOpens R ctx.db userId (R.deriveEncryptionKey current user.masterKdfSalt) := by
    rw [ChangeRefused, not_or, not_or, not_not, not_not] at haccepted
    obtain ⟨hcurrent, hnew, hvault⟩ := haccepted
    refine ⟨hcurrent, hnew, fun user current h => ?_⟩
    by_contra hclosed
    exact hvault ⟨user, current, h, hclosed⟩
  obtain ⟨user, current, hcurrent⟩ := hcurrent
  obtain ⟨new, hnew⟩ := hnew
  obtain ⟨revoked, _, htotal⟩ : ∃ revoked ctx', changeMasterPassword sessionId now userId
      currentPassword newPassword fresh ctx = (.ok revoked, ctx') :=
    changeMasterPassword_total haes hcurrent hnew (hvault user current hcurrent)
  rw [hrun] at htotal
  exact absurd (congrArg Prod.fst htotal) (by simp)

/-- The method either succeeds, and then re-encrypts the whole vault, installs
the new password, revokes every device of the user and leaves the other users
alone, or it throws for one of the three reasons and changes nothing. -/
theorem changeMasterPassword_contract (hargon2 : R.Argon2Laws) (haes : R.AesGcmLaws)
    (sessionId userId : String) (now : Int) (currentPassword newPassword : Option String)
    (fresh : FreshSecrets R) (ctx : Context R) :
    (∀ revoked ctx', changeMasterPassword sessionId now userId currentPassword newPassword
          fresh ctx = (.ok revoked, ctx') →
        ∃ user current new,
          CurrentPassword R ctx.db userId currentPassword user current ∧
          AcceptedPassword newPassword new ∧
          VaultOpens R ctx.db userId (R.deriveEncryptionKey current user.masterKdfSalt) ∧
          MasterPasswordChanged ctx ctx' sessionId userId
            (R.deriveEncryptionKey current user.masterKdfSalt)
            (R.deriveEncryptionKey new fresh.kdfSalt)
            (R.hashMasterPassword fresh.hashSalt new) fresh.kdfSalt revoked ∧
          ∀ now', ∃ ctx'', unlock sessionId now' userId newPassword ctx' = (.ok (), ctx'') ∧
            ctx''.keys.get sessionId = ctx'.keys.get sessionId) ∧
      ∀ e ctx', changeMasterPassword sessionId now userId currentPassword newPassword
          fresh ctx = (.error e, ctx') →
        ctx' = ctx ∧ ChangeRefused R ctx.db userId currentPassword newPassword := by
  refine ⟨?_, fun e ctx' hrun =>
    ⟨changeMasterPassword_error hrun, changeRefused_of_error haes hrun⟩⟩
  intro revoked ctx' hrun
  obtain ⟨user, current, new, hcurrent, hnew, hchanged⟩ := masterPasswordChanged_of_ok haes hrun
  refine ⟨user, current, new, hcurrent, hnew, hchanged.vaultOpens, hchanged, ?_⟩
  intro now'
  obtain ⟨rfl, -⟩ := hnew
  refine ⟨_, unlock_after_change hargon2 hcurrent.1 hchanged sessionId now', ?_⟩
  rw [hchanged.key]
  simp [stored, UnlockKeyStore.get]

section Example

/-- A user with the master password `master-password` and one account. -/
def exampleUser : User where
  id := "u"
  googleSubId := "sub"
  googleEmail := "u@example.com"
  masterPasswordHash := symbolicRuntime.hashMasterPassword "h" "master-password"
  masterKdfSalt := "s"
  autoLockMinutes := 15
  createdAt := 0

def exampleAccount : Account where
  id := "a"
  userId := "u"
  serviceName := "Mail"
  urlOrAppName := "mail.example.com"
  category := "mail"
  loginId := "me"
  encryptedPassword := symbolicRuntime.encrypt "secret"
    (symbolicRuntime.deriveEncryptionKey "master-password" "s") "iv"
  customFields := none
  memo := none
  createdAt := 0
  updatedAt := 0

def exampleContext : Context symbolicRuntime where
  db := { Database.empty with
    users := ⟨[exampleUser], List.pairwise_singleton _ _⟩
    accounts := ⟨[exampleAccount], List.pairwise_singleton _ _⟩ }
  keys := UnlockKeyStore.empty.set "sid" 0
    (symbolicRuntime.deriveEncryptionKey "master-password" "s") 15
  session := { userId := some "u", unlocked := some true }

def exampleSecrets : FreshSecrets symbolicRuntime where
  hashSalt := "h'"
  kdfSalt := "s'"
  userId := "unused"
  iv id := id

/-- The change to `another-password` goes through, and the stored key is the
one an unlock with it derives. -/
theorem changeMasterPassword_contract_example :
    ∃ revoked ctx', changeMasterPassword "sid" 1 "u" (some "master-password")
        (some "another-password") exampleSecrets exampleContext = (.ok revoked, ctx') ∧
      ctx'.keys.get "sid" = some (symbolicRuntime.deriveEncryptionKey "another-password" "s'") ∧
      ∀ now', ∃ ctx'', unlock "sid" now' "u" (some "another-password") ctx' = (.ok (), ctx'') ∧
        ctx''.keys.get "sid" = ctx'.keys.get "sid" := by
  have hcontract := (changeMasterPassword_contract symbolicRuntime.argon2Laws
    symbolicRuntime.aesGcmLaws "sid" "u" 1 (some "master-password") (some "another-password")
    exampleSecrets exampleContext).1
  have hok : (changeMasterPassword "sid" 1 "u" (some "master-password")
      (some "another-password") exampleSecrets exampleContext).1 = .ok 0 := by decide +kernel
  obtain ⟨ctx', hrun⟩ := Handler.exists_run hok
  obtain ⟨_, _, _, -, ⟨hnew, -⟩, -, hchanged, hunlock⟩ := hcontract 0 ctx' hrun
  obtain rfl := Option.some.inj hnew
  exact ⟨0, ctx', hrun, hchanged.key, hunlock⟩

end Example

end AuthService

end MyAccountController
