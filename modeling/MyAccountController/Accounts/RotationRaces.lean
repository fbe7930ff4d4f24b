import MyAccountController.Accounts.VaultOperations
import MyAccountController.Auth.RequestTurns
import MyAccountController.Auth.Server
import MyAccountController.Common.SymbolicRuntime

/-! # Account writes during a change of the master password

`changeMasterPassword` reads the ciphertexts before it opens its transaction,
and every other request has captured its key in its guard. A password written
in between is overwritten by the older one, and a row written afterwards under
the old key stays under it. Without such writes the requests are serializable.
-/

namespace MyAccountController

open Foundation AuthService

variable {R : Runtime}

/-! ## The change -/

/-- The change and the user its guard has admitted. -/
structure ChangeCall (R : Runtime) where
  sessionId : String
  now : Int
  userId : String
  currentPassword : Option String
  newPassword : Option String
  fresh : FreshSecrets R

/-- The key that the change derives for the new password. -/
def ChangeCall.newKey (call : ChangeCall R) : R.Key :=
  R.deriveEncryptionKey (call.newPassword.getD "") call.fresh.kdfSalt

/-- The open transaction: the ciphertexts still to be rewritten, and those whose
rows have been. The writes become visible at the commit; until then their rows
are locked. -/
structure OpenTransaction (R : Runtime) where
  user : User
  oldKey : R.Key
  newKey : R.Key
  newHash : String
  todo : List AccountSecret
  done : List AccountSecret

/-- Where the change is. -/
inductive RotationStage (R : Runtime) where
  | running (phase : ChangePhase R)
  | inTransaction (tx : OpenTransaction R)
  | returned (result : Except Exception Unit)

namespace RotationStage

/-- The rows other statements wait for. -/
def lockedIds : RotationStage R → List String
  | inTransaction tx => tx.done.map AccountSecret.id
  | _ => []

/-- The accounts have been read. -/
def snapshotTaken : RotationStage R → Bool
  | running (.transaction _ _ _ _ _) | running (.committed _ _) => true
  | inTransaction _ | returned _ => true
  | _ => false

/-- The key of the new password is in the store. -/
def keyStored : RotationStage R → Bool
  | returned (.ok _) => true
  | _ => false

end RotationStage

/-! ## The system -/

/-- A request in the serial order: an account operation with the key its guard
captured, or the change. -/
inductive SerialRequest (R : Runtime) where
  | account (op : VaultOp R) (key : R.Key) (now : Int)
  | change

/-- What a request does when it runs alone. -/
def SerialRequest.method (call : ChangeCall R) : SerialRequest R → Route R Unit
  | .account op key now => onDatabase (op.request.service call.userId key now)
  | .change => do
      let _ ← changeMasterPassword call.sessionId call.now call.userId call.currentPassword
        call.newPassword call.fresh

/-- The requests one after the other. -/
def serially (call : ChangeCall R) (requests : List (SerialRequest R)) : Route R PUnit :=
  requests.forM fun request => request.method call

/-- What an account request is doing. -/
inductive VaultWork where
  | running (phase : VaultPhase)
  | returned (succeeded : Bool)
  deriving DecidableEq

/-- An account request. Whether it began after the change had stored its key is
not read by the program. -/
structure VaultTask (R : Runtime) where
  op : VaultOp R
  key : R.Key
  now : Int
  afterChange : Bool
  work : VaultWork

def VaultTask.serial (task : VaultTask R) : SerialRequest R :=
  .account task.op task.key task.now

/-- The server, the change, and the requests in the order their effect took
place, which the program does not read. -/
structure RotationState (R : Runtime) where
  server : Server R
  change : RotationStage R
  log : List (SerialRequest R)

/-- What starts: the next turn of the change, or an account request. -/
inductive RotationStart (R : Runtime) where
  | changeTurn
  | request (sessionId : String) (now : Int) (op : VaultOp R)

namespace RotationState

variable (call : ChangeCall R)

/-- One turn of the change. -/
def changeTurn (state : RotationState R) : RotationState R :=
  match state.change with
  | .running (.transaction user oldKey newKey newHash accounts) =>
      { state with change := .inTransaction ⟨user, oldKey, newKey, newHash, accounts, []⟩ }
  | .running phase =>
      match phase.turn call.sessionId call.now call.userId call.currentPassword call.newPassword
          call.fresh (state.server.context call.sessionId) with
      | (.ok (some next), ctx) =>
          { state with server := state.server.save call.sessionId ctx, change := .running next }
      | (.ok none, ctx) =>
          { state with server := state.server.save call.sessionId ctx,
                       change := .returned (.ok ()) }
      | (.error e, ctx) =>
          { state with server := state.server.save call.sessionId ctx,
                       change := .returned (.error e) }
  | .inTransaction tx =>
      match tx.todo with
      | secret :: rest =>
          -- A statement on the committed rows; its write stays with the transaction.
          match (reencrypt tx.oldKey tx.newKey call.fresh.iv call.now secret state.server.db).1 with
          | .ok _ =>
              { state with
                change := .inTransaction { tx with todo := rest, done := tx.done ++ [secret] } }
          | .error e => { state with change := .returned (.error e) }
      | [] =>
          -- The user, the devices and the commit.
          match Handler.transaction (rotateKeys call.userId tx.done tx.oldKey tx.newKey tx.newHash
              call.fresh call.now) state.server.db with
          | (.ok _, db) =>
              { server := { state.server with db }, change := .running (.committed tx.user tx.newKey),
                log := state.log ++ [.change] }
          | (.error e, _) => { state with change := .returned (.error e) }
  | .returned _ => state

/-- `UnlockedGuard` captures the key of an account request. The requests of other
users and those the guard refuses have no part in the run. -/
def start : RotationStart R → RotationState R → RotationState R × Option (VaultTask R)
  | .changeTurn, state => (changeTurn call state, none)
  | .request sessionId now op, state =>
      match unlockedGuard sessionId now (state.server.context sessionId) with
      | (.ok (userId, key), ctx) =>
          if userId = call.userId then
            ({ state with server := state.server.save sessionId ctx },
              some { op, key, now, afterChange := state.change.keyStored,
                     work := .running op.firstPhase })
          else (state, none)
      | (.error _, ctx) => ({ state with server := state.server.save sessionId ctx }, none)

/-- One query of an account request. -/
def turn (_input : Unit) (state : RotationState R) (task : VaultTask R) :
    RotationState R × VaultTask R :=
  match task.work with
  | .returned _ => (state, task)
  | .running phase =>
      if phase = .write ∧ ∃ id ∈ task.op.target, id ∈ state.change.lockedIds then
        -- The statement waits for the row.
        (state, task)
      else
        match task.op.turn call.userId task.key task.now phase state.server.db with
        | (.ok (some next), db) =>
            ({ state with server := { state.server with db } }, { task with work := .running next })
        | (.ok none, db) =>
            ({ state with server := { state.server with db },
                          log := state.log ++ [task.serial] },
              { task with work := .returned true })
        | (.error _, db) =>
            ({ state with server := { state.server with db } }, { task with work := .returned false })

/-- A write of an account request names declared fields only, and a password is
written before the snapshot is read, or under the new key by a request that
began after the change had stored it. -/
def WritesInTime (_input : Unit) (state : RotationState R) (task : VaultTask R) : Prop :=
  task.work = .running .write → task.op.Declared ∧
    (task.op.writesPassword = true →
      state.change.snapshotTaken = false ∨ task.afterChange = true ∧ task.key = call.newKey)

instance [DecidableEq R.Key] (input : Unit) (state : RotationState R) (task : VaultTask R) :
    Decidable (WritesInTime call input state task) :=
  inferInstanceAs (Decidable (_ → _))

/-- The pool in which the change is about to begin. -/
def init (server : Server R) : Pool (RotationState R) (VaultTask R) :=
  ⟨⟨server, .running .findUser, []⟩, []⟩

end RotationState

/-- If all requests succeed, the result is that of some serial order of them and
every account of the user opens under the new key. -/
def RotationSerializable (call : ChangeCall R) (server : Server R)
    (final : Pool (RotationState R) (VaultTask R)) : Prop :=
  final.shared.change = .returned (.ok ()) → (∀ task ∈ final.tasks, task.work = .returned true) →
    (∃ order : List (SerialRequest R),
      order.Perm (.change :: final.tasks.map VaultTask.serial) ∧
        ∃ ctx, serially call order (server.context call.sessionId) = (.ok ⟨⟩, ctx) ∧
          ctx.db = final.shared.server.db) ∧
      VaultOpens R final.shared.server.db call.userId call.newKey

/-! ## What the change knows -/

section Facts

variable {call : ChangeCall R} {db db' : Database}

/-- What the change has derived from the user row and the two passwords. -/
def Prepared (call : ChangeCall R) (db : Database) (user : User) (oldKey newKey : R.Key)
    (newHash : String) : Prop :=
  ∃ current new, CurrentPassword R db call.userId call.currentPassword user current ∧
    AcceptedPassword call.newPassword new ∧
    oldKey = R.deriveEncryptionKey current user.masterKdfSalt ∧
    newKey = R.deriveEncryptionKey new call.fresh.kdfSalt ∧
    newHash = R.hashMasterPassword call.fresh.hashSalt new

/-- The ciphertexts read are those of the rows that are still there, and the rows
written are. -/
structure SnapshotCurrent (userId : String) (db : Database) (done todo : List AccountSecret) :
    Prop where
  snapshot : AuthService.snapshot db userId =
    (done ++ todo).filter fun secret => (db.accounts.find? secret.id).isSome
  present : ∀ secret ∈ done, (db.accounts.find? secret.id).isSome

def PhaseFact (call : ChangeCall R) (db : Database) : ChangePhase R → Prop
  | .findUser => True
  | .userFound found => found = db.users.find? call.userId
  | .verifying user => db.users.find? call.userId = some user
  | .derivingOldKey user current new =>
      CurrentPassword R db call.userId call.currentPassword user current ∧
        AcceptedPassword call.newPassword new
  | .derivingNewKey user oldKey new =>
      ∃ current, CurrentPassword R db call.userId call.currentPassword user current ∧
        AcceptedPassword call.newPassword new ∧
        oldKey = R.deriveEncryptionKey current user.masterKdfSalt
  | .findAccounts user oldKey newKey newHash => Prepared call db user oldKey newKey newHash
  | .transaction user oldKey newKey newHash accounts =>
      Prepared call db user oldKey newKey newHash ∧ SnapshotCurrent call.userId db [] accounts
  | .committed _ newKey => newKey = call.newKey ∧ VaultOpens R db call.userId call.newKey

def StageFact (call : ChangeCall R) (db : Database) : RotationStage R → Prop
  | .running phase => PhaseFact call db phase
  | .inTransaction tx => Prepared call db tx.user tx.oldKey tx.newKey tx.newHash ∧
      SnapshotCurrent call.userId db tx.done tx.todo
  | .returned (.ok _) => VaultOpens R db call.userId call.newKey
  | .returned (.error _) => True

theorem Prepared.newKey_eq {user : User} {oldKey newKey : R.Key} {newHash : String}
    (h : Prepared call db user oldKey newKey newHash) : newKey = call.newKey := by
  obtain ⟨current, new, -, hnew, -, rfl, -⟩ := h
  rw [ChangeCall.newKey, hnew.1]
  rfl

/-- A snapshot that has just been read. -/
theorem snapshotCurrent_snapshot (userId : String) (db : Database) :
    SnapshotCurrent userId db [] (snapshot db userId) where
  snapshot := by
    rw [List.nil_append, List.filter_eq_self.mpr]
    intro secret hsecret
    obtain ⟨row, hrow, -, rfl⟩ := mem_snapshot.mp hsecret
    have hfind : db.accounts.find? row.id = some row := Table.find?_eq_some_iff.mpr ⟨hrow, rfl⟩
    show (db.accounts.find? row.id).isSome = true
    rw [hfind]
    rfl
  present := by simp

/-- A row that is gone and not locked leaves the snapshot current. -/
theorem SnapshotCurrent.onlyRemoves {userId : String} {removed : Option String}
    {done todo : List AccountSecret} (h : SnapshotCurrent userId db done todo)
    (hremoves : VaultOp.OnlyRemoves userId removed db db')
    (hfree : ∀ secret ∈ done, removed ≠ some secret.id) :
    SnapshotCurrent userId db' done todo where
  snapshot := by
    rw [hremoves.snapshot, h.snapshot, List.filter_filter]
    apply List.filter_congr
    intro secret _
    rw [hremoves.present, Bool.and_comm]
  present := by
    intro secret hsecret
    rw [hremoves.present, h.present secret hsecret, decide_eq_true (hfree secret hsecret)]
    rfl

/-- What the change knows outlives a write of another request that keeps the
users, the snapshot and the new key in order. -/
theorem StageFact.write {stage : RotationStage R} (hfact : StageFact call db stage)
    (husers : db'.users = db.users)
    (hsnapshot : ∀ done todo, stage.snapshotTaken = true → stage.keyStored = false →
      (∀ secret ∈ done, secret.id ∈ stage.lockedIds) → SnapshotCurrent call.userId db done todo →
        SnapshotCurrent call.userId db' done todo)
    (hopens : stage.snapshotTaken = true → VaultOpens R db call.userId call.newKey →
      VaultOpens R db' call.userId call.newKey) :
    StageFact call db' stage := by
  have hprepared : ∀ {user oldKey newKey newHash}, Prepared call db user oldKey newKey newHash →
      Prepared call db' user oldKey newKey newHash := by
    intro user oldKey newKey newHash h
    unfold Prepared CurrentPassword at h ⊢
    rwa [husers]
  cases stage with
  | running phase =>
      cases phase with
      | findUser => trivial
      | userFound found | verifying user | derivingOldKey user current new
      | derivingNewKey user oldKey new =>
          unfold StageFact PhaseFact at hfact ⊢
          try unfold CurrentPassword at hfact ⊢
          rwa [husers]
      | findAccounts user oldKey newKey newHash => exact hprepared hfact
      | transaction user oldKey newKey newHash accounts =>
          exact ⟨hprepared hfact.1, hsnapshot [] accounts rfl rfl (by simp) hfact.2⟩
      | committed user newKey => exact ⟨hfact.1, hopens rfl hfact.2⟩
  | inTransaction tx =>
      refine ⟨hprepared hfact.1, hsnapshot _ _ rfl rfl ?_ hfact.2⟩
      exact fun secret hsecret => List.mem_map_of_mem hsecret
  | returned result =>
      cases result with
      | ok u => exact hopens rfl hfact
      | error e => trivial

/-- The owners of the rows are as before, or the user. -/
def OwnersKept (userId : String) (db db' : Database) : Prop :=
  ∀ row' ∈ db'.accounts.rows, row'.userId = userId ∨
    ∃ row ∈ db.accounts.rows, row.id = row'.id ∧ row.userId = row'.userId

theorem ownersKept_write {userId : String} {allowed : R.Key → Prop}
    (hwrite : VaultWrite R userId allowed db db') : OwnersKept userId db db' := by
  intro row' hrow'
  rcases hwrite.rows row' hrow' with hold | ⟨huser, -⟩
  · exact .inr ⟨row', hold, rfl, rfl⟩
  · exact .inl huser

/-- A write under an allowed key keeps the vault open under the new one. -/
theorem vaultOpens_write (haes : R.AesGcmLaws) {userId : String} {newKey : R.Key}
    {allowed : R.Key → Prop} (hwrite : VaultWrite R userId allowed db db')
    (hallowed : ∀ key, allowed key → key = newKey) (hopens : VaultOpens R db userId newKey) :
    VaultOpens R db' userId newKey := by
  intro row' hrow' huser'
  rcases hwrite.rows row' hrow' with hold | ⟨-, ⟨row, hrow, huser, hsame⟩ | hnew⟩
  · exact hopens row' hold huser'
  · rw [hsame]
    exact hopens row hrow huser
  · obtain ⟨plaintext, key, iv, hkey, hencrypted⟩ := hnew
    rw [hencrypted, hallowed key hkey, haes.decrypt_encrypt]
    rfl

/-- A turn of the change outside its transaction leaves the database alone. -/
theorem changePhase_db {phase : ChangePhase R} {ctx : Context R}
    (hphase : ∀ user oldKey newKey newHash accounts,
      phase ≠ .transaction user oldKey newKey newHash accounts) :
    (phase.turn call.sessionId call.now call.userId call.currentPassword call.newPassword
      call.fresh ctx).2.db = ctx.db := by
  cases phase with
  | findUser => rfl
  | userFound found => cases found <;> rfl
  | verifying user =>
      rw [ChangePhase.turn]
      cases call.currentPassword with
      | none => rfl
      | some current =>
          rw [Handler.expect_some_bind, Handler.ensure_bind]
          split
          · rw [Handler.bind_pure_state]
            rcases hnew : newMasterPassword call.newPassword ctx with ⟨e | new, ctx'⟩
            · rw [(newMasterPassword_error hnew).1]
            · rw [(newMasterPassword_ok_iff.mp hnew).2.2]
          · rfl
  | derivingOldKey user current new | derivingNewKey user oldKey new => rfl
  | findAccounts user oldKey newKey newHash | committed user newKey => rfl
  | transaction user oldKey newKey newHash accounts =>
      exact absurd rfl (hphase user oldKey newKey newHash accounts)

/-- What the change knows in its next phase. -/
theorem phaseFact_turn {phase next : ChangePhase R} {ctx ctx' : Context R}
    (hphase : ∀ user oldKey newKey newHash accounts,
      phase ≠ .transaction user oldKey newKey newHash accounts)
    (hfact : PhaseFact call ctx.db phase)
    (hturn : phase.turn call.sessionId call.now call.userId call.currentPassword call.newPassword
      call.fresh ctx = (.ok (some next), ctx')) :
    PhaseFact call ctx.db next ∧ ∀ user newKey, next ≠ .committed user newKey := by
  cases phase with
  | findUser =>
      obtain ⟨hnext, -⟩ := Prod.mk.inj hturn
      obtain rfl := Option.some.inj (Except.ok.inj hnext)
      exact ⟨rfl, nofun⟩
  | userFound found =>
      obtain ⟨user, _, hexpect, hpure⟩ := Handler.bind_ok_iff.mp hturn
      obtain ⟨rfl, rfl⟩ := Handler.expect_ok_iff.mp hexpect
      obtain ⟨hnext, -⟩ := Prod.mk.inj hpure
      obtain rfl := Option.some.inj (Except.ok.inj hnext)
      exact ⟨hfact.symm, nofun⟩
  | verifying user =>
      obtain ⟨current, _, hexpect, hrun⟩ := Handler.bind_ok_iff.mp hturn
      obtain ⟨hcurrent, rfl⟩ := Handler.expect_ok_iff.mp hexpect
      obtain ⟨_, _, hensure, hrun⟩ := Handler.bind_ok_iff.mp hrun
      obtain ⟨hverify, rfl⟩ := Handler.ensure_ok_iff.mp hensure
      obtain ⟨new, _, haccepted, hpure⟩ := Handler.bind_ok_iff.mp hrun
      obtain ⟨hnew, hlength, rfl⟩ := newMasterPassword_ok_iff.mp haccepted
      obtain ⟨hnext, -⟩ := Prod.mk.inj hpure
      obtain rfl := Option.some.inj (Except.ok.inj hnext)
      exact ⟨⟨⟨hfact, hcurrent, hverify⟩, hnew, hlength⟩, nofun⟩
  | derivingOldKey user current new =>
      obtain ⟨hnext, -⟩ := Prod.mk.inj hturn
      obtain rfl := Option.some.inj (Except.ok.inj hnext)
      exact ⟨⟨current, hfact.1, hfact.2, rfl⟩, nofun⟩
  | derivingNewKey user oldKey new =>
      obtain ⟨hnext, -⟩ := Prod.mk.inj hturn
      obtain rfl := Option.some.inj (Except.ok.inj hnext)
      obtain ⟨current, hcurrent, hnew, hold⟩ := hfact
      exact ⟨⟨current, new, hcurrent, hnew, hold, rfl, rfl⟩, nofun⟩
  | findAccounts user oldKey newKey newHash =>
      obtain ⟨hnext, -⟩ := Prod.mk.inj hturn
      obtain rfl := Option.some.inj (Except.ok.inj hnext)
      exact ⟨⟨hfact, snapshotCurrent_snapshot call.userId ctx.db⟩, nofun⟩
  | transaction user oldKey newKey newHash accounts =>
      exact absurd rfl (hphase user oldKey newKey newHash accounts)
  | committed user newKey =>
      obtain ⟨hnext, -⟩ := Prod.mk.inj hturn
      exact absurd (Except.ok.inj hnext) (by simp)

/-- Only the phase after the commit ends the change. -/
theorem phase_ends {phase : ChangePhase R} {ctx ctx' : Context R}
    (hphase : ∀ user oldKey newKey newHash accounts,
      phase ≠ .transaction user oldKey newKey newHash accounts)
    (hturn : phase.turn call.sessionId call.now call.userId call.currentPassword call.newPassword
      call.fresh ctx = (.ok none, ctx')) : ∃ user newKey, phase = .committed user newKey := by
  have hnone : ∀ {α : Type} {x : Route R α} {f : α → ChangePhase R},
      (x >>= fun a => pure (some (f a))) ctx ≠ (.ok none, ctx') := by
    intro α x f heq
    obtain ⟨_, _, -, hpure⟩ := Handler.bind_ok_iff.mp heq
    exact absurd (Except.ok.inj (Prod.mk.inj hpure).1) (by simp)
  cases phase with
  | committed user newKey => exact ⟨user, newKey, rfl⟩
  | transaction user oldKey newKey newHash accounts =>
      exact absurd rfl (hphase user oldKey newKey newHash accounts)
  | verifying user =>
      obtain ⟨_, _, -, hrun⟩ := Handler.bind_ok_iff.mp hturn
      obtain ⟨_, _, -, hrun⟩ := Handler.bind_ok_iff.mp hrun
      obtain ⟨_, _, -, hpure⟩ := Handler.bind_ok_iff.mp hrun
      exact absurd (Except.ok.inj (Prod.mk.inj hpure).1) (by simp)
  | findUser => exact absurd hturn hnone
  | userFound found => exact absurd hturn hnone
  | derivingOldKey user current new => exact absurd (Except.ok.inj (Prod.mk.inj hturn).1) (by simp)
  | derivingNewKey user oldKey new => exact absurd (Except.ok.inj (Prod.mk.inj hturn).1) (by simp)
  | findAccounts user oldKey newKey newHash => exact absurd hturn hnone

/-- The commit does what the whole method does at that moment. -/
theorem changeMasterPassword_of_commit {tx : OpenTransaction R} {ctx : Context R} {revoked : Nat}
    (hprepared : Prepared call ctx.db tx.user tx.oldKey tx.newKey tx.newHash)
    (hdone : snapshot ctx.db call.userId = tx.done)
    (hcommit : rotateKeys call.userId tx.done tx.oldKey tx.newKey tx.newHash call.fresh call.now
      ctx.db = (.ok revoked, db')) :
    ∃ ctx', (SerialRequest.change (R := R)).method call ctx = (.ok (), ctx') ∧ ctx'.db = db' := by
  obtain ⟨current, new, hcurrent, hnew, hold, hkey, hhash⟩ := hprepared
  rw [← hdone, hold, hkey, hhash] at hcommit
  refine ⟨_, Handler.bind_ok_iff.mpr ⟨revoked, _,
    changeMasterPassword_of_rotateKeys hcurrent hnew hcommit, rfl⟩, rfl⟩

/-- After the commit the vault opens under the new key, and no row has changed
its owner. -/
theorem vaultOpens_commit (haes : R.AesGcmLaws) {tx : OpenTransaction R} {revoked : Nat}
    (hdone : snapshot db call.userId = tx.done)
    (hcommit : rotateKeys call.userId tx.done tx.oldKey tx.newKey tx.newHash call.fresh call.now
      db = (.ok revoked, db')) :
    VaultOpens R db' call.userId tx.newKey ∧ OwnersKept call.userId db db' := by
  rw [← hdone] at hcommit
  obtain ⟨⟨accounts, g, hdb, hrows, hrelated⟩, -⟩ := rotateKeys_ok haes hcommit
  have haccounts : db'.accounts.rows = db.accounts.rows.map g :=
    (congrArg (fun db : Database => db.accounts.rows) hdb).trans hrows
  have howner : ∀ row ∈ db.accounts.rows, (g row).userId = row.userId := by
    intro row hrow
    by_cases huser : row.userId = call.userId
    · obtain ⟨payload, plaintext, now, heq, -⟩ := (hrelated row hrow).rotated huser
      rw [heq]
      rfl
    · rw [(hrelated row hrow).untouched huser]
  constructor
  · intro row' hrow' huser'
    rw [haccounts] at hrow'
    obtain ⟨row, hrow, rfl⟩ := List.mem_map.mp hrow'
    have huser : row.userId = call.userId := (howner row hrow).symm.trans huser'
    obtain ⟨payload, plaintext, now, heq, -, hopens⟩ := (hrelated row hrow).rotated huser
    rw [heq]
    show (R.decrypt payload tx.newKey).isSome
    rw [hopens]
    rfl
  · intro row' hrow'
    rw [haccounts] at hrow'
    obtain ⟨row, hrow, rfl⟩ := List.mem_map.mp hrow'
    exact .inr ⟨row, hrow, (hrelated row hrow).id_eq.symm, (howner row hrow).symm⟩

theorem serially_concat {log : List (SerialRequest R)} {request : SerialRequest R}
    {before after ctx : Context R} (hlog : serially call log before = (.ok ⟨⟩, ctx))
    (hrequest : request.method call ctx = (.ok (), after)) :
    serially call (log ++ [request]) before = (.ok ⟨⟩, after) := by
  have : LawfulMonad (Handler Exception (Context R)) := Handler.lawfulMonad
  unfold serially at hlog ⊢
  rw [List.forM_eq_forM] at hlog ⊢
  rw [List.forM_append, Handler.bind_of_ok hlog, List.forM_cons, Handler.bind_of_ok hrequest,
    List.forM_nil]
  rfl

end Facts

/-! ## The invariant -/

namespace RotationState

/-- The database is that of the serial order so far, and what the change knows is
true. -/
structure RotationInvariant (call : ChangeCall R) (server : Server R) (state : RotationState R) :
    Prop where
  serial : ∃ ctx, serially call state.log (server.context call.sessionId) = (.ok ⟨⟩, ctx) ∧
    ctx.db = state.server.db
  stage : StageFact call state.server.db state.change

/-- What holds of each account request. -/
structure Tracked (call : ChangeCall R) (state : RotationState R) (task : VaultTask R) : Prop where
  afterChange : task.afterChange = true → state.change = .returned (.ok ())
  owned : task.work = .running .write → ∀ id ∈ task.op.target, ∀ row,
    state.server.db.accounts.find? id = some row → row.userId = call.userId

section Steps

variable {call : ChangeCall R} {server : Server R} {state state' : RotationState R}
  {task : VaultTask R}

theorem Tracked.step (htracked : Tracked call state task)
    (hchange : state.change = .returned (.ok ()) → state'.change = .returned (.ok ()))
    (howners : OwnersKept call.userId state.server.db state'.server.db) :
    Tracked call state' task where
  afterChange := fun h => hchange (htracked.afterChange h)
  owned := by
    intro hwork id hid row' hrow'
    obtain ⟨hmem, hkey⟩ := Table.find?_eq_some_iff.mp hrow'
    rcases howners row' hmem with huser | ⟨row, hrow, hsame, huser⟩
    · exact huser
    · rw [← huser]
      exact htracked.owned hwork id hid row
        (Table.find?_eq_some_iff.mpr ⟨hrow, hsame.trans hkey⟩)

theorem ownersKept_refl (db : Database) : OwnersKept call.userId db db :=
  fun row hrow => .inr ⟨row, hrow, rfl, rfl⟩

/-- One turn of the change. -/
theorem changeTurn_keeps (haes : R.AesGcmLaws)
    (hinvariant : RotationInvariant call server state) :
    RotationInvariant call server (changeTurn call state) ∧
      (state.change = .returned (.ok ()) →
        (changeTurn call state).change = .returned (.ok ())) ∧
      OwnersKept call.userId state.server.db (changeTurn call state).server.db := by
  have hstage := hinvariant.stage
  have hsame : OwnersKept call.userId state.server.db state.server.db :=
    ownersKept_refl state.server.db
  unfold changeTurn
  split
  next user oldKey newKey newHash accounts hchange =>
    rw [hchange] at hstage ⊢
    exact ⟨⟨hinvariant.serial, hstage⟩, nofun, hsame⟩
  next phase hphase hchange =>
    rw [hchange] at hstage ⊢
    have hdb : (phase.turn call.sessionId call.now call.userId call.currentPassword
        call.newPassword call.fresh (state.server.context call.sessionId)).2.db =
        state.server.db := changePhase_db hphase
    split
    next next' ctx hturn =>
      rw [hturn] at hdb
      have hdb : ctx.db = state.server.db := hdb
      have hfact : PhaseFact call (state.server.context call.sessionId).db phase := hstage
      have hnext := (phaseFact_turn hphase hfact hturn).1
      refine ⟨⟨?_, ?_⟩, nofun, ?_⟩
      · rw [Server.save_db, hdb]
        exact hinvariant.serial
      · rw [Server.save_db, hdb]
        exact hnext
      · rw [Server.save_db, hdb]
        exact hsame
    next ctx hturn =>
      rw [hturn] at hdb
      have hdb : ctx.db = state.server.db := hdb
      obtain ⟨user, newKey, rfl⟩ := phase_ends hphase hturn
      refine ⟨⟨?_, ?_⟩, nofun, ?_⟩
      · rw [Server.save_db, hdb]
        exact hinvariant.serial
      · rw [Server.save_db, hdb]
        exact hstage.2
      · rw [Server.save_db, hdb]
        exact hsame
    next e ctx hturn =>
      rw [hturn] at hdb
      have hdb : ctx.db = state.server.db := hdb
      refine ⟨⟨?_, trivial⟩, nofun, ?_⟩
      · rw [Server.save_db, hdb]
        exact hinvariant.serial
      · rw [Server.save_db, hdb]
        exact hsame
  next tx hchange =>
    rw [hchange] at hstage ⊢
    obtain ⟨hprepared, hcurrent⟩ := hstage
    split
    next secret rest htodo =>
      split
      next u hstatement =>
        obtain ⟨db', hrun⟩ := Handler.exists_run hstatement
        obtain ⟨-, -, ⟨row, hrow⟩, -⟩ := reencrypt_ok_iff.mp hrun
        refine ⟨⟨hinvariant.serial, hprepared, ?_, ?_⟩, nofun, hsame⟩
        · rw [hcurrent.snapshot, htodo]
          simp
        · intro other hother
          rcases List.mem_append.mp hother with hold | hnew
          · exact hcurrent.present other hold
          · rw [List.mem_singleton.mp hnew, hrow]
            rfl
      next e hstatement => exact ⟨⟨hinvariant.serial, trivial⟩, nofun, hsame⟩
    next htodo =>
      split
      next revoked db' hcommit =>
        have hcommit := Handler.transaction_ok_iff.mp hcommit
        -- Nothing is left to do, so every row of the snapshot was there when it was written.
        have hdone : snapshot state.server.db call.userId = tx.done := by
          rw [hcurrent.snapshot, htodo, List.append_nil, List.filter_eq_self]
          exact hcurrent.present
        obtain ⟨hopens, howners⟩ := vaultOpens_commit haes hdone hcommit
        obtain ⟨ctx, hserial, hdb⟩ := hinvariant.serial
        refine ⟨⟨?_, hprepared.newKey_eq, ?_⟩, nofun, howners⟩
        · rw [← hdb] at hprepared hdone hcommit
          obtain ⟨ctx', hchange', hdb'⟩ := changeMasterPassword_of_commit hprepared hdone hcommit
          exact ⟨ctx', serially_concat hserial hchange', hdb'⟩
        · rw [← hprepared.newKey_eq]
          exact hopens
      next e db' hcommit => exact ⟨⟨hinvariant.serial, trivial⟩, nofun, hsame⟩
  next result hchange => exact ⟨hinvariant, id, hsame⟩

/-- The write of an account request that is in time. -/
theorem write_keeps (haes : R.AesGcmLaws) {answer : Option VaultPhase} {db' : Database}
    (hinvariant : RotationInvariant call server state) (htracked : Tracked call state task)
    (hintime : WritesInTime call () state task) (hwork : task.work = .running .write)
    (hfree : ¬ ∃ id ∈ task.op.target, id ∈ state.change.lockedIds)
    (hrun : task.op.turn call.userId task.key task.now .write state.server.db =
      (.ok answer, db')) :
    (∃ ctx, serially call (state.log ++ [task.serial]) (server.context call.sessionId) =
        (.ok ⟨⟩, ctx) ∧ ctx.db = db') ∧
      StageFact call db' state.change ∧ OwnersKept call.userId state.server.db db' := by
  obtain ⟨hdeclared, hpassword⟩ := hintime hwork
  have howned := htracked.owned hwork
  have hwrite := VaultOp.write_vaultWrite hdeclared howned hrun
  refine ⟨?_, ?_, ownersKept_write hwrite⟩
  · obtain ⟨ctx, hserial, hdb⟩ := hinvariant.serial
    have hservice := VaultOp.service_of_write hdeclared howned hrun
    rw [← hdb] at hservice
    refine ⟨ctx.withDb db', serially_concat hserial ?_, rfl⟩
    exact onDatabase_run.mpr ⟨db', hservice, rfl⟩
  · apply hinvariant.stage.write hwrite.users
    · intro done todo htaken hunstored hlocked hcurrent
      cases hquiet : task.op.writesPassword with
      | true =>
          -- After the snapshot a password is only written once the change has returned.
          rcases hpassword hquiet with hbefore | ⟨hafter, -⟩
          · exact absurd (htaken.symm.trans hbefore) (by decide)
          · rw [htracked.afterChange hafter] at hunstored
            contradiction
      | false =>
          rcases VaultOp.write_onlyRemoves hdeclared hquiet hrun with hnone | ⟨id, hid, hremoves⟩
          · exact hcurrent.onlyRemoves hnone (by simp)
          · refine hcurrent.onlyRemoves hremoves fun secret hsecret heq => ?_
            refine hfree ⟨id, hid, ?_⟩
            rw [Option.some.inj heq]
            exact hlocked secret hsecret
    · intro htaken hopens
      apply vaultOpens_write haes hwrite ?_ hopens
      rintro key ⟨hquiet, rfl⟩
      rcases hpassword hquiet with hbefore | ⟨-, hkey⟩
      · exact absurd (htaken.symm.trans hbefore) (by decide)
      · exact hkey

/-- One turn of an account request. -/
theorem turn_keeps (haes : R.AesGcmLaws) (hinvariant : RotationInvariant call server state)
    (htracked : Tracked call state task) (hintime : WritesInTime call () state task) :
    RotationInvariant call server (turn call () state task).1 ∧
      (turn call () state task).1.change = state.change ∧
      OwnersKept call.userId state.server.db (turn call () state task).1.server.db ∧
      Tracked call (turn call () state task).1 (turn call () state task).2 := by
  have hsame : OwnersKept call.userId state.server.db state.server.db :=
    ownersKept_refl state.server.db
  unfold turn
  split
  next succeeded hwork => exact ⟨hinvariant, rfl, hsame, htracked⟩
  next phase hwork =>
    split
    next hlocked => exact ⟨hinvariant, rfl, hsame, htracked⟩
    next hfree =>
      cases phase with
      | find =>
          have hstate : (task.op.turn call.userId task.key task.now .find state.server.db).2 =
              state.server.db := VaultOp.find_state state.server.db
          split
          next next' db' hrun =>
            rw [hrun] at hstate
            obtain rfl : db' = state.server.db := hstate
            refine ⟨hinvariant, rfl, hsame, htracked.afterChange, fun hwrite => ?_⟩
            exact VaultOp.find_owned hrun
          next db' hrun =>
            -- A lookup never ends an operation.
            exfalso
            cases hop : task.op with
            | create body fresh =>
                rw [hop] at hrun
                exact absurd (Except.ok.inj (Prod.mk.inj hrun).1) (by simp)
            | update id body iv | remove id =>
                rw [hop] at hrun
                obtain ⟨_, _, -, hpure⟩ := Handler.bind_ok_iff.mp hrun
                exact absurd (Except.ok.inj (Prod.mk.inj hpure).1) (by simp)
          next e db' hrun =>
            rw [hrun] at hstate
            obtain rfl : db' = state.server.db := hstate
            exact ⟨hinvariant, rfl, hsame, htracked.afterChange, nofun⟩
      | write =>
          have hfree : ¬ ∃ id ∈ task.op.target, id ∈ state.change.lockedIds :=
            fun hlocked => hfree ⟨rfl, hlocked⟩
          split
          next next' db' hrun => exact absurd (VaultOp.write_ends hrun) (by simp)
          next db' hrun =>
            obtain ⟨hserial, hstage, howners⟩ :=
              write_keeps haes hinvariant htracked hintime hwork hfree hrun
            refine ⟨⟨hserial, hstage⟩, rfl, howners, htracked.afterChange, nofun⟩
          next e db' hrun =>
            obtain rfl := VaultOp.write_error hrun
            exact ⟨hinvariant, rfl, hsame, htracked.afterChange, nofun⟩

theorem keyStored_eq {stage : RotationStage R} (hstage : stage.keyStored = true) :
    stage = .returned (.ok ()) := by
  unfold RotationStage.keyStored at hstage
  split at hstage
  · rfl
  · contradiction

/-- The guard of an account request only touches the session. -/
theorem request_keeps (sessionId : String) (now : Int) (op : VaultOp R)
    (hinvariant : RotationInvariant call server state) :
    RotationInvariant call server (start call (.request sessionId now op) state).1 ∧
      (start call (.request sessionId now op) state).1.change = state.change ∧
      (start call (.request sessionId now op) state).1.server.db = state.server.db ∧
      ∀ task ∈ (start call (.request sessionId now op) state).2,
        Tracked call (start call (.request sessionId now op) state).1 task := by
  have hdb := unlockedGuard_db sessionId now (state.server.context sessionId)
  have hsaved : ∀ ctx : Context R, ctx.db = state.server.db →
      RotationInvariant call server { state with server := state.server.save sessionId ctx } := by
    intro ctx hctx
    refine ⟨?_, ?_⟩
    · rw [Server.save_db, hctx]
      exact hinvariant.serial
    · rw [Server.save_db, hctx]
      exact hinvariant.stage
  rcases hguard : unlockedGuard sessionId now (state.server.context sessionId) with
    ⟨e | ⟨userId, key⟩, ctx⟩
  · rw [hguard] at hdb
    rw [start, hguard]
    exact ⟨hsaved ctx hdb, rfl, hdb, nofun⟩
  · rw [hguard] at hdb
    rw [start, hguard]
    dsimp only
    split
    · refine ⟨hsaved ctx hdb, rfl, hdb, ?_⟩
      rintro _ ⟨⟩
      refine ⟨keyStored_eq, fun hwork id hid => ?_⟩
      -- Only a creation begins with its write, and it has no row to own.
      cases op with
      | create body fresh => contradiction
      | update id body iv | remove id => exact absurd (VaultWork.running.inj hwork) nofun
    · exact ⟨hinvariant, rfl, rfl, nofun⟩

theorem rotation_stable (haes : R.AesGcmLaws) (call : ChangeCall R) (server : Server R) :
    Pool.Stable (start call) (turn call) (WritesInTime call) (RotationInvariant call server)
      (Tracked call) where
  start_invariant := by
    intro what state hinvariant
    cases what with
    | changeTurn => exact (changeTurn_keeps haes hinvariant).1
    | request sessionId now op => exact (request_keeps sessionId now op hinvariant).1
  start_own := by
    intro what state hinvariant task htask
    cases what with
    | changeTurn => contradiction
    | request sessionId now op => exact (request_keeps sessionId now op hinvariant).2.2.2 task htask
  start_other := by
    intro what state other hinvariant htracked
    cases what with
    | changeTurn =>
        obtain ⟨-, hchange, howners⟩ := changeTurn_keeps haes hinvariant
        exact htracked.step hchange howners
    | request sessionId now op =>
        obtain ⟨-, hchange, hdb, -⟩ := request_keeps sessionId now op hinvariant
        refine htracked.step (fun h => hchange.trans h) ?_
        rw [hdb]
        exact ownersKept_refl _
  turn_invariant := fun _ _ _ hinvariant htracked hintime =>
    (turn_keeps haes hinvariant htracked hintime).1
  turn_own := fun _ _ _ hinvariant htracked hintime =>
    (turn_keeps haes hinvariant htracked hintime).2.2.2
  turn_other := by
    intro _ state task other hinvariant htracked hintime hother
    obtain ⟨-, hchange, howners, -⟩ := turn_keeps haes hinvariant htracked hintime
    exact hother.step (fun h => hchange.trans h) howners

end Steps

/-! ## The serial order -/

/-- What the change has added to the serial order. -/
def changeEntry : RotationStage R → List (SerialRequest R)
  | .running (.committed _ _) | .returned (.ok _) => [.change]
  | _ => []

/-- What an account request has added to it. -/
def written (task : VaultTask R) : Option (SerialRequest R) :=
  if task.work = .returned true then some task.serial else none

/-- The serial order has each request that has taken effect once. -/
def Logged (pool : Pool (RotationState R) (VaultTask R)) : Prop :=
  pool.shared.log.Perm (changeEntry pool.shared.change ++ pool.tasks.filterMap written)

section Logged

variable {call : ChangeCall R} {server : Server R} {state : RotationState R} {task : VaultTask R}

/-- The change is added when it commits. -/
theorem changeTurn_logged (hinvariant : RotationInvariant call server state) :
    ∃ added, (changeTurn call state).log = state.log ++ added ∧
      changeEntry (changeTurn call state).change = changeEntry state.change ++ added := by
  have hstage := hinvariant.stage
  unfold changeTurn
  split
  next user oldKey newKey newHash accounts hchange =>
    rw [hchange]
    exact ⟨[], by simp, rfl⟩
  next phase hphase hchange =>
    rw [hchange] at hstage ⊢
    by_cases hcommitted : ∃ user newKey, phase = .committed user newKey
    · obtain ⟨user, newKey, rfl⟩ := hcommitted
      exact ⟨[], by rw [List.append_nil]; rfl, rfl⟩
    · -- A phase before the commit is no change yet, whatever it has read.
      have hbefore : changeEntry (R := R) (.running phase) = [] := by
        cases phase with
        | committed user newKey => exact absurd ⟨user, newKey, rfl⟩ hcommitted
        | _ => rfl
      split
      next next' ctx hturn =>
        have hfact : PhaseFact call (state.server.context call.sessionId).db phase := hstage
        have hnext := (phaseFact_turn hphase hfact hturn).2
        refine ⟨[], by simp, ?_⟩
        rw [hbefore]
        cases next' with
        | committed user newKey => exact absurd rfl (hnext user newKey)
        | _ => rfl
      next ctx hturn => exact absurd (phase_ends hphase hturn) hcommitted
      next e ctx hturn => exact ⟨[], by simp, by rw [hbefore]; rfl⟩
  next tx hchange =>
    rw [hchange]
    split
    · split
      · exact ⟨[], by simp, rfl⟩
      · exact ⟨[], by simp, rfl⟩
    · split
      · exact ⟨[.change], rfl, rfl⟩
      · exact ⟨[], by simp, rfl⟩
  next result hchange => exact ⟨[], by simp, by simp⟩

/-- An account request is added when its write succeeds. -/
theorem turn_logged :
    (turn call () state task).1.change = state.change ∧
      (((turn call () state task).1.log = state.log ∧
          written (turn call () state task).2 = written task) ∨
        ((turn call () state task).1.log = state.log ++ [task.serial] ∧
          written task = none ∧ written (turn call () state task).2 = some task.serial)) := by
  unfold turn
  split
  next succeeded hwork => exact ⟨rfl, .inl ⟨rfl, rfl⟩⟩
  next phase hwork =>
    have hbefore : written task = none := by rw [written, hwork, if_neg (by simp)]
    split
    · exact ⟨rfl, .inl ⟨rfl, rfl⟩⟩
    · split
      · exact ⟨rfl, .inl ⟨rfl, by rw [hbefore, written, if_neg (by simp)]⟩⟩
      · exact ⟨rfl, .inr ⟨rfl, hbefore, if_pos rfl⟩⟩
      · exact ⟨rfl, .inl ⟨rfl, by rw [hbefore, written, if_neg (by simp)]⟩⟩

/-- A request that begins has not written yet. -/
theorem request_logged {sessionId : String} {now : Int} {op : VaultOp R} :
    (start call (.request sessionId now op) state).1.log = state.log ∧
      ∀ task ∈ (start call (.request sessionId now op) state).2, written task = none := by
  rcases hguard : unlockedGuard sessionId now (state.server.context sessionId) with
    ⟨e | ⟨userId, key⟩, ctx⟩
  · rw [start, hguard]
    exact ⟨rfl, nofun⟩
  · rw [start, hguard]
    dsimp only
    split
    · refine ⟨rfl, ?_⟩
      rintro _ ⟨⟩
      exact if_neg (by simp)
    · exact ⟨rfl, nofun⟩

theorem logged_step (pool : Pool (RotationState R) (VaultTask R)) (move : Move (RotationStart R) Unit)
    (hinvariant : RotationInvariant call server pool.shared) (hlogged : Logged pool) :
    Logged (pool.step (start call) (turn call) move) := by
  unfold Logged at hlogged ⊢
  cases move with
  | start what =>
      cases what with
      | changeTurn =>
          obtain ⟨added, hlog, hentry⟩ := changeTurn_logged hinvariant
          show (changeTurn call pool.shared).log.Perm
            (changeEntry (changeTurn call pool.shared).change ++ (pool.tasks ++ []).filterMap written)
          rw [hlog, hentry, List.append_nil, List.append_assoc]
          apply (hlogged.append_right added).trans
          rw [List.append_assoc]
          exact List.perm_append_comm.append_left _
      | request sessionId now op =>
          obtain ⟨-, hchange, -, -⟩ := request_keeps sessionId now op hinvariant
          obtain ⟨hlog, hnew⟩ := @request_logged R call pool.shared sessionId now op
          have hnone : (start call (.request sessionId now op) pool.shared).2.toList.filterMap
              written = [] := by
            rw [List.filterMap_eq_nil_iff]
            exact fun task htask => hnew task (Option.mem_toList.mp htask)
          rw [Pool.step_start]
          dsimp only
          rw [hlog, hchange, List.filterMap_append, hnone, List.append_nil]
          exact hlogged
  | turn index input =>
      cases htask : pool.tasks[index]? with
      | none =>
          rw [Pool.step_turn_of_none _ _ htask]
          exact hlogged
      | some task =>
          rw [Pool.step_turn _ _ htask]
          obtain ⟨hchange, ⟨hlog, hsame⟩ | ⟨hlog, hbefore, hafter⟩⟩ :=
            @turn_logged R call pool.shared task
          · show (turn call () pool.shared task).1.log.Perm _
            rw [hlog, hchange, filterMap_set_of_eq htask hsame]
            exact hlogged
          · show (turn call () pool.shared task).1.log.Perm _
            rw [hlog, hchange]
            apply (hlogged.append_right [task.serial]).trans
            rw [List.append_assoc]
            exact (filterMap_set_perm htask hbefore hafter).symm.append_left _

end Logged

end RotationState

open RotationState in
/-- In every interleaving in which each password is written in time, the requests
are serializable. -/
theorem rotationSerializable_of_writesInTime (haes : R.AesGcmLaws) (call : ChangeCall R)
    (server : Server R) (moves : List (Move (RotationStart R) Unit))
    (hintime : Along (Pool.step (start call) (turn call)) (Pool.TurnMeets (WritesInTime call))
      (init server) moves) :
    RotationSerializable call server
      (run (Pool.step (start call) (turn call)) (init server) moves) := by
  set final := run (Pool.step (start call) (turn call)) (init server) moves with hfinal
  have hinit : Pool.Holds (RotationInvariant call server) (Tracked call) (init server) :=
    ⟨⟨⟨_, rfl, rfl⟩, trivial⟩, fun task htask => absurd htask (by simp [init])⟩
  have hboth : Pool.Holds (RotationInvariant call server) (Tracked call) final ∧ Logged final := by
    let both := fun pool : Pool (RotationState R) (VaultTask R) =>
      Pool.Holds (RotationInvariant call server) (Tracked call) pool ∧ Logged pool
    have hstep : ∀ pool move, both pool → Pool.TurnMeets (WritesInTime call) pool move →
        both (Pool.step (start call) (turn call) pool move) := by
      intro pool move hpool hmeets
      exact ⟨(rotation_stable haes call server).step pool move hpool.1 hmeets,
        logged_step pool move hpool.1.1 hpool.2⟩
    have hbefore : both (init server) := ⟨hinit, List.Perm.refl _⟩
    exact run_invariant hstep hbefore hintime
  intro hreturned hsucceeded
  obtain ⟨⟨⟨hserial, hstage⟩, -⟩, hlogged⟩ := hboth
  rw [hreturned] at hstage
  refine ⟨⟨final.shared.log, ?_, hserial⟩, hstage⟩
  have hwritten : final.tasks.filterMap written = final.tasks.map VaultTask.serial := by
    rw [← List.filterMap_eq_map]
    apply List.filterMap_congr
    intro task htask
    exact if_pos (hsucceeded task htask)
  rw [Logged, hreturned, hwritten] at hlogged
  exact hlogged

/-! ## Writes that the change overtakes -/

namespace LateWrite

def oldKey : symbolicRuntime.Key := ("first-password", "k1")

def user : User :=
  ⟨"u", "sub", "u@example.com", symbolicRuntime.hashMasterPassword "h1" "first-password", "k1", 15, 0⟩

def account : Account :=
  ⟨"a", "u", "Mail", "mail.example.com", "mail", "me",
    symbolicRuntime.encrypt "secret" oldKey "iv", none, none, 0, 0⟩

/-- A session of the user is unlocked. -/
def server : Server symbolicRuntime where
  db := { Database.empty with
    users := ⟨[user], List.pairwise_singleton _ _⟩
    accounts := ⟨[account], List.pairwise_singleton _ _⟩ }
  keys := UnlockKeyStore.empty.set "sid" 0 oldKey 15
  sessions _ := { userId := some "u", unlocked := some true }

def call : ChangeCall symbolicRuntime where
  sessionId := "sid"
  now := 1
  userId := "u"
  currentPassword := some "first-password"
  newPassword := some "second-password"
  fresh := ⟨"h2", "k2", "unused", id⟩

/-- A second account of the user. -/
def create : RotationStart symbolicRuntime :=
  .request "sid" 1 (.create
    [("serviceName", .str "Shop"), ("urlOrAppName", .str "shop.example.com"),
      ("category", .str "shop"), ("loginId", .str "me"), ("password", .str "other")] ⟨"b", "iv"⟩)

/-- A new password for the first account. -/
def update : RotationStart symbolicRuntime :=
  .request "sid" 1 (.update "a" [("password", .str "new-secret")] "iv2")

def changeTurns (count : Nat) : List (Move (RotationStart symbolicRuntime) Unit) :=
  List.replicate count (.start .changeTurn)

def final (moves : List (Move (RotationStart symbolicRuntime) Unit)) :
    Pool (RotationState symbolicRuntime) (VaultTask symbolicRuntime) :=
  run (Pool.step (RotationState.start call) (RotationState.turn call)) (RotationState.init server)
    moves

/-- The account is created after the snapshot has been read. -/
def createLate : List (Move (RotationStart symbolicRuntime) Unit) :=
  .start create :: changeTurns 6 ++ [.turn 0 ()] ++ changeTurns 4

/-- The account is created before the snapshot is read. -/
def createEarly : List (Move (RotationStart symbolicRuntime) Unit) :=
  [.start create, .turn 0 ()] ++ changeTurns 10

/-- The password is updated between the snapshot and its transaction. -/
def updateLate : List (Move (RotationStart symbolicRuntime) Unit) :=
  [.start update, .turn 0 ()] ++ changeTurns 7 ++ [.turn 0 ()] ++ changeTurns 3

/-- The passwords of the user's accounts under the new key. -/
def passwords (db : Database) : List (Option String) :=
  (db.accounts.rows.filter (·.userId = "u")).map fun row =>
    symbolicRuntime.decrypt row.encryptedPassword call.newKey

end LateWrite

open LateWrite in
/-- A created row stays under the old key, and an updated password is overwritten
by the older one, although all requests succeed. -/
theorem rotationSerializable_fails :
    ¬ RotationSerializable call server (final createLate) ∧
      ((final updateLate).shared.change.keyStored = true ∧
        (∀ task ∈ (final updateLate).tasks, task.work = .returned true) ∧
        passwords (final updateLate).shared.server.db = [some "secret"]) := by
  constructor
  · intro hserializable
    obtain ⟨-, hopens⟩ := hserializable (RotationState.keyStored_eq (by decide +kernel))
      (by decide +kernel)
    have hclosed : ¬ ∀ row ∈ (final createLate).shared.server.db.accounts.rows,
        row.userId = "u" → (symbolicRuntime.decrypt row.encryptedPassword call.newKey).isSome := by
      decide +kernel
    exact hclosed hopens
  · decide +kernel

open LateWrite in
/-- A creation whose row is in the snapshot. -/
theorem rotationSerializable_of_writesInTime_example :
    RotationSerializable call server (final createEarly) :=
  rotationSerializable_of_writesInTime symbolicRuntime.aesGcmLaws call server createEarly
    (by decide +kernel)

end MyAccountController
