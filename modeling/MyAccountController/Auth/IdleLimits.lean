import MyAccountController.Auth.RequestTurns
import MyAccountController.Common.SymbolicRuntime

/-! # The idle limit of an unlocked session

The limit is kept twice: in the user's row, and in the entry of the key store
that `touch` reads. `updateAutoLockMinutes` writes both, one after the other.
`unlock` and `changeMasterPassword` put the limit of a user row into the entry
that they read several awaits before.
-/

namespace MyAccountController

open Foundation Handler

variable {R : Runtime}

/-! ## `updateAutoLockMinutes` -/

/-- What `AuthService.updateAutoLockMinutes` waits for. -/
inductive UpdatePhase where
  /-- The update of the row is to run. -/
  | writeRow (userId : String) (minutes : Int)
  | rowWritten (minutes : Int)
  deriving DecidableEq

namespace AuthService

/-- The first part of `updateAutoLockMinutes`. -/
def checkedMinutes (autoLockMinutes : Option Int) : Route R Int := do
  let invalid : Exception := .badRequest "자동 잠금 시간은 1분~240분 사이로 설정해주세요."
  let minutes ← Handler.expect autoLockMinutes invalid
  Handler.ensure (1 ≤ minutes ∧ minutes ≤ 240) invalid
  pure minutes

end AuthService

def UpdatePhase.turn (sessionId : String) : UpdatePhase → Route R (Option UpdatePhase)
  | writeRow userId minutes => do
      let _ ← onDatabase (Prisma.user.update userId (AuthService.setAutoLockMinutes minutes)
        (AuthService.setAutoLockMinutes_unindexed minutes))
      pure (some (.rowWritten minutes))
  | rowWritten minutes => do
      Handler.modify fun ctx =>
        ctx.withKeys (ctx.keys.updateAutoLockMinutes sessionId minutes)
      pure none

theorem updateAutoLockMinutes_inRow (sessionId userId : String) (autoLockMinutes : Option Int) :
    (do
      let minutes ← AuthService.checkedMinutes autoLockMinutes
      inRow (UpdatePhase.turn (R := R) sessionId) 2 (.writeRow userId minutes)) =
      AuthService.updateAutoLockMinutes sessionId userId autoLockMinutes := by
  have : LawfulMonad (Handler Exception (Context R)) := Handler.lawfulMonad
  simp only [inRow, UpdatePhase.turn, AuthService.updateAutoLockMinutes,
    AuthService.checkedMinutes, bind_assoc, pure_bind]
  rfl

/-! ## The system -/

inductive LimitRequest (R : Runtime) where
  | updateAutoLockMinutes (autoLockMinutes : Option Int)
  | unlock (password : Option String)
  | changeMasterPassword (currentPassword newPassword : Option String) (fresh : FreshSecrets R)

/-- Where the handler of a request is. -/
inductive LimitStage (R : Runtime) where
  | arrived (request : LimitRequest R)
  | updating (phase : UpdatePhase)
  | unlocking (password : Option String) (phase : UnlockPhase)
  | changing (userId : String) (currentPassword newPassword : Option String)
      (fresh : FreshSecrets R) (phase : ChangePhase R)

/-- The guard and the first part of the handler, or its next turn. -/
def LimitStage.turn (sessionId : String) (now : Int) :
    LimitStage R → Route R (Option (LimitStage R))
  | arrived (.updateAutoLockMinutes autoLockMinutes) => do
      let (userId, _) ← unlockedGuard sessionId now
      let minutes ← AuthService.checkedMinutes autoLockMinutes
      pure (some (.updating (.writeRow userId minutes)))
  | arrived (.unlock password) => do
      let userId ← loggedInGuard
      pure (some (.unlocking password (.findUser userId)))
  | arrived (.changeMasterPassword currentPassword newPassword fresh) => do
      let (userId, _) ← unlockedGuard sessionId now
      pure (some (.changing userId currentPassword newPassword fresh .findUser))
  | updating phase => do
      let next ← phase.turn sessionId
      pure (next.map .updating)
  | unlocking password phase => do
      let next ← phase.turn sessionId now password
      pure (next.map (.unlocking password))
  | changing userId currentPassword newPassword fresh phase => do
      let next ← phase.turn sessionId now userId currentPassword newPassword fresh
      pure (next.map (.changing userId currentPassword newPassword fresh))

/-- A request with its copy of the session. -/
inductive LimitTask (R : Runtime) where
  | running (stage : LimitStage R) (session : SessionData)
  | ended (result : Except Exception Unit)

structure LimitState (R : Runtime) where
  db : Database
  keys : UnlockKeyStore R.Key

/-- A request that begins, with the session it has loaded. -/
structure LimitStart (R : Runtime) where
  request : LimitRequest R
  session : SessionData

namespace LimitState

variable (sessionId : String)

/-- One turn, at the given time. -/
def turn (now : Int) (state : LimitState R) : LimitTask R → LimitState R × LimitTask R
  | .running stage session =>
      match stage.turn sessionId now ⟨state.db, state.keys, session⟩ with
      | (.ok (some next), ctx) => (⟨ctx.db, ctx.keys⟩, .running next ctx.session)
      | (.ok none, ctx) => (⟨ctx.db, ctx.keys⟩, .ended (.ok ()))
      | (.error err, ctx) => (⟨ctx.db, ctx.keys⟩, .ended (.error err))
  | .ended result => (state, .ended result)

/-- One move of the system. -/
def step : Pool (LimitState R) (LimitTask R) → Move (LimitStart R) Int →
    Pool (LimitState R) (LimitTask R) :=
  Pool.step (fun what state => (state, some (.running (.arrived what.request) what.session)))
    (turn sessionId)

end LimitState

/-! ## The law and its condition -/

/-- The limit stored in the user's row. -/
def Database.limitOf (db : Database) (userId : String) : Option Int :=
  (db.users.find? userId).map User.autoLockMinutes

/-- `touch` enforces the limit of the user's row. -/
def LimitState.LimitsAgree (sessionId userId : String) (state : LimitState R) : Prop :=
  ∀ entry, state.keys sessionId = some entry → ∀ current, state.db.limitOf userId = some current →
    entry.autoLockMinutes = current

def LimitTask.succeeded : LimitTask R → Bool
  | .ended (.ok _) => true
  | .ended (.error _) | .running _ _ => false

/-- Once all requests have succeeded, the limits agree. -/
def SettledLimits (sessionId userId : String) (pool : Pool (LimitState R) (LimitTask R)) : Prop :=
  (∀ task ∈ pool.tasks, task.succeeded = true) → pool.shared.LimitsAgree sessionId userId

namespace LimitTask

/-- The limit that the next turn puts into the key store. -/
def puts : LimitTask R → Option Int
  | .running (.updating (.rowWritten minutes)) _ => some minutes
  | .running (.unlocking _ (.derivingKey user _)) _ => some user.autoLockMinutes
  | .running (.changing _ _ _ _ (.committed user _)) _ => some user.autoLockMinutes
  | _ => none

/-- The limit that an update has written to the row and puts into the key store next. -/
def written : LimitTask R → Option Int
  | .running (.updating (.rowWritten minutes)) _ => some minutes
  | _ => none

theorem puts_of_written {task : LimitTask R} {limit : Int} (hwritten : task.written = some limit) :
    task.puts = some limit := by
  unfold written at hwritten
  split at hwritten
  · exact hwritten
  · contradiction

end LimitTask

namespace LimitState

/-- A limit is put into the key store only while it is that of the user's row, or while an
update that has written the row's limit has still to put it there. -/
def MayMove (userId : String) (pool : Pool (LimitState R) (LimitTask R)) :
    Move (LimitStart R) Int → Prop
  | .start _ => True
  | .turn index _ => ∀ task ∈ pool.tasks[index]?, ∀ limit ∈ task.puts,
      ∀ current ∈ pool.shared.db.limitOf userId,
        limit = current ∨ ∃ other ∈ pool.tasks, other.written = some current

instance (userId : String) (pool : Pool (LimitState R) (LimitTask R)) :
    ∀ move, Decidable (MayMove userId pool move)
  | .start _ => isTrue trivial
  | .turn index _ => inferInstanceAs (Decidable (∀ task ∈ pool.tasks[index]?,
      ∀ limit ∈ task.puts, ∀ current ∈ pool.shared.db.limitOf userId, _))

end LimitState

/-! ## Turns that leave the limits alone -/

/-- The limits of all rows are as before, and so is that of the entry if it is still there. -/
structure KeepsLimits (sessionId : String) (ctx ctx' : Context R) : Prop where
  row : ∀ userId, ctx'.db.limitOf userId = ctx.db.limitOf userId
  entry : ∀ entry', ctx'.keys sessionId = some entry' →
    ∃ entry, ctx.keys sessionId = some entry ∧ entry'.autoLockMinutes = entry.autoLockMinutes

namespace KeepsLimits

variable {sessionId : String} {now : Int}

theorem refl (ctx : Context R) : KeepsLimits sessionId ctx ctx :=
  ⟨fun _ => rfl, fun entry hentry => ⟨entry, hentry, rfl⟩⟩

theorem trans (a b c : Context R) (hab : KeepsLimits sessionId a b)
    (hbc : KeepsLimits sessionId b c) : KeepsLimits sessionId a c := by
  refine ⟨fun userId => (hbc.row userId).trans (hab.row userId), fun entry hentry => ?_⟩
  obtain ⟨middle, hmiddle, heq⟩ := hbc.entry entry hentry
  obtain ⟨before, hbefore, heq'⟩ := hab.entry middle hmiddle
  exact ⟨before, hbefore, heq.trans heq'⟩

theorem touch (ctx : Context R) :
    KeepsLimits sessionId ctx (ctx.withKeys (ctx.keys.touch sessionId now).2) := by
  refine ⟨fun _ => rfl, fun entry hentry => ?_⟩
  change (ctx.keys.touch sessionId now).2 sessionId = some entry at hentry
  unfold UnlockKeyStore.touch at hentry
  cases hbefore : ctx.keys sessionId with
  | none =>
      rw [hbefore] at hentry
      exact absurd (hbefore.symm.trans hentry) (by simp)
  | some before =>
      rw [hbefore] at hentry
      dsimp only at hentry
      split at hentry
      · dsimp only at hentry
        rw [UnlockKeyStore.delete_self] at hentry
        contradiction
      · dsimp only at hentry
        rw [Function.update_self] at hentry
        obtain rfl := Option.some.inj hentry
        exact ⟨before, rfl, rfl⟩

end KeepsLimits

section Turns

variable {sessionId : String} {now : Int}

theorem keepsLimits_onDatabase {α : Type} {query : Query α}
    (hquery : Keeps (fun db db' => ∀ userId, db'.limitOf userId = db.limitOf userId) query) :
    Keeps (KeepsLimits (R := R) sessionId) (onDatabase query) :=
  fun ctx => ⟨hquery ctx.db, fun entry hentry => ⟨entry, hentry, rfl⟩⟩

theorem keepsLimits_loggedInGuard : Keeps (KeepsLimits sessionId) (loggedInGuard (R := R)) :=
  Keeps.of_state_eq KeepsLimits.refl loggedInGuard_state

theorem keepsLimits_unlockedGuard :
    Keeps (KeepsLimits sessionId) (unlockedGuard (R := R) sessionId now) := by
  unfold unlockedGuard
  apply keeps_bind KeepsLimits.trans keepsLimits_loggedInGuard
  intro userId _ ctx _
  rw [state_bind, modify_bind]
  apply KeepsLimits.trans _ _ _ (KeepsLimits.touch ctx)
  cases (ctx.keys.touch sessionId now).1 with
  | none => exact ⟨fun _ => rfl, fun entry hentry => ⟨entry, hentry, rfl⟩⟩
  | some key =>
      cases ctx.session.isUnlocked <;>
        exact ⟨fun _ => rfl, fun entry hentry => ⟨entry, hentry, rfl⟩⟩

/-- A query that reads, or that writes no limit. -/
theorem keepsLimits_bind_pure {α β : Type} {x : Route R α} (hx : Keeps (KeepsLimits sessionId) x)
    (f : α → β) : Keeps (KeepsLimits sessionId) (do let a ← x; pure (f a)) := by
  intro ctx
  rw [bind_pure_state]
  exact hx ctx

/-- An update of a user row that leaves the limit alone. -/
theorem limitOf_update {userId : String} {f : User → User} {hf : Table.Unindexed f}
    (hlimit : ∀ user, (f user).autoLockMinutes = user.autoLockMinutes) :
    Keeps (fun db db' => ∀ other, db'.limitOf other = db.limitOf other)
      (Prisma.user.update userId f hf) := by
  intro db other
  rcases hrun : Prisma.user.update userId f hf db with ⟨e | row, db'⟩
  · obtain ⟨-, -, rfl⟩ := (Model.update_error_iff _).mp hrun
    rfl
  · obtain ⟨⟨before, hfind, -⟩, rfl⟩ := (Model.update_ok_iff _).mp hrun
    unfold Database.limitOf
    show ((db.users.modify userId f hf).find? other).map User.autoLockMinutes = _
    by_cases hid : other = userId
    · subst hid
      have hbefore : db.users.find? other = some before := hfind
      rw [Table.find?_modify hf hbefore, hbefore]
      exact congrArg some (hlimit before)
    · rw [Table.find?_modify_of_ne hf hid]

/-- The transaction of a change writes the hash and the salt, not the limit. -/
theorem limitOf_rotateKeys {userId newHash : String} {accounts : List AuthService.AccountSecret}
    {oldKey newKey : R.Key} {fresh : FreshSecrets R} :
    Keeps (fun db db' => ∀ userId, db'.limitOf userId = db.limitOf userId)
      (AuthService.rotateKeys userId accounts oldKey newKey newHash fresh now) := by
  have hrefl : ∀ db : Database, ∀ userId, db.limitOf userId = db.limitOf userId := fun _ _ => rfl
  have htrans : ∀ a b c : Database, (∀ userId, b.limitOf userId = a.limitOf userId) →
      (∀ userId, c.limitOf userId = b.limitOf userId) →
      ∀ userId, c.limitOf userId = a.limitOf userId :=
    fun _ _ _ hab hbc userId => (hbc userId).trans (hab userId)
  unfold AuthService.rotateKeys
  apply keeps_bind htrans
  · apply keeps_forM hrefl htrans
    intro account _
    unfold AuthService.reencrypt
    apply keeps_bind htrans
    · exact Keeps.of_state_eq hrefl fun db => by
        cases R.decrypt account.encryptedPassword oldKey <;> rfl
    · intro plaintext _ db _
      rw [bind_pure_state]
      rcases hrun : Prisma.account.update account.id
        (AuthService.setEncryptedPassword (R.encrypt plaintext newKey (fresh.iv account.id)) now)
        (AuthService.setEncryptedPassword_unindexed _ _) db with ⟨e | row, db'⟩
      · obtain ⟨-, -, rfl⟩ := (Model.update_error_iff _).mp hrun
        exact hrefl db'
      · obtain ⟨-, rfl⟩ := (Model.update_ok_iff _).mp hrun
        exact hrefl db
  · intro _ _ db _
    have hupdate := @limitOf_update userId (AuthService.setMasterPassword newHash fresh.kdfSalt)
      (AuthService.setMasterPassword_unindexed _ _) fun _ => rfl
    exact keeps_bind htrans hupdate (fun _ _ db _ => hrefl db) db

theorem UnlockPhase.keepsLimits {password : Option String} {phase : UnlockPhase}
    (hphase : ∀ user current, phase ≠ .derivingKey user current) :
    Keeps (KeepsLimits (R := R) sessionId) (phase.turn sessionId now password) := by
  intro ctx
  cases phase with
  | findUser userId => exact KeepsLimits.refl ctx
  | userFound found => cases found <;> exact KeepsLimits.refl ctx
  | verifying user =>
      cases password with
      | none => exact KeepsLimits.refl ctx
      | some current =>
          rw [UnlockPhase.turn, expect_some_bind, ensure_bind]
          split <;> exact KeepsLimits.refl ctx
  | derivingKey user current => exact absurd rfl (hphase user current)

theorem ChangePhase.keepsLimits {userId : String} {currentPassword newPassword : Option String}
    {fresh : FreshSecrets R} {phase : ChangePhase R}
    (hphase : ∀ user newKey, phase ≠ .committed user newKey) :
    Keeps (KeepsLimits sessionId)
      (phase.turn sessionId now userId currentPassword newPassword fresh) := by
  intro ctx
  cases phase with
  | findUser => exact KeepsLimits.refl ctx
  | userFound found => cases found <;> exact KeepsLimits.refl ctx
  | verifying user =>
      cases currentPassword with
      | none => exact KeepsLimits.refl ctx
      | some current =>
          rw [ChangePhase.turn, expect_some_bind, ensure_bind]
          split
          · rw [bind_pure_state]
            cases newPassword with
            | none => exact KeepsLimits.refl ctx
            | some new =>
                rw [AuthService.newMasterPassword, expect_some_bind, ensure_bind]
                split <;> exact KeepsLimits.refl ctx
          · exact KeepsLimits.refl ctx
  | derivingOldKey user current new => exact KeepsLimits.refl ctx
  | derivingNewKey user oldKey new => exact KeepsLimits.refl ctx
  | findAccounts user oldKey newKey newHash => exact KeepsLimits.refl ctx
  | transaction user oldKey newKey newHash accounts =>
      rw [ChangePhase.turn]
      refine keepsLimits_bind_pure (keepsLimits_onDatabase ?_) _ ctx
      exact keeps_transaction (fun _ _ => rfl) limitOf_rotateKeys
  | committed user newKey => exact absurd rfl (hphase user newKey)

theorem checkedMinutes_state (autoLockMinutes : Option Int) (ctx : Context R) :
    (AuthService.checkedMinutes autoLockMinutes ctx).2 = ctx := by
  unfold AuthService.checkedMinutes
  cases autoLockMinutes with
  | none => rfl
  | some minutes =>
      rw [expect_some_bind, ensure_bind]
      split <;> rfl

/-- The outcomes of a turn. -/
inductive LimitTurn (sessionId : String) (state : LimitState R) :
    LimitTask R → LimitState R → LimitTask R → Prop where
  | kept (task task' : LimitTask R) (state' : LimitState R) (hwritten : task.written = none)
      (hrow : ∀ userId, state'.db.limitOf userId = state.db.limitOf userId)
      (hentry : ∀ entry', state'.keys sessionId = some entry' →
        ∃ entry, state.keys sessionId = some entry ∧
          entry'.autoLockMinutes = entry.autoLockMinutes) :
      LimitTurn sessionId state task state' task'
  | wroteRow (userId : String) (minutes : Int) (user : User) (task task' : LimitTask R)
      (hfind : state.db.users.find? userId = some user) (hbefore : task.written = none)
      (hwritten : task'.written = some minutes) :
      LimitTurn sessionId state task
        ⟨Prisma.user.withTable state.db (state.db.users.modify userId
          (AuthService.setAutoLockMinutes minutes)
          (AuthService.setAutoLockMinutes_unindexed minutes)), state.keys⟩ task'
  | put (limit : Int) (task task' : LimitTask R) (keys : UnlockKeyStore R.Key)
      (hputs : task.puts = some limit)
      (hentry : ∀ entry, keys sessionId = some entry → entry.autoLockMinutes = limit) :
      LimitTurn sessionId state task ⟨state.db, keys⟩ task'

variable {state : LimitState R} {session : SessionData}

/-- A turn that leaves the limits alone, whatever its result. -/
theorem limitTurn_kept {stage : LimitStage R}
    (hwritten : (LimitTask.running stage session).written = none)
    (hkeeps : Keeps (KeepsLimits sessionId) (stage.turn sessionId now)) :
    LimitTurn sessionId state (.running stage session)
      (LimitState.turn sessionId now state (.running stage session)).1
      (LimitState.turn sessionId now state (.running stage session)).2 := by
  unfold LimitState.turn
  dsimp only
  have hrelated := hkeeps ⟨state.db, state.keys, session⟩
  rcases hrun : stage.turn sessionId now ⟨state.db, state.keys, session⟩ with ⟨e | _ | next, ctx⟩
  all_goals
    rw [hrun] at hrelated
    exact .kept _ _ _ hwritten hrelated.row hrelated.entry

/-- A turn that puts a limit into the key store and ends. -/
theorem limitTurn_put {stage : LimitStage R} {limit : Int} {keys : UnlockKeyStore R.Key}
    {session' : SessionData} (hputs : (LimitTask.running stage session).puts = some limit)
    (hrun : stage.turn sessionId now ⟨state.db, state.keys, session⟩ =
      (.ok none, ⟨state.db, keys, session'⟩))
    (hentry : ∀ entry, keys sessionId = some entry → entry.autoLockMinutes = limit) :
    LimitTurn sessionId state (.running stage session)
      (LimitState.turn sessionId now state (.running stage session)).1
      (LimitState.turn sessionId now state (.running stage session)).2 := by
  unfold LimitState.turn
  dsimp only
  rw [hrun]
  exact .put limit _ _ keys hputs hentry

theorem set_limit (keys : UnlockKeyStore R.Key) (key : R.Key) (limit : Int) :
    ∀ entry, keys.set sessionId now key limit sessionId = some entry →
      entry.autoLockMinutes = limit := by
  intro entry hentry
  rw [UnlockKeyStore.set_self] at hentry
  obtain rfl := Option.some.inj hentry
  rfl

theorem updateAutoLockMinutes_limit (keys : UnlockKeyStore R.Key) (limit : Int) :
    ∀ entry, keys.updateAutoLockMinutes sessionId limit sessionId = some entry →
      entry.autoLockMinutes = limit := by
  intro entry hentry
  unfold UnlockKeyStore.updateAutoLockMinutes at hentry
  cases hbefore : keys sessionId with
  | none =>
      rw [hbefore] at hentry
      exact absurd (hbefore.symm.trans hentry) (by simp)
  | some before =>
      rw [hbefore] at hentry
      dsimp only at hentry
      rw [Function.update_self] at hentry
      obtain rfl := Option.some.inj hentry
      rfl

theorem limit_turn (task : LimitTask R) :
    LimitTurn sessionId state task (LimitState.turn sessionId now state task).1
      (LimitState.turn sessionId now state task).2 := by
  cases task with
  | ended result => exact .kept _ _ _ rfl (fun _ => rfl) fun entry hentry => ⟨entry, hentry, rfl⟩
  | running stage session =>
      cases stage with
      | arrived request =>
          apply limitTurn_kept rfl
          cases request with
          | unlock password => exact keepsLimits_bind_pure keepsLimits_loggedInGuard _
          | changeMasterPassword currentPassword newPassword fresh =>
              exact keepsLimits_bind_pure keepsLimits_unlockedGuard _
          | updateAutoLockMinutes autoLockMinutes =>
              apply keeps_bind KeepsLimits.trans keepsLimits_unlockedGuard
              intro admitted _ ctx _
              refine keepsLimits_bind_pure ?_ _ ctx
              exact Keeps.of_state_eq KeepsLimits.refl (checkedMinutes_state autoLockMinutes)
      | unlocking password phase =>
          cases phase with
          | derivingKey user current => exact limitTurn_put rfl rfl (set_limit _ _ _)
          | _ =>
              apply limitTurn_kept rfl
              refine keepsLimits_bind_pure (UnlockPhase.keepsLimits ?_) _
              intro user current hphase
              cases hphase
      | changing userId currentPassword newPassword fresh phase =>
          cases phase with
          | committed user newKey => exact limitTurn_put rfl rfl (set_limit _ _ _)
          | _ =>
              apply limitTurn_kept rfl
              refine keepsLimits_bind_pure (ChangePhase.keepsLimits ?_) _
              intro user newKey hphase
              cases hphase
      | updating phase =>
          cases phase with
          | rowWritten minutes => exact limitTurn_put rfl rfl (updateAutoLockMinutes_limit _ _)
          | writeRow userId minutes =>
              -- The one turn that writes the limit of the row; it fails when the user is gone.
              rcases hrun : Prisma.user.update userId (AuthService.setAutoLockMinutes minutes)
                (AuthService.setAutoLockMinutes_unindexed minutes) state.db with ⟨e | row, db⟩
              · have hfailed : (UpdatePhase.writeRow userId minutes).turn sessionId
                    (⟨state.db, state.keys, session⟩ : Context R) =
                      (.error e, ⟨db, state.keys, session⟩) :=
                  bind_of_error (onDatabase_run.mpr ⟨db, hrun, rfl⟩)
                obtain ⟨-, -, rfl⟩ := (Model.update_error_iff _).mp hrun
                unfold LimitState.turn
                dsimp only
                rw [LimitStage.turn, bind_of_error hfailed]
                exact .kept _ _ _ rfl (fun _ => rfl) fun entry hentry => ⟨entry, hentry, rfl⟩
              · have hwrote : (UpdatePhase.writeRow userId minutes).turn sessionId
                    (⟨state.db, state.keys, session⟩ : Context R) =
                      (.ok (some (.rowWritten minutes)), ⟨db, state.keys, session⟩) :=
                  bind_of_ok (onDatabase_run.mpr ⟨db, hrun, rfl⟩)
                obtain ⟨⟨user, hfind, -⟩, rfl⟩ := (Model.update_ok_iff _).mp hrun
                unfold LimitState.turn
                dsimp only
                rw [LimitStage.turn, bind_of_ok hwrote]
                exact .wroteRow userId minutes user _ _ hfind rfl rfl

end Turns

/-! ## The invariant -/

namespace LimitState

/-- The limits agree, or an update that has written the row's limit has still to put it into
the key store. -/
def LimitOnItsWay (sessionId userId : String) (pool : Pool (LimitState R) (LimitTask R)) : Prop :=
  ∀ entry, pool.shared.keys sessionId = some entry →
    ∀ current, pool.shared.db.limitOf userId = some current →
      entry.autoLockMinutes = current ∨ ∃ task ∈ pool.tasks, task.written = some current

section Moves

variable {sessionId userId : String} {pool : Pool (LimitState R) (LimitTask R)} {index : Nat}
  {task task' : LimitTask R} {state' : LimitState R}

/-- An update that waits to put its limit into the key store still does after the turn of a
task that has written none. -/
theorem written_set {current : Int} (htask : pool.tasks[index]? = some task)
    (hnone : task.written ≠ some current)
    (hpending : ∃ other ∈ pool.tasks, other.written = some current) :
    ∃ other ∈ pool.tasks.set index task', other.written = some current := by
  obtain ⟨other, hother, hwritten⟩ := hpending
  refine ⟨other, mem_set_of_ne htask hother ?_, hwritten⟩
  rintro rfl
  exact hnone hwritten

theorem limitOnItsWay_turn (hway : LimitOnItsWay sessionId userId pool)
    (htask : pool.tasks[index]? = some task)
    (hmay : ∀ limit ∈ task.puts, ∀ current ∈ pool.shared.db.limitOf userId,
      limit = current ∨ ∃ other ∈ pool.tasks, other.written = some current)
    (hturn : LimitTurn sessionId pool.shared task state' task') :
    LimitOnItsWay sessionId userId ⟨state', pool.tasks.set index task'⟩ := by
  intro entry' hentry' current hcurrent
  cases hturn with
  | kept _ _ _ hwritten hrow hentry =>
      have hnone : task.written ≠ some current := by simp [hwritten]
      obtain ⟨entry, hbefore, hlimit⟩ := hentry entry' hentry'
      rw [hlimit]
      rw [hrow] at hcurrent
      rcases hway entry hbefore current hcurrent with hsame | hpending
      · exact .inl hsame
      · exact .inr (written_set htask hnone hpending)
  | wroteRow id minutes user _ _ hfind hbefore hwritten =>
      have hnone : task.written ≠ some current := by simp [hbefore]
      unfold Database.limitOf at hcurrent
      change ((pool.shared.db.users.modify id (AuthService.setAutoLockMinutes minutes)
        (AuthService.setAutoLockMinutes_unindexed minutes)).find? userId).map
          User.autoLockMinutes = some current at hcurrent
      by_cases hid : userId = id
      · subst hid
        rw [Table.find?_modify (AuthService.setAutoLockMinutes_unindexed minutes) hfind] at hcurrent
        obtain rfl := Option.some.inj hcurrent
        exact .inr ⟨task', mem_set_self htask, hwritten⟩
      · rw [Table.find?_modify_of_ne (AuthService.setAutoLockMinutes_unindexed minutes) hid]
          at hcurrent
        rcases hway entry' hentry' current hcurrent with hsame | hpending
        · exact .inl hsame
        · exact .inr (written_set htask hnone hpending)
  | put limit _ _ keys hputs hentry =>
      rw [hentry entry' hentry']
      rcases hmay limit hputs current hcurrent with hsame | hpending
      · exact .inl hsame
      · by_cases hown : task.written = some current
        · -- The row's limit is the one that is put now.
          exact .inl (Option.some.inj (hputs.symm.trans (LimitTask.puts_of_written hown)))
        · exact .inr (written_set htask hown hpending)

theorem limitOnItsWay_step (move : Move (LimitStart R) Int)
    (hway : LimitOnItsWay sessionId userId pool) (hmay : MayMove userId pool move) :
    LimitOnItsWay sessionId userId (step sessionId pool move) := by
  cases move with
  | start what =>
      intro entry hentry current hcurrent
      rcases hway entry hentry current hcurrent with hsame | ⟨task, htask, hwritten⟩
      · exact .inl hsame
      · exact .inr ⟨task, List.mem_append_left _ htask, hwritten⟩
  | turn index now =>
      unfold step
      cases htask : pool.tasks[index]? with
      | none =>
          rw [Pool.step_turn_of_none _ _ htask]
          exact hway
      | some task =>
          rw [Pool.step_turn _ _ htask]
          exact limitOnItsWay_turn hway htask (hmay task htask) (limit_turn task)

end Moves

end LimitState

/-! ## Runs -/

/-- When a limit is put into the key store only while it is that of the user's row, or while
an update that has written the row's limit has still to put it there, the limits agree once
all requests have succeeded. -/
theorem settledLimits {sessionId userId : String} {pool : Pool (LimitState R) (LimitTask R)}
    {moves : List (Move (LimitStart R) Int)} (hagree : pool.shared.LimitsAgree sessionId userId)
    (halong : Along (LimitState.step sessionId) (LimitState.MayMove userId) pool moves) :
    SettledLimits sessionId userId (run (LimitState.step sessionId) pool moves) := by
  have hway : LimitState.LimitOnItsWay sessionId userId
      (run (LimitState.step sessionId) pool moves) := by
    apply @run_invariant _ _ _ _ (LimitState.LimitOnItsWay sessionId userId) ?_ _ _ ?_ halong
    · exact fun pool move hway hmay => LimitState.limitOnItsWay_step move hway hmay
    · exact fun entry hentry current hcurrent => .inl (hagree entry hentry current hcurrent)
  intro hsucceeded entry hentry current hcurrent
  rcases hway entry hentry current hcurrent with hsame | ⟨task, htask, hwritten⟩
  · exact hsame
  · -- A request that has ended puts nothing any more.
    have hended := hsucceeded task htask
    cases task with
    | running stage session => contradiction
    | ended result => contradiction

/-! ## A limit that is put back -/

namespace LimitState.OneSession

def user : User :=
  ⟨"u", "sub", "u@x", symbolicRuntime.hashMasterPassword "h" "master-password", "k", 15, 0⟩

/-- The session is unlocked with the limit of the row. -/
def unlocked : Pool (LimitState symbolicRuntime) (LimitTask symbolicRuntime) :=
  ⟨⟨{ Database.empty with users := ⟨[user], by decide⟩ },
    UnlockKeyStore.empty.set "sid" 0 ("master-password", "k") 15⟩, []⟩

def request (request : LimitRequest symbolicRuntime) : Move (LimitStart symbolicRuntime) Int :=
  .start ⟨request, { userId := some "u", unlocked := some true }⟩

def turns (index count : Nat) : List (Move (LimitStart symbolicRuntime) Int) :=
  List.replicate count (.turn index 1)

/-- The unlock has read the row, and puts its limit back after the update. -/
def overtaken : List (Move (LimitStart symbolicRuntime) Int) :=
  request (.unlock (some "master-password")) :: turns 0 4 ++
    request (.updateAutoLockMinutes (some 60)) :: turns 1 3 ++ turns 0 1

/-- The unlock reads the row after the update has written it. -/
def inTime : List (Move (LimitStart symbolicRuntime) Int) :=
  [request (.unlock (some "master-password")), request (.updateAutoLockMinutes (some 60))] ++
    turns 0 1 ++ turns 1 2 ++ turns 0 4 ++ turns 1 1

end LimitState.OneSession

open LimitState.OneSession in
/-- Both requests succeed, the row holds 60 minutes and the key store 15. -/
theorem not_settledLimits :
    ¬ SettledLimits "sid" "u" (run (LimitState.step "sid") unlocked overtaken) := by
  intro hsettled
  have hentry : (run (LimitState.step "sid") unlocked overtaken).shared.keys "sid" =
      some ⟨("master-password", "k"), 15, 1⟩ := by rfl
  have hlimit : (run (LimitState.step "sid") unlocked overtaken).shared.db.limitOf "u" =
      some 60 := by rfl
  have hsucceeded : ∀ task ∈ (run (LimitState.step "sid") unlocked overtaken).tasks,
      task.succeeded = true := by decide +kernel
  exact absurd (hsettled hsucceeded _ hentry 60 hlimit) (by decide)

open LimitState.OneSession in
theorem settledLimits_example :
    SettledLimits "sid" "u" (run (LimitState.step "sid") unlocked inTime) := by
  apply settledLimits
  · intro entry hentry current hcurrent
    obtain rfl := Option.some.inj hentry
    obtain rfl := Option.some.inj hcurrent
    rfl
  · decide +kernel

end MyAccountController
